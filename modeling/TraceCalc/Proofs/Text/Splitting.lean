/-
This file splits texts at a separator, and puts pieces together that are split again in this way.
-/

namespace TraceCalc.Text

/-- The separators stand between the pieces, which may be empty. -/
def split (separator : Char) (text : String) : List String :=
  (text.toList.splitOn separator).map String.ofList

/-- A text without the separator is one piece. -/
def Lacks (separator : Char) (text : String) : Prop := separator ∉ text.toList

instance (separator : Char) (text : String) : Decidable (Lacks separator text) :=
  inferInstanceAs (Decidable (_ ∉ _))

variable {separator : Char} {text : String}

theorem lacks_append_iff {first second : String} :
    Lacks separator (first ++ second) ↔ Lacks separator first ∧ Lacks separator second := by
  rw [Lacks, String.toList_append, List.mem_append, not_or]
  rfl

/-- No separator is brought in between the pieces. -/
theorem lacks_intercalate {glue : String} (lacks : Lacks separator glue) {pieces : List String}
    (each : ∀ piece ∈ pieces, Lacks separator piece) :
    Lacks separator (glue.intercalate pieces) := by
  induction pieces with
  | nil => simp [Lacks]
  | cons piece rest inductionHypothesis =>
      obtain ⟨first, others⟩ := List.forall_mem_cons.mp each
      cases rest with
      | nil => rwa [String.intercalate_singleton]
      | cons next rest =>
          rw [String.intercalate_cons_cons, lacks_append_iff, lacks_append_iff]
          exact ⟨⟨first, lacks⟩, inductionHypothesis others⟩

theorem lacks_natRepr (visible : separator.isDigit = false) (number : Nat) :
    Lacks separator number.repr := by
  intro member
  rw [Nat.toList_repr] at member
  rw [Nat.isDigit_of_mem_toDigits (by decide) (by decide) member] at visible
  simp at visible

theorem lacks_intRepr (visible : separator.isDigit = false) (different : separator ≠ '-')
    (number : Int) : Lacks separator number.repr := by
  cases number with
  | ofNat magnitude => exact lacks_natRepr visible magnitude
  | negSucc magnitude =>
      have sign : Lacks separator "-" := by simpa [Lacks] using different
      exact lacks_append_iff.mpr ⟨sign, lacks_natRepr visible (magnitude + 1)⟩

theorem split_of_lacks (lacks : Lacks separator text) : split separator text = [text] := by
  rw [split, List.splitOn_eq_singleton lacks, List.map_singleton, String.ofList_toList]

/-- A separator divides the pieces before it from those behind it. -/
theorem split_append (first second : String) :
    split separator (first ++ (String.singleton separator ++ second)) =
      split separator first ++ split separator second := by
  rw [split, String.toList_append, String.toList_append, String.toList_singleton,
    List.singleton_append, List.splitOn_append_cons_self, List.map_append, ← split, ← split]

/-- An empty piece stands behind a separator at the end. -/
theorem split_append_singleton (text : String) :
    split separator (text ++ String.singleton separator) = split separator text ++ [""] := by
  have empty : Lacks separator "" := by simp [Lacks]
  have behind : split separator (text ++ (String.singleton separator ++ "")) = _ :=
    split_append text ""
  rwa [String.append_empty, split_of_lacks empty] at behind

/-- Pieces with a separator behind each of them come before the pieces of the rest. -/
theorem split_join_append {pieces : List String} (each : ∀ piece ∈ pieces, Lacks separator piece)
    (rest : String) :
    split separator
        (String.join (pieces.map (· ++ String.singleton separator)) ++ rest) =
      pieces ++ split separator rest := by
  induction pieces with
  | nil => simp
  | cons piece pieces inductionHypothesis =>
      obtain ⟨first, others⟩ := List.forall_mem_cons.mp each
      rw [List.map_cons, String.join_cons, String.append_assoc, String.append_assoc,
        split_append, split_of_lacks first, inductionHypothesis others, List.cons_append,
        List.nil_append, List.cons_append]

theorem split_intercalate {pieces : List String} (filled : pieces ≠ [])
    (each : ∀ piece ∈ pieces, Lacks separator piece) :
    split separator ((String.singleton separator).intercalate pieces) = pieces := by
  rw [split, String.toList_intercalate, String.toList_singleton,
    List.splitOn_intercalate separator (by simpa [Lacks] using each) (by simpa using filled),
    List.map_map]
  simp [Function.comp_def]

end TraceCalc.Text
