/-
This file states how a stream of bytes is divided into lines.
-/

import TraceCalc.Text.Lines

namespace TraceCalc.Text

/-- The bytes of a line that is a text. -/
def encodeLine (text : String) : List UInt8 := text.toUTF8.data.toList

theorem decodeLine_encodeLine (text : String) : decodeLine (encodeLine text) = some text := by
  rw [decodeLine, encodeLine, Array.toArray_toList]
  exact dif_pos text.isValidUTF8

/-- No other bytes denote the text. -/
theorem encodeLine_of_decodeLine {line : List UInt8} {text : String}
    (decoded : decodeLine line = some text) : encodeLine text = line := by
  rw [decodeLine, String.fromUTF8?] at decoded
  split at decoded
  next =>
      rw [← Option.some.inj decoded]
      rfl
  next => simp at decoded

/-- A carriage return belongs to the end of the line only right before the line feed. -/
inductive IsDividedInto : List UInt8 → List (List UInt8) → Prop
  | empty : IsDividedInto [] []
  | unfinished {line : List UInt8} (filled : line ≠ []) (unbroken : lineFeed ∉ line) :
      IsDividedInto line [line]
  | ended {line rest : List UInt8} {lines : List (List UInt8)} (unbroken : lineFeed ∉ line)
      (bare : line.getLast? ≠ some carriageReturn) (others : IsDividedInto rest lines) :
      IsDividedInto (line ++ lineFeed :: rest) (line :: lines)
  | returned {line rest : List UInt8} {lines : List (List UInt8)} (unbroken : lineFeed ∉ line)
      (others : IsDividedInto rest lines) :
      IsDividedInto (line ++ carriageReturn :: lineFeed :: rest) (line :: lines)

/-- A line feed separates the lines before it from those behind it. -/
theorem lines_append_cons (first rest : List UInt8) :
    lines (first ++ lineFeed :: rest) =
      (first.splitOnP (· == lineFeed)).map dropCarriageReturn ++ lines rest := by
  have pieces : (first ++ lineFeed :: rest).splitOnP (· == lineFeed) =
      first.splitOnP (· == lineFeed) ++ rest.splitOnP (· == lineFeed) :=
    List.splitOnP_append_cons first rest (beq_self_eq_true lineFeed)
  have filled : rest.splitOnP (· == lineFeed) ≠ [] := List.splitOnP_ne_nil _ _
  simp only [lines]
  rw [pieces, List.dropLast_append_of_ne_nil filled, List.getLast?_append,
    List.getLast?_eq_some_getLast filled, Option.some_or, List.map_append, List.append_assoc]

theorem lines_nil : lines [] = [] := rfl

/-- What follows a line feed adds lines and changes none. -/
theorem lines_append {first : List UInt8} (ended : first.getLast? = some lineFeed)
    (rest : List UInt8) : lines (first ++ rest) = lines first ++ lines rest := by
  obtain ⟨initial, rfl⟩ := List.getLast?_eq_some_iff.mp ended
  rw [List.append_assoc, List.singleton_append, lines_append_cons, lines_append_cons, lines_nil,
    List.append_nil]

theorem splitOnP_of_notMem {line : List UInt8} (unbroken : lineFeed ∉ line) :
    line.splitOnP (· == lineFeed) = [line] :=
  List.splitOnP_eq_singleton fun _ member =>
    beq_eq_false_iff_ne.mpr fun same => unbroken (same ▸ member)

theorem lines_cons {line : List UInt8} (unbroken : lineFeed ∉ line) (rest : List UInt8) :
    lines (line ++ lineFeed :: rest) = dropCarriageReturn line :: lines rest := by
  rw [lines_append_cons, splitOnP_of_notMem unbroken, List.map_singleton, List.singleton_append]

theorem lines_of_notMem {line : List UInt8} (filled : line ≠ []) (unbroken : lineFeed ∉ line) :
    lines line = [line] := by
  simp only [lines, splitOnP_of_notMem unbroken]
  simp [filled]

theorem dropCarriageReturn_concat (line : List UInt8) :
    dropCarriageReturn (line ++ [carriageReturn]) = line := by
  rw [dropCarriageReturn, if_pos List.getLast?_concat, List.dropLast_concat]

theorem notMem_concat {line : List UInt8} (unbroken : lineFeed ∉ line) :
    lineFeed ∉ line ++ [carriageReturn] := by
  simpa [lineFeed, carriageReturn] using unbroken

theorem IsDividedInto.lines_eq {input : List UInt8} {parts : List (List UInt8)}
    (divided : IsDividedInto input parts) : lines input = parts := by
  induction divided with
  | empty => rfl
  | unfinished filled unbroken => exact lines_of_notMem filled unbroken
  | ended unbroken bare others inductionHypothesis =>
      rw [lines_cons unbroken, dropCarriageReturn, if_neg bare, inductionHypothesis]
  | returned unbroken others inductionHypothesis =>
      rw [List.append_cons, lines_cons (notMem_concat unbroken), dropCarriageReturn_concat,
        inductionHypothesis]

/-- A line that is ended loses one carriage return, if it has one there. -/
theorem IsDividedInto.cons {line rest : List UInt8} {parts : List (List UInt8)}
    (unbroken : lineFeed ∉ line) (others : IsDividedInto rest parts) :
    IsDividedInto (line ++ lineFeed :: rest) (dropCarriageReturn line :: parts) := by
  rw [dropCarriageReturn]
  split
  next returned =>
      obtain ⟨initial, rfl⟩ := List.getLast?_eq_some_iff.mp returned
      rw [List.dropLast_concat, List.append_assoc]
      exact .returned (fun member => unbroken (List.mem_append_left _ member)) others
  next bare => exact .ended unbroken bare others

theorem isDividedInto_lines (input : List UInt8) : IsDividedInto input (lines input) := by
  -- A line is taken off with its end, so the induction is on the length of what remains.
  induction size : input.length using Nat.strongRecOn generalizing input with
  | ind size inductionHypothesis =>
      by_cases broken : lineFeed ∈ input
      · obtain ⟨line, rest, rfl, unbroken⟩ := List.eq_append_cons_of_mem broken
        rw [lines_cons unbroken]
        refine .cons unbroken (inductionHypothesis rest.length ?_ rest rfl)
        rw [List.length_append, List.length_cons] at size
        omega
      · by_cases empty : input = []
        · rw [empty]
          exact .empty
        · rw [lines_of_notMem empty broken]
          exact .unfinished empty broken

/-- The first line is all of the input, or a line feed stands behind it. -/
theorem IsDividedInto.of_cons {input line : List UInt8} {parts : List (List UInt8)}
    (divided : IsDividedInto input (line :: parts)) :
    (input = line ∧ parts = []) ∨
      ∃ ended rest, input = ended ++ lineFeed :: rest ∧ lineFeed ∉ ended ∧
        dropCarriageReturn ended = line ∧ IsDividedInto rest parts := by
  cases divided with
  | unfinished filled unbroken => exact .inl ⟨rfl, rfl⟩
  | ended unbroken bare others =>
      exact .inr ⟨line, _, rfl, unbroken, if_neg bare, others⟩
  | returned unbroken others =>
      exact .inr ⟨line ++ [carriageReturn], _, List.append_cons .., notMem_concat unbroken,
        dropCarriageReturn_concat line, others⟩

/-- The input is divided where lines end, and only its end can do without a line feed. -/
theorem IsDividedInto.of_append {input : List UInt8} {before behind : List (List UInt8)}
    (divided : IsDividedInto input (before ++ behind)) :
    ∃ first rest, input = first ++ rest ∧ IsDividedInto first before ∧
      (first.getLast? = some lineFeed ∨ first = [] ∨ rest = []) := by
  induction before generalizing input with
  | nil => exact ⟨[], input, rfl, .empty, .inr (.inl rfl)⟩
  | cons line before inductionHypothesis =>
      rw [List.cons_append] at divided
      rcases divided.of_cons with ⟨rfl, last⟩ | ⟨ended, rest, rfl, unbroken, rfl, others⟩
      · rw [(List.append_eq_nil_iff.mp last).1]
        rw [last] at divided
        exact ⟨input, [], (List.append_nil _).symm, divided, .inr (.inr rfl)⟩
      · obtain ⟨first, rest, rfl, inner, ending⟩ := inductionHypothesis others
        refine ⟨ended ++ lineFeed :: first, rest, by simp, .cons unbroken inner, ?_⟩
        rw [List.getLast?_append, List.getLast?_cons, Option.some_or]
        rcases ending with closed | rfl | rfl
        · rw [closed]
          exact .inl rfl
        · exact .inl rfl
        · exact .inr (.inr rfl)

theorem isDividedInto_iff {input : List UInt8} {parts : List (List UInt8)} :
    IsDividedInto input parts ↔ lines input = parts :=
  ⟨IsDividedInto.lines_eq, fun same => same ▸ isDividedInto_lines input⟩

end TraceCalc.Text
