/-
This file shows that lexemes keep apart with any white space between them, unless two words meet.
-/

import TraceCalc.Proofs.Token.Tokenization

namespace TraceCalc

open Unicode

/-- All white space is taken out of the text. -/
def Text.compact (text : String) : String :=
  String.ofList (text.toList.filter fun character => !isWhiteSpace character)

namespace Lexeme

/-- The text consists of the lexemes in their order, with white space anywhere around them. -/
inductive IsSpaced : List Lexeme → List Char → Prop
  | nil : IsSpaced [] []
  | skip {lexemes : List Lexeme} {character : Char} {text : List Char}
      (blank : isWhiteSpace character = true) (rest : IsSpaced lexemes text) :
      IsSpaced lexemes (character :: text)
  | cons {lexemes : List Lexeme} {text : List Char} (lexeme : Lexeme)
      (rest : IsSpaced lexemes text) : IsSpaced (lexeme :: lexemes) (lexeme.text.toList ++ text)

section Spacing

variable {lexemes : List Lexeme} {text : List Char}

theorem IsSpaced.skipAll {blanks : List Char}
    (blank : ∀ character ∈ blanks, isWhiteSpace character = true)
    (spaced : IsSpaced lexemes text) : IsSpaced lexemes (blanks ++ text) := by
  induction blanks with
  | nil => exact spaced
  | cons character blanks inductionHypothesis =>
      obtain ⟨first, rest⟩ := List.forall_mem_cons.mp blank
      exact .skip first (inductionHypothesis rest)

/-- The end of the source has no text of its own. -/
theorem IsSpaced.of_concat_finish (spaced : IsSpaced (lexemes ++ [.finish]) text) :
    IsSpaced lexemes text := by
  generalize ended : lexemes ++ [.finish] = all at spaced
  induction spaced generalizing lexemes with
  | nil => simp at ended
  | skip blank _ inductionHypothesis => exact .skip blank (inductionHypothesis ended)
  | cons lexeme rest inductionHypothesis =>
      cases lexemes with
      | nil =>
          obtain ⟨rfl, rfl⟩ := List.cons.inj ended
          exact rest
      | cons first more =>
          obtain ⟨rfl, behind⟩ := List.cons.inj ended
          exact .cons first (inductionHypothesis behind)

/-- No white space at all is also a spacing. -/
theorem isSpaced_characters (lexemes : List Lexeme) : IsSpaced lexemes (characters lexemes) := by
  induction lexemes with
  | nil => exact .nil
  | cons lexeme lexemes inductionHypothesis =>
      rw [characters_cons]
      exact .cons lexeme inductionHypothesis

/-- Without its white space, a text consists of the texts of its lexemes. -/
theorem IsSpaced.filter_eq_characters (spaced : IsSpaced lexemes text)
    (proper : ∀ lexeme ∈ lexemes, lexeme.IsProper) :
    (text.filter fun character => !isWhiteSpace character) = characters lexemes := by
  induction spaced with
  | nil => rfl
  | skip blank _ inductionHypothesis =>
      rw [List.filter_cons_of_neg (by simp [blank]), inductionHypothesis proper]
  | cons lexeme _ inductionHypothesis =>
      obtain ⟨first, rest⟩ := List.forall_mem_cons.mp proper
      have visible : ∀ character ∈ lexeme.text.toList, (!isWhiteSpace character) = true :=
        fun character member => by rw [first.isWhiteSpace_eq_false character member, Bool.not_false]
      rw [List.filter_append, List.filter_eq_self.mpr visible, inductionHypothesis rest,
        characters_cons]

/-- A character that is no part of a word cannot make a lexeme longer. -/
theorem continuesWith_eq_false_of_isNamePart (lexeme : Lexeme) {character : Char}
    (ended : isNamePart character = false) : lexeme.continuesWith character = false := by
  rw [isNamePart, Bool.or_eq_false_iff] at ended
  cases lexeme <;> simp [continuesWith, ended]

/-- Only a word has a longer text of its kind. -/
theorem continuesWith_eq_false_of_isWord {lexeme : Lexeme} (single : lexeme.isWord = false)
    (character : Char) : lexeme.continuesWith character = false := by
  cases lexeme with
  | number digits value => simp [isWord] at single
  | identifier name => simp [isWord] at single
  | _ => rfl

/-- Where no two words meet, a lexeme ends before the spaced lexemes behind it. -/
theorem IsSpaced.isLongest {lexeme : Lexeme} (spaced : IsSpaced lexemes text)
    (separated : Separated (lexeme :: lexemes))
    (whole : ∀ other ∈ lexemes, other.IsProper ∧ other ≠ .finish) : lexeme.IsLongest text := by
  cases spaced with
  | nil => exact IsLongest.nil lexeme
  | skip blank _ =>
      intro next member
      rw [← Option.some.inj member]
      exact lexeme.continuesWith_eq_false_of_isNamePart (isNamePart_eq_false_of_isWhiteSpace blank)
  | cons behind _ =>
      obtain ⟨proper, notFinish⟩ := whole behind List.mem_cons_self
      obtain ⟨first, rest, spelled⟩ := proper.exists_text_eq_cons notFinish
      intro next member
      obtain rfl : first = next := by simpa [spelled] using member
      cases word : lexeme.isWord with
      | false => exact continuesWith_eq_false_of_isWord word first
      | true =>
          have single := (List.isChain_cons_cons.mp separated).1 word
          exact lexeme.continuesWith_eq_false_of_isNamePart
            (isNamePart_eq_false_of_mem_text single (by simp [spelled]))

end Spacing

end Lexeme

namespace Token

variable {position : Nat} {lexemes : List Lexeme} {text : List Char} {tokens : List Token}

/-- Spaced lexemes are scanned as these lexemes where no two words meet. -/
theorem exists_result_of_isSpaced (spaced : Lexeme.IsSpaced lexemes text)
    (separated : Lexeme.Separated lexemes)
    (whole : ∀ lexeme ∈ lexemes, lexeme.IsProper ∧ lexeme ≠ .finish) (position : Nat) :
    ∃ tokens stop, (scanFrom position text).result = .ok (tokens ++ [finish stop]) ∧
      tokens.map Token.lexeme = lexemes := by
  induction spaced generalizing position with
  | nil => exact ⟨[], position, by rw [scanFrom_nil]; rfl, rfl⟩
  | skip blank _ inductionHypothesis =>
      rw [scanFrom_of_whiteSpace blank]
      exact inductionHypothesis separated whole _
  | @cons lexemes text lexeme rest inductionHypothesis =>
      obtain ⟨⟨proper, notFinish⟩, behind⟩ := List.forall_mem_cons.mp whole
      have longest : lexeme.IsLongest text := rest.isLongest separated behind
      obtain ⟨first, tail, spelled⟩ := proper.exists_text_eq_cons notFinish
      have split : lexeme.text.toList ++ text = first :: (tail ++ text) := by
        rw [spelled, List.cons_append]
      have visible := proper.isWhiteSpace_eq_false first (by simp [spelled])
      obtain ⟨tokens, stop, success, same⟩ := inductionHypothesis (List.IsChain.tail separated)
        behind (position + lexeme.text.utf8ByteSize)
      refine ⟨⟨lexeme, position⟩ :: tokens, stop, ?_, by rw [List.map_cons, same]⟩
      rw [split, scanFrom_of_ok visible (Lexeme.read_of_isLongest notFinish proper longest split)]
      exact Scan.result_cons_of_ok success

/-- A text that was scanned consists of the lexemes of its tokens and of white space. -/
theorem isSpaced_of_scanFrom (success : (scanFrom position text).result = .ok tokens) :
    Lexeme.IsSpaced (tokens.map Token.lexeme) text := by
  fun_induction scanFrom position text generalizing tokens with
  | case1 position =>
      rw [← Except.ok.inj success]
      exact .cons .finish .nil
  | case2 position first rest blank inductionHypothesis =>
      exact .skip blank (inductionHypothesis success)
  | case3 position first rest visible error failure => simp [Scan.result] at success
  | case4 position first rest visible lexeme remaining found shorter inductionHypothesis =>
      obtain ⟨tail, tailSuccess, rfl⟩ := Scan.result_cons_eq_ok success
      rw [← (Lexeme.read_eq_ok found).1]
      exact .cons lexeme (inductionHypothesis tailSuccess)

/-- White space outside of the tokens leaves their lexemes as they are. -/
theorem isSpaced_of_insert {left right blanks : List Char}
    (success : (scanFrom position (left ++ right)).result = .ok tokens)
    (blank : ∀ character ∈ blanks, isWhiteSpace character = true)
    (outside : ∀ token ∈ tokens, position + byteCount left ≤ token.position ∨
      token.stop ≤ position + byteCount left) :
    Lexeme.IsSpaced (tokens.map Token.lexeme) (left ++ (blanks ++ right)) := by
  induction size : left.length using Nat.strongRecOn generalizing position left tokens with
  | ind count inductionHypothesis =>
      cases left with
      | nil =>
          rw [List.nil_append] at success ⊢
          exact (isSpaced_of_scanFrom success).skipAll blank
      | cons head left =>
          rw [List.length_cons] at size
          rw [List.cons_append] at success
          cases space : isWhiteSpace head with
          | true =>
              rw [scanFrom_of_whiteSpace space] at success
              rw [byteCount_cons, ← Nat.add_assoc] at outside
              exact .skip space (inductionHypothesis left.length (by omega) success outside rfl)
          | false =>
              obtain ⟨lexeme, remaining, more, found, rfl, behind⟩ :=
                (result_scanFrom_cons_eq_ok_iff space).mp success
              obtain ⟨first, later⟩ := List.forall_mem_cons.mp outside
              -- The place lies behind the first character, and so behind its whole token.
              have headSize := head.utf8Size_pos
              have passed : byteCount lexeme.text.toList ≤ byteCount (head :: left) := by
                rw [byteCount_toList]
                simp only [stop, byteCount_cons] at first ⊢
                omega
              obtain ⟨between, taken, rest⟩ := exists_eq_append_of_byteCount_le
                (Lexeme.read_eq_ok found).1 passed
              have shorter := Lexeme.read_shortens found
              rw [rest] at behind shorter
              rw [List.length_append, List.length_append] at shorter
              rw [taken, List.append_assoc]
              refine .cons lexeme (inductionHypothesis between.length (by omega) behind ?_ rfl)
              rw [taken, byteCount_append, byteCount_toList, ← Nat.add_assoc] at later
              exact later

/-- White space was put into the source before, between or behind its tokens, at one place. -/
def IsWidened (source wider : String) : Prop :=
  ∃ tokens left blanks right, ofSource source = .ok tokens ∧ source.toList = left ++ right ∧
    wider.toList = left ++ (blanks ++ right) ∧
    (∀ character ∈ blanks, isWhiteSpace character = true) ∧
    ∀ token ∈ tokens, byteCount left ≤ token.position ∨ token.stop ≤ byteCount left

/-- A source that was scanned consists of its lexemes and of white space. -/
theorem isSpaced_of_ofSource {source : String}
    (scanned : ofSource source = .ok (tokens ++ [finish position])) :
    Lexeme.IsSpaced (tokens.map Token.lexeme) source.toList := by
  have spaced := isSpaced_of_scanFrom scanned
  rw [List.map_append] at spaced
  exact spaced.of_concat_finish

/-- A wider source has the lexemes of the source. -/
theorem IsWidened.isSpaced {source wider : String} (widened : IsWidened source wider)
    (scanned : ofSource source = .ok (tokens ++ [finish position])) :
    Lexeme.IsSpaced (tokens.map Token.lexeme) wider.toList := by
  obtain ⟨found, left, blanks, right, success, split, longer, blank, outside⟩ := widened
  obtain rfl : found = _ := Except.ok.inj (success.symm.trans scanned)
  rw [ofSource, scan, split] at scanned
  have spaced := isSpaced_of_insert scanned blank (by simpa using outside)
  rw [longer]
  rw [List.map_append] at spaced
  exact spaced.of_concat_finish

end Token

end TraceCalc
