/-
This file states which texts are lexemes and when a lexeme is the longest one in its place.
-/

import TraceCalc.Proofs.Token.Writing

namespace TraceCalc

open Unicode

/-- A name is a letter with letters and digits behind it. -/
def Name.IsSpelled (name : String) : Prop :=
  ∃ first rest, name.toList = first :: rest ∧ isAlphabetic first = true ∧
    ∀ character ∈ rest, isAlphabetic character = true ∨ character.isDigit = true

namespace Lexeme

/-- The text of the lexeme is one of its kind, and a number has the value of its digits. -/
def IsProper : Lexeme → Prop
  | .number digits value => digits ≠ "" ∧ (∀ digit ∈ digits.toList, digit.isDigit = true) ∧
      value.toInt = Nat.ofDigitChars 10 digits.toList 0
  | .identifier name => Name.IsSpelled name
  | .symbol _ | .opening | .closing | .finish => True

/-- The text of the lexeme with this character behind it is still one of its kind. -/
def continuesWith : Lexeme → Char → Bool
  | .number _ _, next => next.isDigit
  | .identifier _, next => isAlphabetic next || next.isDigit
  | .symbol _, _ | .opening, _ | .closing, _ | .finish, _ => false

/-- The text of the lexeme with this character before it is still one of its kind. -/
def continuesBehind : Lexeme → Char → Bool
  | .number _ _, last => last.isDigit
  | .identifier _, last => isAlphabetic last
  | .symbol _, _ | .opening, _ | .closing, _ | .finish, _ => false

/-- No text of the kind goes on behind the lexeme. -/
def IsLongest (lexeme : Lexeme) (behind : List Char) : Prop :=
  ∀ next ∈ behind.head?, lexeme.continuesWith next = false

theorem IsLongest.nil (lexeme : Lexeme) : lexeme.IsLongest [] := by
  intro next member
  simp at member

/-- Only the first character behind a lexeme can make it longer. -/
theorem IsLongest.of_append {lexeme : Lexeme} {behind more : List Char}
    (longest : lexeme.IsLongest (behind ++ more)) : lexeme.IsLongest behind := by
  cases behind with
  | nil => exact IsLongest.nil lexeme
  | cons next behind => exact longest

/-- A run ends before the first character that does not belong to it. -/
theorem eq_false_of_mem_head?_dropWhile {accepts : Char → Bool} {text : List Char} {next : Char}
    (member : next ∈ (text.dropWhile accepts).head?) : accepts next = false := by
  have stopped := List.head?_dropWhile_not accepts text
  rw [Option.mem_def.mp member] at stopped
  exact stopped

/-- A run of accepted characters is taken up to its end. -/
theorem takeWhile_append_of_forall {accepts : Char → Bool} {run source : List Char}
    (all : ∀ character ∈ run, accepts character = true)
    (ended : ∀ next ∈ source.head?, accepts next = false) :
    (run ++ source).takeWhile accepts = run ∧ (run ++ source).dropWhile accepts = source := by
  refine takeWhile_append_of_all ?_ ended
  have dropped : (run ++ []).dropWhile accepts = [].dropWhile accepts :=
    List.dropWhile_append_of_pos all
  rwa [List.append_nil, List.dropWhile_nil] at dropped

theorem ofCharacter?_eq_none_of_isNamePart {character : Char}
    (part : isNamePart character = true) : ofCharacter? character = none := by
  cases found : ofCharacter? character with
  | none => rfl
  | some lexeme =>
      rw [isNamePart_eq_false_of_ofCharacter? found] at part
      simp at part

/-- A lexeme that takes part in the source has at least one character. -/
theorem IsProper.exists_text_eq_cons {lexeme : Lexeme} (proper : lexeme.IsProper)
    (notFinish : lexeme ≠ .finish) : ∃ first rest, lexeme.text.toList = first :: rest := by
  cases lexeme with
  | number digits value =>
      exact List.exists_cons_of_ne_nil fun empty => proper.1 (String.toList_eq_nil_iff.mp empty)
  | identifier name =>
      obtain ⟨first, rest, spelled, _⟩ := proper
      exact ⟨first, rest, spelled⟩
  | symbol operator => cases operator <;> exact ⟨_, [], rfl⟩
  | opening => exact ⟨'(', [], rfl⟩
  | closing => exact ⟨')', [], rfl⟩
  | finish => exact absurd rfl notFinish

/-- Only the text of a word has letters or digits. -/
theorem isNamePart_eq_false_of_mem_text {lexeme : Lexeme} (single : lexeme.isWord = false)
    {character : Char} (member : character ∈ lexeme.text.toList) :
    isNamePart character = false := by
  cases lexeme with
  | number digits value => simp [isWord] at single
  | identifier name => simp [isWord] at single
  | symbol operator =>
      cases operator <;>
      · rw [List.mem_singleton.mp member]
        decide
  | opening =>
      rw [List.mem_singleton.mp member]
      decide
  | closing =>
      rw [List.mem_singleton.mp member]
      decide
  | finish => simp [text] at member

theorem isWhiteSpace_eq_false_of_isNamePart {character : Char}
    (part : isNamePart character = true) : isWhiteSpace character = false := by
  rcases (Bool.or_eq_true _ _).mp part with letter | digit
  · exact isWhiteSpace_eq_false_of_isAlphabetic letter
  · exact isWhiteSpace_eq_false_of_isDigit digit

/-- White space ends every word. -/
theorem isNamePart_eq_false_of_isWhiteSpace {character : Char}
    (blank : isWhiteSpace character = true) : isNamePart character = false := by
  rw [← Bool.not_eq_true]
  intro part
  rw [isWhiteSpace_eq_false_of_isNamePart part] at blank
  simp at blank

/-- No lexeme has white space in its text. -/
theorem IsProper.isWhiteSpace_eq_false {lexeme : Lexeme} (proper : lexeme.IsProper) :
    ∀ character ∈ lexeme.text.toList, isWhiteSpace character = false := by
  cases lexeme with
  | number digits value =>
      intro digit member
      exact isWhiteSpace_eq_false_of_isDigit (proper.2.1 digit member)
  | identifier name =>
      obtain ⟨first, rest, spelled, letter, inside⟩ := proper
      rw [text, spelled]
      refine List.forall_mem_cons.mpr ⟨isWhiteSpace_eq_false_of_isAlphabetic letter, ?_⟩
      intro character member
      exact isWhiteSpace_eq_false_of_isNamePart
        ((Bool.or_eq_true _ _).mpr (inside character member))
  | symbol operator =>
      cases operator <;> exact List.forall_mem_singleton.mpr (by decide)
  | opening => exact List.forall_mem_singleton.mpr (by decide)
  | closing => exact List.forall_mem_singleton.mpr (by decide)
  | finish => exact fun character member => absurd member List.not_mem_nil

section Reading

variable {position : Nat} {first : Char} {rest remaining : List Char} {lexeme : Lexeme}

/-- A lexeme that was read is proper and as long as possible. -/
theorem isLongest_of_read (success : read position first rest = .ok (lexeme, remaining)) :
    lexeme.IsProper ∧ lexeme.IsLongest remaining := by
  unfold read at success
  split at success
  next found =>
      simp only [Except.ok.injEq, Prod.mk.injEq] at success
      obtain ⟨rfl, rfl⟩ := success
      unfold ofCharacter? at found
      split at found <;> first
        | (rw [← Option.some.inj found]; exact ⟨trivial, fun _ _ => rfl⟩)
        | simp at found
  next =>
      split at success
      next digit =>
          unfold readNumber at success
          dsimp only at success
          split at success
          next value read =>
              simp only [Except.ok.injEq, Prod.mk.injEq] at success
              obtain ⟨rfl, rfl⟩ := success
              have numeric : ∀ other ∈ first :: rest.takeWhile Char.isDigit,
                  other.isDigit = true :=
                List.forall_mem_cons.mpr ⟨digit, List.all_eq_true.mp List.all_takeWhile⟩
              refine ⟨⟨by simp, ?_, ?_⟩, fun next => eq_false_of_mem_head?_dropWhile⟩
              · rwa [String.toList_ofList]
              · rw [String.toList_ofList]
                exact (Text.Decimal.readDigits_eq_ok_iff numeric).mp read
          next => simp at success
      next =>
          split at success
          next letter =>
              simp only [readName, Except.ok.injEq, Prod.mk.injEq] at success
              obtain ⟨rfl, rfl⟩ := success
              refine ⟨⟨first, rest.takeWhile isNamePart, String.toList_ofList, letter, ?_⟩,
                fun next => eq_false_of_mem_head?_dropWhile⟩
              intro other member
              have part := List.all_eq_true.mp List.all_takeWhile other member
              rwa [isNamePart, Bool.or_eq_true] at part
          next => simp at success

/-- A proper lexeme that is as long as possible is read, whatever stands behind it. -/
theorem read_of_isLongest (notFinish : lexeme ≠ .finish) (proper : lexeme.IsProper)
    (longest : lexeme.IsLongest remaining)
    (split : lexeme.text.toList ++ remaining = first :: rest) :
    read position first rest = .ok (lexeme, remaining) := by
  cases lexeme with
  | number digits value =>
      obtain ⟨nonempty, numeric, exactly⟩ := proper
      obtain ⟨digit, tail, spelled⟩ : ∃ digit tail, digits.toList = digit :: tail :=
        List.exists_cons_of_ne_nil fun empty => nonempty (String.toList_eq_nil_iff.mp empty)
      rw [text, spelled, List.cons_append, List.cons.injEq] at split
      obtain ⟨rfl, rfl⟩ := split
      rw [spelled] at numeric exactly
      obtain ⟨isDigit, inside⟩ := List.forall_mem_cons.mp numeric
      obtain ⟨taken, left⟩ := takeWhile_append_of_forall inside longest
      have part : isNamePart digit = true := by rw [isNamePart, isDigit, Bool.or_true]
      unfold read readNumber
      simp only [ofCharacter?_eq_none_of_isNamePart part, if_pos isDigit, taken, left]
      rw [(Text.Decimal.readDigits_eq_ok_iff numeric).mpr exactly, ← spelled, String.ofList_toList]
  | identifier name =>
      obtain ⟨letter, tail, spelled, alphabetic, inside⟩ := proper
      rw [text, spelled, List.cons_append, List.cons.injEq] at split
      obtain ⟨rfl, rfl⟩ := split
      have parts : ∀ character ∈ tail, isNamePart character = true := fun character member => by
        rw [isNamePart, Bool.or_eq_true]
        exact inside character member
      obtain ⟨taken, left⟩ := takeWhile_append_of_forall parts longest
      have part : isNamePart letter = true := by rw [isNamePart, alphabetic, Bool.true_or]
      have notDigit : letter.isDigit = false := by
        cases digit : letter.isDigit with
        | false => rfl
        | true =>
            rw [isAlphabetic_eq_false_of_isDigit digit] at alphabetic
            simp at alphabetic
      unfold read readName
      simp only [ofCharacter?_eq_none_of_isNamePart part, notDigit, if_pos alphabetic, taken, left]
      rw [← spelled, String.ofList_toList]
      rfl
  | symbol operator =>
      cases operator <;>
      · obtain ⟨rfl, rfl⟩ := List.cons.inj split
        rfl
  | opening =>
      obtain ⟨rfl, rfl⟩ := List.cons.inj split
      rfl
  | closing =>
      obtain ⟨rfl, rfl⟩ := List.cons.inj split
      rfl
  | finish => exact absurd rfl notFinish

/-- What is read is the longest proper lexeme at the start of the text. -/
theorem read_eq_ok_iff : read position first rest = .ok (lexeme, remaining) ↔
    lexeme ≠ .finish ∧ lexeme.IsProper ∧ lexeme.IsLongest remaining ∧
      lexeme.text.toList ++ remaining = first :: rest := by
  constructor
  · intro success
    obtain ⟨split, notFinish⟩ := read_eq_ok success
    obtain ⟨proper, longest⟩ := isLongest_of_read success
    exact ⟨notFinish, proper, longest, split⟩
  · rintro ⟨notFinish, proper, longest, split⟩
    exact read_of_isLongest notFinish proper longest split

end Reading

/-- A name can be read exactly when it is spelled as one. -/
theorem isReadable_identifier_iff {name : String} :
    (identifier name).IsReadable ↔ Name.IsSpelled name := by
  rw [isReadable_iff]
  constructor
  · rintro ⟨first, rest, _, _, found⟩
    exact (isLongest_of_read found).1
  · intro spelled
    obtain ⟨first, rest, characters, letter, _⟩ := id spelled
    refine ⟨first, rest, characters, isWhiteSpace_eq_false_of_isAlphabetic letter, ?_⟩
    exact read_of_isLongest (by simp) spelled (IsLongest.nil _)
      (by rw [List.append_nil]; exact characters)

end Lexeme

end TraceCalc
