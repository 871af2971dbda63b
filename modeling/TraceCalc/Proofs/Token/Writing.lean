/-
This file shows that lexemes written one after another are read as the same lexemes.
-/

import TraceCalc.Proofs.Text.Decimal
import TraceCalc.Proofs.Token.Scan
import Mathlib.Data.List.Chain

namespace TraceCalc

open Unicode

namespace Token

/-- The positions of tokens grow from the start of the scan. -/
theorem le_position_of_mem_scanFrom {position : Nat} {source : List Char} {token : Token}
    (member : token ∈ (scanFrom position source).tokens) : position ≤ token.position := by
  fun_induction scanFrom position source with
  | case1 position =>
      rw [List.mem_singleton] at member
      exact Nat.le_of_eq (by rw [member, finish])
  | case2 position first rest blank inductionHypothesis =>
      exact Nat.le_trans (Nat.le_add_right _ _) (inductionHypothesis member)
  | case3 position first rest visible error failure => simp at member
  | case4 position first rest visible lexeme remaining found shorter inductionHypothesis =>
      rw [Scan.tokens_cons, List.mem_cons] at member
      rcases member with rfl | member
      · exact Nat.le_refl _
      · exact Nat.le_trans (Nat.le_add_right _ _) (inductionHypothesis member)

end Token

namespace Lexeme

/-- The text of the lexeme is read as this lexeme alone. -/
def IsReadable (lexeme : Lexeme) : Prop :=
  Token.ofSource lexeme.text = .ok [⟨lexeme, 0⟩, Token.finish lexeme.text.utf8ByteSize]

/-- A lexeme is readable when its first character starts a lexeme that takes all its text. -/
theorem isReadable_iff {lexeme : Lexeme} :
    lexeme.IsReadable ↔ ∃ first rest, lexeme.text.toList = first :: rest ∧
      isWhiteSpace first = false ∧ read 0 first rest = .ok (lexeme, []) := by
  rw [IsReadable, Token.ofSource, Token.scan]
  constructor
  · intro alone
    cases characters : lexeme.text.toList with
    | nil => simp [characters, Scan.result] at alone
    | cons first rest =>
        rw [characters] at alone
        cases blank : isWhiteSpace first with
        | true =>
            rw [Token.scanFrom_of_whiteSpace blank] at alone
            obtain ⟨error, same⟩ : (Token.scanFrom (0 + first.utf8Size) rest).error = none ∧
                (Token.scanFrom (0 + first.utf8Size) rest).tokens =
                  [⟨lexeme, 0⟩, Token.finish lexeme.text.utf8ByteSize] := by
              revert alone
              unfold Scan.result
              cases (Token.scanFrom (0 + first.utf8Size) rest).error <;> simp
            have later : 0 + first.utf8Size ≤ (Token.mk lexeme 0).position :=
              Token.le_position_of_mem_scanFrom (by rw [same]; exact List.mem_cons_self)
            have size := Char.utf8Size_pos first
            change 0 + first.utf8Size ≤ 0 at later
            omega
        | false =>
            cases found : read 0 first rest with
            | error error => simp [Token.scanFrom_of_error blank found, Scan.result] at alone
            | ok pair =>
                obtain ⟨other, remaining⟩ := pair
                rw [Token.scanFrom_of_ok blank found] at alone
                obtain ⟨tail, _, same⟩ := Scan.result_cons_eq_ok alone
                obtain ⟨rfl⟩ : lexeme = other := by simpa using (List.cons.inj same).1
                have text := (read_eq_ok found).1
                rw [characters, List.append_right_eq_self] at text
                exact ⟨first, rest, rfl, blank, by rw [text] at found; exact found⟩
  · rintro ⟨first, rest, characters, visible, found⟩
    rw [characters, Token.scanFrom_of_ok visible found, Nat.zero_add, Token.scanFrom_nil]
    rfl

/-- A word is a lexeme that may go on with the next character. -/
def isWord : Lexeme → Bool
  | .number _ _ | .identifier _ => true
  | .symbol _ | .opening | .closing | .finish => false

/-- A character that is a lexeme of its own ends a word. -/
theorem isNamePart_eq_false_of_ofCharacter? {character : Char} {lexeme : Lexeme}
    (found : ofCharacter? character = some lexeme) : isNamePart character = false := by
  unfold ofCharacter? at found
  split at found <;> first
    | (rw [isNamePart, isAlphabetic_eq_false_of_lt (by decide)]; decide)
    | simp at found

theorem isDigit_eq_false_of_isNamePart_eq_false {character : Char}
    (ended : isNamePart character = false) : character.isDigit = false := by
  rw [isNamePart, Bool.or_eq_false_iff] at ended
  exact ended.2

/-- What follows a word is not a part of it. -/
def EndsBefore (lexeme : Lexeme) (source : List Char) : Prop :=
  lexeme.isWord = true → ∀ next ∈ source.head?, isNamePart next = false

theorem takeWhile_eq_self {accepts : Char → Bool} {run : List Char}
    (all : run.dropWhile accepts = []) : run.takeWhile accepts = run := by
  rw [← List.append_nil (run.takeWhile accepts), ← all, List.takeWhile_append_dropWhile]

/-- The end of a run of characters does not move when other characters follow. -/
theorem takeWhile_append_of_all {accepts : Char → Bool} {run source : List Char}
    (all : run.dropWhile accepts = []) (ended : ∀ next ∈ source.head?, accepts next = false) :
    (run ++ source).takeWhile accepts = run ∧ (run ++ source).dropWhile accepts = source := by
  have inside : ∀ character ∈ run, accepts character = true := by
    have every := List.all_takeWhile (p := accepts) (l := run)
    rw [takeWhile_eq_self all] at every
    exact List.all_eq_true.mp every
  rw [List.takeWhile_append_of_pos inside, List.dropWhile_append_of_pos inside]
  cases source with
  | nil => simp
  | cons next source => simp [ended next rfl]

/-- A lexeme that takes a whole text takes as much of a longer text. -/
theorem read_append {position : Nat} {first : Char} {rest source : List Char} {lexeme : Lexeme}
    (found : read 0 first rest = .ok (lexeme, [])) (ended : lexeme.EndsBefore source) :
    read position first (rest ++ source) = .ok (lexeme, source) := by
  unfold read at found ⊢
  split at found
  next =>
      simp only [Except.ok.injEq, Prod.mk.injEq] at found
      obtain ⟨rfl, rfl⟩ := found
      rw [List.nil_append]
  next =>
      split at found
      next digit =>
          unfold readNumber at found ⊢
          dsimp only at found ⊢
          split at found
          next value success =>
              simp only [Except.ok.injEq, Prod.mk.injEq] at found
              obtain ⟨rfl, all⟩ := found
              obtain ⟨taken, left⟩ := takeWhile_append_of_all all fun next member =>
                isDigit_eq_false_of_isNamePart_eq_false (ended rfl next member)
              rw [takeWhile_eq_self all] at success ⊢
              rw [if_pos digit, taken, left, success]
          next => simp at found
      next notDigit =>
          rw [if_neg notDigit]
          split at found
          next letter =>
              simp only [readName, Except.ok.injEq, Prod.mk.injEq] at found
              obtain ⟨rfl, all⟩ := found
              obtain ⟨taken, left⟩ := takeWhile_append_of_all all (ended rfl)
              rw [if_pos letter, readName, taken, left, takeWhile_eq_self all]
          next => simp at found

/-- Only a word starts with a character that a word may go on with. -/
theorem isNamePart_eq_false_of_read {first : Char} {rest : List Char} {lexeme : Lexeme}
    (found : read 0 first rest = .ok (lexeme, [])) (single : lexeme.isWord = false) :
    isNamePart first = false := by
  unfold read at found
  split at found
  next character => exact isNamePart_eq_false_of_ofCharacter? character
  next =>
      split at found
      · unfold readNumber at found
        dsimp only at found
        split at found
        · simp only [Except.ok.injEq, Prod.mk.injEq] at found
          obtain ⟨rfl, _⟩ := found
          simp [isWord] at single
        · simp at found
      · split at found
        · simp only [readName, Except.ok.injEq, Prod.mk.injEq] at found
          obtain ⟨rfl, _⟩ := found
          simp [isWord] at single
        · simp at found

/-- A lexeme of one fixed character is readable. -/
theorem isReadable_symbol (operator : Operator) : (symbol operator).IsReadable := by
  cases operator <;> exact isReadable_iff.mpr ⟨_, [], rfl, by decide, rfl⟩

theorem isReadable_opening : opening.IsReadable :=
  isReadable_iff.mpr ⟨'(', [], rfl, by decide, rfl⟩

theorem isReadable_closing : closing.IsReadable :=
  isReadable_iff.mpr ⟨')', [], rfl, by decide, rfl⟩

/-- The digits of a value are readable as this value. -/
theorem isReadable_number {value : Int64} (nonnegative : 0 ≤ value.toInt) :
    (number (Text.Decimal.write value) value).IsReadable := by
  obtain ⟨first, rest, digits⟩ := Text.Decimal.exists_write_eq_cons nonnegative
  have numeric : ∀ digit ∈ first :: rest, digit.isDigit = true := fun digit member =>
    Text.Decimal.isDigit_of_mem_write nonnegative (digits ▸ member)
  have digit := numeric first List.mem_cons_self
  have none : ofCharacter? first = none := by
    cases found : ofCharacter? first with
    | none => rfl
    | some lexeme =>
        have ended := isNamePart_eq_false_of_ofCharacter? found
        rw [isNamePart, digit, Bool.or_true] at ended
        simp at ended
  obtain ⟨taken, left⟩ : rest.takeWhile Char.isDigit = rest ∧ rest.dropWhile Char.isDigit = [] := by
    have inside : ∀ digit ∈ rest, digit.isDigit = true := fun other member =>
      numeric other (List.mem_cons_of_mem _ member)
    rw [← List.append_nil rest, List.takeWhile_append_of_pos inside,
      List.dropWhile_append_of_pos inside]
    simp
  refine isReadable_iff.mpr ⟨first, rest, digits, isWhiteSpace_eq_false_of_isDigit digit, ?_⟩
  unfold read readNumber
  simp only [none, if_pos digit, taken, left]
  rw [← digits, Text.Decimal.readDigits_write nonnegative, String.ofList_toList]

theorem isReadable_enclosed {enclosed : Bool} {inner : List Lexeme}
    (readable : ∀ lexeme ∈ inner, lexeme.IsReadable) :
    ∀ lexeme ∈ if enclosed then opening :: (inner ++ [closing]) else inner,
      lexeme.IsReadable := by
  cases enclosed with
  | false => exact readable
  | true =>
      exact List.forall_mem_cons.mpr ⟨isReadable_opening, List.forall_mem_append.mpr
        ⟨readable, List.forall_mem_singleton.mpr isReadable_closing⟩⟩

/-- No word stands directly before another word. -/
def Separated (lexemes : List Lexeme) : Prop :=
  lexemes.IsChain fun before behind => before.isWord = true → behind.isWord = false

/-- The characters of lexemes stand one after another, without blanks. -/
def characters (lexemes : List Lexeme) : List Char :=
  lexemes.flatMap fun lexeme => lexeme.text.toList

theorem Separated.singleton (lexeme : Lexeme) : Separated [lexeme] := List.isChain_singleton lexeme

/-- A lexeme that is not a word separates the lexemes on its sides. -/
theorem Separated.join {first second : List Lexeme} {single : Lexeme}
    (before : Separated first) (behind : Separated second) (proper : single.isWord = false) :
    Separated (first ++ single :: second) := by
  refine List.isChain_split.mpr ⟨?_, ?_⟩
  · refine List.isChain_append.mpr ⟨before, List.isChain_singleton single, ?_⟩
    intro last _ next member _
    rw [List.head?_cons, Option.mem_some_iff] at member
    rw [← member, proper]
  · refine List.isChain_cons.mpr ⟨?_, behind⟩
    intro next _ word
    rw [proper] at word
    simp at word

theorem characters_append (first second : List Lexeme) :
    characters (first ++ second) = characters first ++ characters second :=
  List.flatMap_append

theorem characters_cons (lexeme : Lexeme) (rest : List Lexeme) :
    characters (lexeme :: rest) = lexeme.text.toList ++ characters rest :=
  List.flatMap_cons

theorem endsBefore_characters {lexeme : Lexeme} {rest : List Lexeme}
    (separated : Separated (lexeme :: rest)) (readable : ∀ other ∈ rest, other.IsReadable) :
    lexeme.EndsBefore (characters rest) := by
  intro word next member
  cases rest with
  | nil => simp [characters] at member
  | cons behind rest =>
      have single := (List.isChain_cons_cons.mp separated).1 word
      obtain ⟨first, tail, text, _, found⟩ := isReadable_iff.mp (readable behind List.mem_cons_self)
      obtain ⟨rfl⟩ : first = next := by simpa [characters, text] using member
      exact isNamePart_eq_false_of_read found single

end Lexeme

namespace Token

/-- Lexemes that are written one after another are read before the text behind them. -/
theorem scanFrom_characters_append {lexemes : List Lexeme} {rest : List Char}
    (readable : ∀ lexeme ∈ lexemes, lexeme.IsReadable) (separated : Lexeme.Separated lexemes)
    (ended : ∀ last ∈ lexemes.getLast?, last.EndsBefore rest) (position : Nat) :
    ∃ tokens place, scanFrom position (Lexeme.characters lexemes ++ rest) =
        ⟨tokens ++ (scanFrom place rest).tokens, (scanFrom place rest).error⟩ ∧
      tokens.map Token.lexeme = lexemes := by
  induction lexemes generalizing position with
  | nil => exact ⟨[], position, rfl, rfl⟩
  | cons lexeme more inductionHypothesis =>
      have moreReadable : ∀ other ∈ more, other.IsReadable :=
        fun other member => readable other (List.mem_cons_of_mem _ member)
      obtain ⟨first, tail, text, visible, found⟩ :=
        Lexeme.isReadable_iff.mp (readable lexeme List.mem_cons_self)
      have split : Lexeme.characters (lexeme :: more) ++ rest =
          first :: (tail ++ (Lexeme.characters more ++ rest)) := by
        rw [Lexeme.characters_cons, text, List.cons_append, List.cons_append, List.append_assoc]
      obtain ⟨before, later⟩ : lexeme.EndsBefore (Lexeme.characters more ++ rest) ∧
          ∀ last ∈ more.getLast?, last.EndsBefore rest := by
        cases more with
        | nil => exact ⟨ended lexeme rfl, by simp⟩
        | cons behind more =>
            refine ⟨fun word next member => ?_, fun last member => ended last ?_⟩
            · refine Lexeme.endsBefore_characters separated moreReadable word next ?_
              obtain ⟨start, letters, spelled, _⟩ :=
                Lexeme.isReadable_iff.mp (moreReadable behind List.mem_cons_self)
              rw [Lexeme.characters_cons, spelled] at member ⊢
              exact member
            · rwa [List.getLast?_cons_cons]
      obtain ⟨tokens, place, scanned, spelled⟩ := inductionHypothesis moreReadable
        (List.IsChain.tail separated) later (position + lexeme.text.utf8ByteSize)
      refine ⟨⟨lexeme, position⟩ :: tokens, place, ?_, by rw [List.map_cons, spelled]⟩
      rw [split, scanFrom_of_ok visible (Lexeme.read_append found before), scanned]
      rfl

/-- Lexemes that are written one after another are read as these lexemes. -/
theorem result_scanFrom_characters {lexemes : List Lexeme}
    (readable : ∀ lexeme ∈ lexemes, lexeme.IsReadable) (separated : Lexeme.Separated lexemes)
    (position : Nat) :
    ∃ tokens stop, (scanFrom position (Lexeme.characters lexemes)).result =
        .ok (tokens ++ [finish stop]) ∧ tokens.map Token.lexeme = lexemes := by
  have ended (last : Lexeme) : last.EndsBefore [] := by simp [Lexeme.EndsBefore]
  obtain ⟨tokens, stop, scanned, spelled⟩ :=
    scanFrom_characters_append readable separated (fun last _ => ended last) position
  rw [List.append_nil, scanFrom_nil] at scanned
  exact ⟨tokens, stop, by rw [scanned, Scan.result], spelled⟩

/-- A source of lexemes without blanks has exactly their tokens. -/
theorem ofSource_eq_ok_of_characters {source : String} {lexemes : List Lexeme}
    (readable : ∀ lexeme ∈ lexemes, lexeme.IsReadable) (separated : Lexeme.Separated lexemes)
    (written : source.toList = Lexeme.characters lexemes) :
    ∃ tokens, ofSource source = .ok (tokens ++ [finish source.utf8ByteSize]) ∧
      tokens.map Token.lexeme = lexemes := by
  obtain ⟨tokens, stop, success, spelled⟩ := result_scanFrom_characters readable separated 0
  rw [← written] at success
  obtain ⟨before, same, _⟩ := ofSource_eq_ok success
  have parts := List.append_inj' same rfl
  rw [parts.1] at spelled
  exact ⟨before, by rw [ofSource, scan, success, same], spelled⟩

end Token

end TraceCalc
