/-
This file separates a source text into tokens.
-/

import TraceCalc.Error
import TraceCalc.Unicode.Alphabetic
import TraceCalc.Unicode.WhiteSpace

namespace TraceCalc

open Unicode

/-- A name starts with a letter and goes on with letters and digits. -/
def isNamePart (character : Char) : Bool :=
  isAlphabetic character || character.isDigit

namespace Lexeme

/-- These characters are lexemes of their own. -/
def ofCharacter? : Char → Option Lexeme
  | '+' => some (.symbol .plus)
  | '-' => some (.symbol .minus)
  | '*' => some (.symbol .times)
  | '/' => some (.symbol .divide)
  | '(' => some .opening
  | ')' => some .closing
  | _ => none

/-- A number takes all digits that follow. -/
def readNumber (position : Nat) (first : Char) (rest : List Char) :
    Except Error (Lexeme × List Char) :=
  let digits := first :: rest.takeWhile Char.isDigit
  match Text.Decimal.readDigits .positive 0 digits with
  | .ok value => .ok (.number (String.ofList digits) value, rest.dropWhile Char.isDigit)
  | .error fault => .error (.unreadableNumber (String.ofList digits) position fault)

/-- A name takes all letters and digits that follow. -/
def readName (first : Char) (rest : List Char) : Lexeme × List Char :=
  (.identifier (String.ofList (first :: rest.takeWhile isNamePart)), rest.dropWhile isNamePart)

/-- The first character decides the kind of the lexeme; the characters after it are returned. -/
def read (position : Nat) (first : Char) (rest : List Char) :
    Except Error (Lexeme × List Char) :=
  match ofCharacter? first with
  | some lexeme => .ok (lexeme, rest)
  | none =>
      if first.isDigit then readNumber position first rest
      else if isAlphabetic first then .ok (readName first rest)
      else .error (.unexpectedCharacter first position)

theorem read_shortens {position : Nat} {first : Char} {rest remaining : List Char}
    {lexeme : Lexeme} (success : read position first rest = .ok (lexeme, remaining)) :
    remaining.length ≤ rest.length := by
  unfold read at success
  split at success
  · simp only [Except.ok.injEq, Prod.mk.injEq] at success
    simp [success.2]
  · split at success
    · unfold readNumber at success
      dsimp only at success
      split at success
      · simp only [Except.ok.injEq, Prod.mk.injEq] at success
        rw [← success.2]
        exact (List.dropWhile_sublist _).length_le
      · simp at success
    · split at success
      · simp only [readName, Except.ok.injEq, Prod.mk.injEq] at success
        rw [← success.2]
        exact (List.dropWhile_sublist _).length_le
      · simp at success

end Lexeme

/-- A scan holds the tokens before the first error, or all tokens of the source. -/
structure Scan where
  tokens : List Token
  error : Option Error
  deriving DecidableEq, Repr

namespace Scan

/-- The token stands before the scan. -/
def cons (token : Token) (scan : Scan) : Scan :=
  ⟨token :: scan.tokens, scan.error⟩

/-- The tokens are useful only when the whole source consists of tokens. -/
def result (scan : Scan) : Except Error (List Token) :=
  match scan.error with
  | some error => .error error
  | none => .ok scan.tokens

@[simp] theorem tokens_cons (token : Token) (scan : Scan) :
    (scan.cons token).tokens = token :: scan.tokens := rfl

@[simp] theorem error_cons (token : Token) (scan : Scan) :
    (scan.cons token).error = scan.error := rfl

end Scan

namespace Token

/-- White space separates tokens; the last token stands at the end of the source. -/
def scanFrom (position : Nat) : List Char → Scan
  | [] => ⟨[finish position], none⟩
  | first :: rest =>
      if isWhiteSpace first then scanFrom (position + first.utf8Size) rest
      else
        match success : Lexeme.read position first rest with
        | .error error => ⟨[], some error⟩
        | .ok (lexeme, remaining) =>
            have := Lexeme.read_shortens success
            (scanFrom (position + lexeme.text.utf8ByteSize) remaining).cons ⟨lexeme, position⟩
  termination_by source => source.length
  decreasing_by all_goals simp only [List.length_cons]; omega

/-- The first character of a source has position zero. -/
def scan (source : String) : Scan := scanFrom 0 source.toList

/-- The first error of the scan takes the place of all tokens. -/
def ofSource (source : String) : Except Error (List Token) := (scan source).result

end Token

end TraceCalc
