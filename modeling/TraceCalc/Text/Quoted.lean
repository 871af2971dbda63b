/-
This file quotes text for the journal, so that every character of it can be seen.
-/

import TraceCalc.Unicode.DefaultIgnorable
import TraceCalc.Unicode.ExtendingMark
import TraceCalc.Unicode.WhiteSpace

namespace TraceCalc.Text.Quoted

open Unicode

/-- These characters act on the text and are not drawn. -/
def isControl (character : Char) : Bool :=
  character.toNat < 0x20 || (0x7F ≤ character.toNat && character.toNat < 0xA0)

/-- A character is hidden that is drawn as nothing, as a blank or on the one before it. -/
def isHidden (character : Char) : Bool :=
  isControl character || (character ≠ ' ' && isWhiteSpace character) ||
    isDefaultIgnorable character || isExtendingMark character

/-- A hidden character without a short escape is written by its code point. -/
def escape (character : Char) : List Char :=
  match character with
  | '\t' => ['\\', 't']
  | '\n' => ['\\', 'n']
  | '\r' => ['\\', 'r']
  | '"' => ['\\', '"']
  | '\\' => ['\\', '\\']
  | '\x00' => ['\\', '0']
  | _ =>
      if isHidden character then
        ['\\', 'u', '{'] ++ Nat.toDigits 16 character.toNat ++ ['}']
      else [character]

/-- The quoted text stands between double quotes. -/
def quote (text : String) : String :=
  String.ofList (['"'] ++ text.toList.flatMap escape ++ ['"'])

/-- The elements of a list stand between brackets. -/
def quoteList (texts : List String) : String :=
  "[" ++ ", ".intercalate (texts.map quote) ++ "]"

end TraceCalc.Text.Quoted
