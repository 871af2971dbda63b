/-
This file removes white space around a text and separates its words.
-/

import TraceCalc.Unicode.WhiteSpace

namespace TraceCalc.Text

open Unicode

/-- White space at the start is dropped. -/
def trimStart (text : List Char) : List Char :=
  text.dropWhile isWhiteSpace

/-- White space at the end is dropped. -/
def trimEnd (text : List Char) : List Char :=
  (trimStart text.reverse).reverse

/-- White space inside the text is kept. -/
def trim (text : List Char) : List Char :=
  trimEnd (trimStart text)

/-- The words of a text are its longest runs without white space. -/
def words (text : List Char) : List (List Char) :=
  (text.splitOnP isWhiteSpace).filter fun word => !word.isEmpty

theorem trimStart_of_head {character : Char} (rest : List Char)
    (visible : isWhiteSpace character = false) :
    trimStart (character :: rest) = character :: rest := by
  simp [trimStart, visible]

theorem trimStart_trimStart (text : List Char) : trimStart (trimStart text) = trimStart text := by
  induction text with
  | nil => rfl
  | cons character rest inductionHypothesis =>
      cases blank : isWhiteSpace character with
      | true => simpa [trimStart, blank] using inductionHypothesis
      | false => simp [trimStart, blank]

theorem word_ne_nil {text word : List Char} (member : word ∈ words text) : word ≠ [] := by
  simp [words] at member
  exact member.2

end TraceCalc.Text
