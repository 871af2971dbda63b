/-
This file folds names, so that the spellings of one variable compare equal.
-/

import TraceCalc.Unicode.CaseIgnorable
import TraceCalc.Unicode.Cased
import TraceCalc.Unicode.Lowercase

namespace TraceCalc.Name

open Unicode

/-- The nearest character that is not case-ignorable tells whether a word continues. -/
def continues : List Char → Bool
  | [] => false
  | character :: rest =>
      if isCaseIgnorable character then continues rest else isCased character

/-- A sigma takes its final form where a word ends; the text before it is read backwards. -/
def lowercaseSigma (before after : List Char) : Char :=
  if continues before && !continues after then 'ς' else 'σ'

/-- Only a sigma depends on the characters around it. -/
def foldBetween (before : List Char) (character : Char) (after : List Char) : List Char :=
  if character = 'Σ' then [lowercaseSigma before after] else lowercase character

/-- The characters that were already read are kept, nearest first. -/
def foldAfter (before : List Char) : List Char → List Char
  | [] => []
  | character :: rest =>
      foldBetween before character rest ++ foldAfter (character :: before) rest

/-- Two names denote the same variable when their folded forms are equal. -/
def fold (name : String) : String :=
  String.ofList (foldAfter [] name.toList)

@[simp] theorem foldAfter_nil (before : List Char) : foldAfter before [] = [] := rfl

@[simp] theorem foldAfter_cons (before : List Char) (character : Char) (rest : List Char) :
    foldAfter before (character :: rest) =
      foldBetween before character rest ++ foldAfter (character :: before) rest := rfl

/-- A name is kept where its folded form occurs for the first time. -/
def distinctFrom (seen : List String) : List String → List String
  | [] => []
  | name :: rest =>
      if fold name ∈ seen then distinctFrom seen rest
      else name :: distinctFrom (fold name :: seen) rest

/-- The first spelling of each variable is kept, in the order of the names. -/
def distinct (names : List String) : List String := distinctFrom [] names

theorem fold_toList (name : String) : (fold name).toList = foldAfter [] name.toList := by
  simp [fold]

end TraceCalc.Name
