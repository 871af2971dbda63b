/-
This file recognizes the commands of an interactive session.
-/

import TraceCalc.Text.Blank
import TraceCalc.Text.Decimal

namespace TraceCalc

/-- A command that lacks its operands keeps only the form that was meant. -/
inductive Command where
  | blank
  | expression (source : String)
  | expressionUsage
  | assignment (name : String) (value : Int64)
  | assignmentUsage
  | invalidInteger
  | execute
  | exit
  | unknown
  deriving DecidableEq, Repr

namespace Command

/-- The keyword is compared without regard to the case of ASCII letters. -/
def afterKeyword? : List Char → List Char → Option (List Char)
  | [], text => some text
  | _ :: _, [] => none
  | expected :: keyword, character :: text =>
      if character.toLower = expected then afterKeyword? keyword text else none

/-- A stream of text may start with this mark. -/
def byteOrderMark : Char := '\uFEFF'

/-- Marks are dropped once white space is gone, and white space after them is kept. -/
def content (line : List Char) : List Char :=
  (Text.trim line).dropWhile (· == byteOrderMark)

/-- The expression is everything after the keyword. -/
def ofExpression (operand : List Char) : Command :=
  let source := Text.trimStart operand
  if source.isEmpty then .expressionUsage else .expression (String.ofList source)

/-- An assignment has exactly one name and one value. -/
def ofAssignment (operands : List Char) : Command :=
  match Text.words operands with
  | [name, value] =>
      match Text.Decimal.read value with
      | .ok value => .assignment (String.ofList name) value
      | .error _ => .invalidInteger
  | _ => .assignmentUsage

/-- An expression may follow its keyword at once, and an assignment needs a plain space. -/
def ofContent (content : List Char) : Command :=
  if content.isEmpty then .blank
  else
    match afterKeyword? ['e', 'x', 'p', 'r'] content with
    | some operand => ofExpression operand
    | none =>
        match afterKeyword? ['s', 'e', 't', ' '] content with
        | some operands => ofAssignment operands
        | none =>
            if afterKeyword? ['d', 'o'] content = some [] then .execute
            else if afterKeyword? ['e', 'x', 'i', 't'] content = some [] then .exit
            else .unknown

/-- The content of a line decides its command. -/
def ofLine (line : String) : Command := ofContent (content line.toList)

end Command

end TraceCalc
