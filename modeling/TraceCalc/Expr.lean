/-
This file defines expressions and writes them as source text.
-/

import TraceCalc.Name
import TraceCalc.Operator
import TraceCalc.Text.Decimal

namespace TraceCalc

/-- Each node records whether parentheses were written around it. -/
inductive Expr where
  | number (grouped : Bool) (value : Int64)
  | reference (grouped : Bool) (name : String)
  | unary (grouped : Bool) (operator : Operator) (operand : Expr)
  | binary (grouped : Bool) (operator : Operator) (precedence : Precedence) (left right : Expr)
  deriving DecidableEq, Repr

namespace Expr

/-- The root of an expression tells whether the whole of it is in parentheses. -/
def grouped : Expr → Bool
  | .number grouped _ => grouped
  | .reference grouped _ => grouped
  | .unary grouped _ _ => grouped
  | .binary grouped _ _ _ _ => grouped

/-- Parentheses around parentheses leave the node as it is. -/
def group : Expr → Expr
  | .number _ value => .number true value
  | .reference _ name => .reference true name
  | .unary _ operator operand => .unary true operator operand
  | .binary _ operator precedence left right => .binary true operator precedence left right

/-- A binary node carries its own precedence. -/
def precedence : Expr → Precedence
  | .number _ _ => Precedence.leaf
  | .reference _ _ => Precedence.leaf
  | .unary _ _ _ => Precedence.sign
  | .binary _ _ precedence _ _ => precedence

/-- Without parentheses, a node in this place would be read with another structure. -/
def needsGroup (parent : Precedence) (onRight : Bool) : Expr → Bool
  | .number _ _ => false
  | .reference _ _ => false
  | .unary _ _ _ => Precedence.sign < parent
  | .binary _ _ precedence _ _ => precedence < parent || (precedence == parent && onRight)

/-- Parentheses are written where the source had them and where they are needed. -/
def isEnclosed (parent : Precedence) (onRight : Bool) (expr : Expr) : Bool :=
  expr.grouped || expr.needsGroup parent onRight

/-- Only one pair of parentheses is written. -/
def enclose (enclosed : Bool) (text : String) : String :=
  if enclosed then "(" ++ text ++ ")" else text

/-- The text of a node depends on its parent and on the side of the parent where it stands. -/
def format (parent : Precedence) (onRight : Bool) (expr : Expr) : String :=
  enclose (expr.isEnclosed parent onRight) <|
    match expr with
    | .number _ value => Text.Decimal.write value
    | .reference _ name => name
    | .unary _ operator operand => operator.symbol ++ operand.format Precedence.sign false
    | .binary _ operator precedence left right =>
        left.format precedence false ++ operator.symbol ++ right.format precedence true

/-- The text of an expression is its form without a parent. -/
def text (expr : Expr) : String := expr.format Precedence.lowest false

/-- The names are listed from left to right, as often as they occur. -/
def references : Expr → List String
  | .number _ _ => []
  | .reference _ name => [name]
  | .unary _ _ operand => operand.references
  | .binary _ _ _ left right => left.references ++ right.references

/-- Each variable is listed once, in the spelling of its first occurrence. -/
def parameters (expr : Expr) : List String := Name.distinct expr.references

@[simp] theorem grouped_group (expr : Expr) : expr.group.grouped = true := by
  cases expr <;> rfl

@[simp] theorem precedence_group (expr : Expr) : expr.group.precedence = expr.precedence := by
  cases expr <;> rfl

@[simp] theorem group_group (expr : Expr) : expr.group.group = expr.group := by
  cases expr <;> rfl

@[simp] theorem references_group (expr : Expr) : expr.group.references = expr.references := by
  cases expr <;> rfl

end Expr

end TraceCalc
