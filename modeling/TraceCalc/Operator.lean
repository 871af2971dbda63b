/-
This file defines the four arithmetic operators and how tightly they bind.
-/

namespace TraceCalc

/-- The expression language has these operators and no others. -/
inductive Operator where
  | plus
  | minus
  | times
  | divide
  deriving DecidableEq, Repr

/-- An operator of greater precedence takes its operands first. -/
abbrev Precedence := Nat

namespace Precedence

/-- Every operator binds tighter than the whole expression. -/
def lowest : Precedence := 0

/-- A sign binds tighter than every infix operator. -/
def sign : Precedence := 30

/-- A number or a name never needs parentheses for its place. -/
def leaf : Precedence := 255

end Precedence

namespace Operator

/-- Products and quotients bind tighter than sums and differences. -/
def precedence : Operator → Precedence
  | .plus | .minus => 10
  | .times | .divide => 20

/-- An operator is written as one character. -/
def symbol : Operator → String
  | .plus => "+"
  | .minus => "-"
  | .times => "*"
  | .divide => "/"

/-- Only addition and subtraction have a form with one operand. -/
def isSign : Operator → Bool
  | .plus | .minus => true
  | .times | .divide => false

theorem lowest_lt_precedence (operator : Operator) :
    Precedence.lowest < operator.precedence := by
  cases operator <;> decide

theorem precedence_lt_sign (operator : Operator) :
    operator.precedence < Precedence.sign := by
  cases operator <;> decide

end Operator

end TraceCalc
