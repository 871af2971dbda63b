/-
This file defines the grammar of expressions.
-/

import TraceCalc.Expr
import TraceCalc.Token

namespace TraceCalc

/-- A sum is made of products, and a product is made of factors. -/
inductive Category where
  | sum
  | product
  | factor
  deriving DecidableEq, Repr

/-- The operators of sums and products nest to the left, and parentheses mark what they enclose. -/
inductive Derives : Category → List Lexeme → Expr → Prop
  | number (digits : String) (value : Int64) :
      Derives .factor [.number digits value] (.number false value)
  | identifier (name : String) : Derives .factor [.identifier name] (.reference false name)
  | signed {operator : Operator} {lexemes : List Lexeme} {operand : Expr}
      (sign : operator = .plus ∨ operator = .minus) (inner : Derives .factor lexemes operand) :
      Derives .factor (.symbol operator :: lexemes) (.unary false operator operand)
  | group {lexemes : List Lexeme} {expr : Expr} (inner : Derives .sum lexemes expr) :
      Derives .factor (.opening :: (lexemes ++ [.closing])) expr.group
  | ofFactor {lexemes : List Lexeme} {expr : Expr} (inner : Derives .factor lexemes expr) :
      Derives .product lexemes expr
  | product {operator : Operator} {first second : List Lexeme} {left right : Expr}
      (scales : operator = .times ∨ operator = .divide) (before : Derives .product first left)
      (behind : Derives .factor second right) :
      Derives .product (first ++ .symbol operator :: second)
        (.binary false operator operator.precedence left right)
  | ofProduct {lexemes : List Lexeme} {expr : Expr} (inner : Derives .product lexemes expr) :
      Derives .sum lexemes expr
  | sum {operator : Operator} {first second : List Lexeme} {left right : Expr}
      (adds : operator = .plus ∨ operator = .minus) (before : Derives .sum first left)
      (behind : Derives .product second right) :
      Derives .sum (first ++ .symbol operator :: second)
        (.binary false operator operator.precedence left right)

/-- Above a precedence, only the operators that bind tighter are infix operators. -/
def Category.above (least : Nat) : Category :=
  if least < 10 then .sum else if least < 20 then .product else .factor

namespace Category

theorem above_of_lt_ten {least : Nat} (loose : least < 10) : above least = .sum :=
  if_pos loose

theorem above_of_lt_twenty {least : Nat} (above10 : 10 ≤ least) (loose : least < 20) :
    above least = .product := by
  rw [above, if_neg (by omega), if_pos loose]

theorem above_of_twenty_le {least : Nat} (tight : 20 ≤ least) : above least = .factor := by
  rw [above, if_neg (by omega), if_neg (by omega)]

end Category

namespace Derives

variable {lexemes : List Lexeme} {expr : Expr}

/-- A factor is an expression above every precedence. -/
theorem above_of_factor (inner : Derives .factor lexemes expr) (least : Nat) :
    Derives (.above least) lexemes expr := by
  unfold Category.above
  split
  · exact inner.ofFactor.ofProduct
  · split
    · exact inner.ofFactor
    · exact inner

/-- An expression above a precedence is one above every lower precedence. -/
theorem above_of_le {small large : Nat} (le : small ≤ large)
    (inner : Derives (.above large) lexemes expr) : Derives (.above small) lexemes expr := by
  by_cases factor : 20 ≤ large
  · rw [Category.above_of_twenty_le factor] at inner
    exact inner.above_of_factor small
  · by_cases sum : large < 10
    · rw [Category.above_of_lt_ten sum] at inner
      rw [Category.above_of_lt_ten (by omega)]
      exact inner
    · rw [Category.above_of_lt_twenty (by omega) (by omega)] at inner
      by_cases sum : small < 10
      · rw [Category.above_of_lt_ten sum]
        exact inner.ofProduct
      · rw [Category.above_of_lt_twenty (by omega) (by omega)]
        exact inner

/-- The left operand may hold the same operator again, and the right operand may not. -/
theorem infixed {operator : Operator} {first second : List Lexeme} {left right : Expr}
    (before : Derives (.above (operator.precedence - 1)) first left)
    (behind : Derives (.above operator.precedence) second right) :
    Derives (.above (operator.precedence - 1)) (first ++ .symbol operator :: second)
      (.binary false operator operator.precedence left right) := by
  cases operator with
  | plus => exact .sum (.inl rfl) before behind
  | minus => exact .sum (.inr rfl) before behind
  | times => exact .product (.inl rfl) before behind
  | divide => exact .product (.inr rfl) before behind

end Derives

end TraceCalc
