/-
This file describes machine arithmetic by arithmetic on unbounded integers.
-/

import TraceCalc.Arithmetic
import Mathlib.Algebra.Group.Int.Defs

namespace TraceCalc

namespace Operator

/-- The exact result has no bound, and an exact quotient is cut toward zero. -/
def exact (operator : Operator) (left right : Int) : Int :=
  match operator with
  | .plus => left + right
  | .minus => left - right
  | .times => left * right
  | .divide => left.tdiv right

/-- Only a division fails: without a quotient, or where the quotient is one too large. -/
def fault? (operator : Operator) (left right : Int64) : Option Error :=
  match operator with
  | .plus | .minus | .times => none
  | .divide =>
      if right.toInt = 0 then some (.divisionByZero left)
      else if left.toInt = -2 ^ 63 ∧ right.toInt = -1 then some (.divisionOverflow left right)
      else none

/-- The exact result is reduced to 64 bits where nothing fails. -/
def onWords (operator : Operator) (left right : Int64) : Except Error Int64 :=
  match operator.fault? left right with
  | some error => .error error
  | none => .ok (Int64.ofInt (operator.exact left.toInt right.toInt))

theorem word_div_eq_ofInt (left right : Int64) :
    left / right = Int64.ofInt (left.toInt.tdiv right.toInt) := by
  apply Int64.toInt_inj.mp
  rw [Int64.toInt_div, Int64.toInt_ofInt]

theorem word_eq_minValue_iff (word : Int64) : word = Int64.minValue ↔ word.toInt = -2 ^ 63 := by
  rw [← Int64.toInt_inj, Int64.toInt_minValue]

theorem word_eq_minusOne_iff (word : Int64) : word = -1 ↔ word.toInt = -1 := by
  rw [← Int64.toInt_inj]
  rfl

theorem word_eq_zero_iff (word : Int64) : word = 0 ↔ word.toInt = 0 := by
  rw [← Int64.toInt_inj, Int64.toInt_zero]

theorem quotient_eq_onWords (left right : Int64) :
    quotient left right = Operator.divide.onWords left right := by
  simp only [quotient, onWords, fault?, word_eq_zero_iff, word_eq_minValue_iff,
    word_eq_minusOne_iff]
  by_cases zero : right.toInt = 0
  · rw [if_pos zero, if_pos zero]
  · rw [if_neg zero, if_neg zero]
    by_cases large : left.toInt = -2 ^ 63 ∧ right.toInt = -1
    · rw [if_pos large, if_pos large]
    · rw [if_neg large, if_neg large]
      exact congrArg Except.ok (word_div_eq_ofInt left right)

/-- Every operator calculates exactly and keeps the lowest 64 bits. -/
theorem apply_eq_onWords (operator : Operator) (left right : Int64) :
    operator.apply left right = operator.onWords left right := by
  cases operator with
  | plus => simp [onWords, fault?, exact]
  | minus => simp [onWords, fault?, exact]
  | times => simp [onWords, fault?, exact]
  | divide => exact quotient_eq_onWords left right

end Operator

/-- A division that fails is a fault of the calculation. -/
theorem phase_of_quotient {left right : Int64} {error : Error}
    (failed : quotient left right = .error error) : error.phase = .calculating := by
  rcases quotient_eq_error failed with ⟨_, rfl⟩ | ⟨_, _, rfl⟩
  · rfl
  · rfl

namespace Operator

theorem phase_of_apply {operator : Operator} {left right : Int64} {error : Error}
    (failed : operator.apply left right = .error error) : error.phase = .calculating := by
  cases operator with
  | plus | minus | times => simp at failed
  | divide => exact phase_of_quotient failed

theorem phase_of_fault? {operator : Operator} {left right : Int64} {error : Error}
    (failed : operator.fault? left right = some error) : error.phase = .calculating := by
  have stopped : operator.apply left right = .error error := by
    rw [apply_eq_onWords, onWords, failed]
  exact phase_of_apply stopped

end Operator

end TraceCalc
