/-
This file calculates with signed 64-bit integers.
-/

import TraceCalc.Error

namespace TraceCalc

/-- A quotient is cut toward zero and fails where it does not exist or does not fit. -/
def quotient (dividend divisor : Int64) : Except Error Int64 :=
  if divisor = 0 then .error (.divisionByZero dividend)
  else if dividend = Int64.minValue ∧ divisor = -1 then
    .error (.divisionOverflow dividend divisor)
  else .ok (dividend / divisor)

/-- There is no quotient for a divisor of zero, and only one quotient is too large. -/
theorem quotient_eq_error {dividend divisor : Int64} {error : Error}
    (failed : quotient dividend divisor = .error error) :
    (divisor = 0 ∧ error = .divisionByZero dividend) ∨
      dividend = Int64.minValue ∧ divisor = -1 ∧ error = .divisionOverflow dividend divisor := by
  rw [quotient] at failed
  split at failed
  next zero => exact .inl ⟨zero, (Except.error.inj failed).symm⟩
  next =>
    split at failed
    next large => exact .inr ⟨large.1, large.2, (Except.error.inj failed).symm⟩
    next => exact nomatch failed

/-- Sums, differences and products wrap around. -/
def Operator.apply (operator : Operator) (left right : Int64) : Except Error Int64 :=
  match operator with
  | .plus => .ok (left + right)
  | .minus => .ok (left - right)
  | .times => .ok (left * right)
  | .divide => quotient left right

@[simp] theorem Operator.apply_plus (left right : Int64) :
    Operator.plus.apply left right = .ok (left + right) := rfl

@[simp] theorem Operator.apply_minus (left right : Int64) :
    Operator.minus.apply left right = .ok (left - right) := rfl

@[simp] theorem Operator.apply_times (left right : Int64) :
    Operator.times.apply left right = .ok (left * right) := rfl

@[simp] theorem Operator.apply_divide (left right : Int64) :
    Operator.divide.apply left right = quotient left right := rfl

end TraceCalc
