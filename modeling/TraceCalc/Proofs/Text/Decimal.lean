/-
This file shows that the digits of a written integer are read as the same integer.
-/

import Mathlib.Algebra.Group.Nat.Defs
import TraceCalc.Text.Decimal

namespace TraceCalc.Text.Decimal

/-- Every digit makes the value larger, so only the last value is compared with the bound. -/
theorem le_ofDigitChars (digits : List Char) (value : Nat) :
    value ≤ Nat.ofDigitChars 10 digits value := by
  induction digits generalizing value with
  | nil => exact Nat.le_refl value
  | cons digit rest inductionHypothesis =>
      rw [Nat.ofDigitChars_cons]
      have later := inductionHypothesis (10 * value + (digit.toNat - '0'.toNat))
      omega

/-- A digit moves the value on by one decimal place. -/
theorem append_positive (value : Nat) (digit : Char) :
    Sign.positive.append value (digitValue digit) =
      ((10 * value + (digit.toNat - '0'.toNat) : Nat) : Int) := by
  rw [Sign.append, digitValue]
  omega

/-- Digits whose value fits in 64 bits are read as this value. -/
theorem readDigits_eq_ok {digits : List Char} (numeric : ∀ digit ∈ digits, digit.isDigit = true)
    (value : Nat) (fits : (Nat.ofDigitChars 10 digits value : Int) ≤ Int64.maxValue.toInt) :
    readDigits .positive value digits =
      .ok (Int64.ofInt (Nat.ofDigitChars 10 digits value : Nat)) := by
  induction digits generalizing value with
  | nil => rfl
  | cons digit rest inductionHypothesis =>
      rw [Nat.ofDigitChars_cons] at fits ⊢
      have grown := le_ofDigitChars rest (10 * value + (digit.toNat - '0'.toNat))
      have small : ¬ Int64.maxValue.toInt <
          ((10 * value + (digit.toNat - '0'.toNat) : Nat) : Int) := by
        omega
      have nonnegative : ¬ ((10 * value + (digit.toNat - '0'.toNat) : Nat) : Int) <
          Int64.minValue.toInt := by
        have negative : Int64.minValue.toInt < 0 := by decide
        omega
      rw [readDigits, if_pos (numeric digit List.mem_cons_self)]
      simp only [append_positive, if_neg small, if_neg nonnegative]
      exact inductionHypothesis (fun other member => numeric other (List.mem_cons_of_mem _ member))
        _ fits

/-- Digits whose value does not fit in 64 bits are refused, wherever the bound is passed. -/
theorem readDigits_eq_tooLarge {digits : List Char}
    (numeric : ∀ digit ∈ digits, digit.isDigit = true) (value : Nat)
    (fits : (value : Int) ≤ Int64.maxValue.toInt)
    (large : Int64.maxValue.toInt < (Nat.ofDigitChars 10 digits value : Nat)) :
    readDigits .positive value digits = .error .tooLarge := by
  induction digits generalizing value with
  | nil =>
      rw [Nat.ofDigitChars_nil] at large
      omega
  | cons digit rest inductionHypothesis =>
      rw [Nat.ofDigitChars_cons] at large
      rw [readDigits, if_pos (numeric digit List.mem_cons_self)]
      simp only [append_positive]
      split
      next => rfl
      next small =>
          have nonnegative : ¬ ((10 * value + (digit.toNat - '0'.toNat) : Nat) : Int) <
              Int64.minValue.toInt := by
            have negative : Int64.minValue.toInt < 0 := by decide
            omega
          rw [if_neg nonnegative]
          exact inductionHypothesis
            (fun other member => numeric other (List.mem_cons_of_mem _ member)) _ (by omega) large

/-- Digits are read exactly when their value fits, and then as this value. -/
theorem readDigits_eq_ok_iff {digits : List Char} {value : Int64}
    (numeric : ∀ digit ∈ digits, digit.isDigit = true) :
    readDigits .positive 0 digits = .ok value ↔ value.toInt = Nat.ofDigitChars 10 digits 0 := by
  by_cases fits : (Nat.ofDigitChars 10 digits 0 : Int) ≤ Int64.maxValue.toInt
  · have found : readDigits .positive 0 digits = _ := readDigits_eq_ok numeric 0 fits
    have exactly : (Int64.ofInt (Nat.ofDigitChars 10 digits 0 : Nat)).toInt =
        Nat.ofDigitChars 10 digits 0 := by
      rw [Int64.toInt_maxValue] at fits
      exact Int64.toInt_ofInt_of_le (by omega) (by omega)
    rw [found, Except.ok.injEq]
    constructor
    · rintro rfl
      exact exactly
    · intro same
      exact Int64.toInt_inj.mp (exactly.trans same.symm)
  · have failed : readDigits .positive 0 digits = .error .tooLarge :=
      readDigits_eq_tooLarge numeric 0 (by decide) (Int.lt_of_not_ge fits)
    have bound := value.toInt_le
    rw [failed]
    constructor
    · intro success
      simp at success
    · intro same
      omega

variable {value : Int64}

/-- A value that is not negative is written with digits only. -/
theorem toList_write (nonnegative : 0 ≤ value.toInt) :
    (write value).toList = Nat.toDigits 10 value.toInt.toNat := by
  obtain ⟨magnitude, same⟩ := Int.eq_ofNat_of_zero_le nonnegative
  rw [write, same]
  exact Nat.toList_repr

theorem isDigit_of_mem_write (nonnegative : 0 ≤ value.toInt) {digit : Char}
    (member : digit ∈ (write value).toList) : digit.isDigit = true := by
  rw [toList_write nonnegative] at member
  exact Nat.isDigit_of_mem_toDigits (by decide) (by decide) member

theorem readDigits_write (nonnegative : 0 ≤ value.toInt) :
    readDigits .positive 0 (write value).toList = .ok value := by
  have same : Nat.ofDigitChars 10 (write value).toList 0 = value.toInt.toNat := by
    rw [toList_write nonnegative, Nat.ofDigitChars_ten_toDigits]
  have found := readDigits_eq_ok (fun _ => isDigit_of_mem_write nonnegative) 0 (by
    rw [same, Int.toNat_of_nonneg nonnegative]
    exact value.toInt_le)
  rw [same, Int.toNat_of_nonneg nonnegative, Int64.ofInt_toInt] at found
  exact found

/-- At least one digit is written, also for zero. -/
theorem exists_write_eq_cons (nonnegative : 0 ≤ value.toInt) :
    ∃ first rest, (write value).toList = first :: rest := by
  rw [toList_write nonnegative]
  exact List.exists_cons_of_ne_nil Nat.toDigits_ne_nil

/-- Digits denote less than the power of ten with as many zeros, behind the value before them. -/
theorem ofDigitChars_lt {digits : List Char} (numeric : ∀ digit ∈ digits, digit.isDigit = true)
    (value : Nat) : Nat.ofDigitChars 10 digits value < (value + 1) * 10 ^ digits.length := by
  induction digits generalizing value with
  | nil => simp
  | cons digit rest inductionHypothesis =>
      obtain ⟨isDigit, inside⟩ := List.forall_mem_cons.mp numeric
      have small : digit.toNat - '0'.toNat ≤ 9 := by
        have bound : digit.toNat ≤ '9'.toNat := (Char.isDigit_iff_toNat.mp isDigit).2
        change digit.toNat ≤ 57 at bound
        change digit.toNat - 48 ≤ 9
        omega
      rw [Nat.ofDigitChars_cons, List.length_cons]
      calc Nat.ofDigitChars 10 rest (10 * value + (digit.toNat - '0'.toNat))
          < (10 * value + (digit.toNat - '0'.toNat) + 1) * 10 ^ rest.length :=
            inductionHypothesis inside _
        _ ≤ ((value + 1) * 10) * 10 ^ rest.length := Nat.mul_le_mul_right _ (by omega)
        _ = (value + 1) * 10 ^ (rest.length + 1) := by rw [Nat.pow_succ', Nat.mul_assoc]

/-- No digits of a value are fewer than the ones that are written. -/
theorem length_write_le {digits : List Char} (nonempty : digits ≠ [])
    (numeric : ∀ digit ∈ digits, digit.isDigit = true)
    (exactly : value.toInt = Nat.ofDigitChars 10 digits 0) :
    (write value).toList.length ≤ digits.length := by
  have nonnegative : 0 ≤ value.toInt := exactly ▸ Int.natCast_nonneg _
  have small := ofDigitChars_lt numeric 0
  rw [toList_write nonnegative, exactly, Int.toNat_natCast,
    Nat.length_toDigits_le_iff (by decide) (List.length_pos_iff.mpr nonempty)]
  rwa [Nat.zero_add, Nat.one_mul] at small

end TraceCalc.Text.Decimal
