/-
This file reads integers of seven bits in a byte and shows that written integers are read back.
-/

import Mathlib.Algebra.Group.Int.Defs
import Mathlib.Algebra.Group.Nat.Defs
import TraceCalc.Wasm.Leb128

namespace TraceCalc.Wasm.Leb128

variable {strict : Bool} {width : Nat} {byte : UInt8} {bytes rest : List UInt8}

/-- The high bit and seven more bits fill a byte. -/
theorem toNat_ofNat_add {low : Nat} (bound : low < 128) :
    (UInt8.ofNat (low + 128)).toNat = low + 128 := by
  rw [UInt8.toNat_ofNat']
  exact Nat.mod_eq_of_lt (by omega)

/-- A width of more than seven bits leaves the other bits to the next bytes. -/
theorem two_pow_eq_mul (wide : 7 ≤ width) : 2 ^ width = 128 * 2 ^ (width - 7) := by
  rw [show (128 : Nat) = 2 ^ 7 from rfl, ← Nat.pow_add, Nat.add_sub_cancel' wide]

section Unsigned

variable {value : Nat}

/-- The width bounds the value; a strict reader refuses several bytes where one byte is enough. -/
def readUnsigned (strict : Bool) : Nat → List UInt8 → Option (Nat × List UInt8)
  | _, [] => none
  | width, byte :: bytes =>
      if byte.toNat < 128 then
        if byte.toNat < 2 ^ width then some (byte.toNat, bytes) else none
      else if width ≤ 7 then none
      else
        match readUnsigned strict (width - 7) bytes with
        | none => none
        | some (high, rest) =>
            let value := 128 * high + (byte.toNat - 128)
            if strict && value < 128 then none else some (value, rest)

/-- At least one byte is written, also for zero. -/
theorem unsigned_ne_nil (value : Nat) : unsigned value ≠ [] := by
  rw [unsigned]
  split <;> exact List.cons_ne_nil _ _

/-- What was written is read back, whatever follows it. -/
theorem readUnsigned_unsigned (fits : value < 2 ^ width) (rest : List UInt8) :
    readUnsigned strict width (unsigned value ++ rest) = some (value, rest) := by
  induction value using Nat.strongRecOn generalizing width with
  | ind value inductionHypothesis =>
      by_cases small : value < 128
      · have same : (UInt8.ofNat value).toNat = value := by
          rw [UInt8.toNat_ofNat']
          exact Nat.mod_eq_of_lt (by omega)
        rw [unsigned_of_lt small, List.singleton_append, readUnsigned, same, if_pos small,
          if_pos fits]
      · have wide : ¬ width ≤ 7 := by
          intro narrow
          have bound : 2 ^ width ≤ 2 ^ 7 := Nat.pow_le_pow_right (by decide) narrow
          omega
        have high : value / 128 < 2 ^ (width - 7) := by
          rw [two_pow_eq_mul (by omega)] at fits
          exact Nat.div_lt_of_lt_mul fits
        have later := inductionHypothesis (value / 128) (by omega) high
        have whole : 128 * (value / 128) + (value % 128 + 128 - 128) = value := by omega
        rw [unsigned_of_le (by omega), List.cons_append, readUnsigned,
          toNat_ofNat_add (Nat.mod_lt value (by decide)), if_neg (by omega), if_neg wide, later]
        simp only [whole, small, decide_false, Bool.and_false, Bool.false_eq_true, if_false]

/-- The first byte is the value, or it holds the low bits below what follows. -/
theorem readUnsigned_cons_eq_some
    (found : readUnsigned strict width (byte :: bytes) = some (value, rest)) :
    (value = byte.toNat ∧ value < 128 ∧ value < 2 ^ width ∧ rest = bytes) ∨
      ∃ high, readUnsigned strict (width - 7) bytes = some (high, rest) ∧ 7 < width ∧
        value + 128 = 128 * high + byte.toNat ∧ 128 ≤ byte.toNat ∧
          (strict = true → 128 ≤ value) := by
  rw [readUnsigned] at found
  split at found
  next small =>
    split at found
    next fits =>
      obtain ⟨rfl, rfl⟩ := Prod.mk.inj (Option.some.inj found)
      exact .inl ⟨rfl, small, fits, rfl⟩
    · exact nomatch found
  next large =>
    split at found
    · exact nomatch found
    next wide =>
      split at found
      · exact nomatch found
      next high rest later =>
        dsimp only at found
        split at found
        · exact nomatch found
        next minimal =>
          obtain ⟨rfl, rfl⟩ := Prod.mk.inj (Option.some.inj found)
          refine .inr ⟨high, later, by omega, by omega, by omega, ?_⟩
          intro isStrict
          simpa [isStrict] using minimal

/-- No integer can be read from fewer bytes than are written for it. -/
theorem length_unsigned_le
    (found : readUnsigned strict width bytes = some (value, rest)) :
    (unsigned value).length + rest.length ≤ bytes.length := by
  induction bytes generalizing width value with
  | nil => exact nomatch found
  | cons byte bytes inductionHypothesis =>
      obtain ⟨-, small, -, rfl⟩ | ⟨high, later, -, whole, large, -⟩ :=
        readUnsigned_cons_eq_some found
      · rw [unsigned_of_lt small, List.length_singleton, List.length_cons]
        omega
      · have shorter := inductionHypothesis later
        by_cases small : value < 128
        · rw [unsigned_of_lt small, List.length_singleton, List.length_cons]
          omega
        · have same : value / 128 = high := by
            have bound := byte.toNat_lt
            omega
          rw [unsigned_of_le (by omega), same, List.length_cons, List.length_cons]
          omega

theorem readUnsigned_lt (found : readUnsigned strict width bytes = some (value, rest)) :
    value < 2 ^ width := by
  induction bytes generalizing width value with
  | nil => exact nomatch found
  | cons byte bytes inductionHypothesis =>
      obtain ⟨-, -, fits, -⟩ | ⟨high, later, wide, whole, -, -⟩ := readUnsigned_cons_eq_some found
      · exact fits
      · have bound := inductionHypothesis later
        have low := byte.toNat_lt
        rw [two_pow_eq_mul (by omega)]
        omega

/-- A strict reader accepts an integer only as it is written. -/
theorem eq_unsigned_append (found : readUnsigned true width bytes = some (value, rest)) :
    bytes = unsigned value ++ rest := by
  induction bytes generalizing width value with
  | nil => exact nomatch found
  | cons byte bytes inductionHypothesis =>
      obtain ⟨rfl, small, -, rfl⟩ | ⟨high, later, -, whole, large, minimal⟩ :=
        readUnsigned_cons_eq_some found
      · rw [unsigned_of_lt small, UInt8.ofNat_toNat, List.singleton_append]
      · have bound := byte.toNat_lt
        have low : value % 128 + 128 = byte.toNat := by omega
        have same : value / 128 = high := by omega
        rw [unsigned_of_le (minimal rfl), low, same, UInt8.ofNat_toNat, List.cons_append,
          ← inductionHypothesis later]

/-- One byte is enough for the value one. -/
example : readUnsigned true 32 [0x81, 0x00] = none ∧
    readUnsigned false 32 [0x81, 0x00] = some (1, []) := by decide

end Unsigned

section Signed

variable {value : Int}

/-- The last byte holds seven bits with the sign, and the width bounds the value on both sides. -/
def readSigned (strict : Bool) : Nat → List UInt8 → Option (Int × List UInt8)
  | _, [] => none
  | width, byte :: bytes =>
      if byte.toNat < 64 then
        if byte.toNat < 2 ^ (width - 1) then some (byte.toNat, bytes) else none
      else if byte.toNat < 128 then
        if 128 ≤ byte.toNat + 2 ^ (width - 1) then some ((byte.toNat : Int) - 128, bytes) else none
      else if width ≤ 7 then none
      else
        match readSigned strict (width - 7) bytes with
        | none => none
        | some (high, rest) =>
            let value := 128 * high + ((byte.toNat : Int) - 128)
            if strict && (-64 ≤ value && value < 64) then none else some (value, rest)

theorem cast_two_pow (count : Nat) : ((2 ^ count : Nat) : Int) = 2 ^ count := by simp

/-- Half of a width of more than seven bits leaves the other bits to the next bytes, too. -/
theorem two_pow_pred_eq_mul (wide : 7 < width) :
    (2 : Int) ^ (width - 1) = 128 * 2 ^ (width - 7 - 1) := by
  rw [← cast_two_pow, two_pow_eq_mul (by omega), show width - 1 - 7 = width - 7 - 1 by omega,
    Int.natCast_mul, cast_two_pow]
  rfl

theorem signed_of_small (small : -64 ≤ value ∧ value < 64) :
    signed value = [UInt8.ofNat (value % 128).toNat] := by
  rw [signed, if_pos small]

theorem signed_of_large (large : ¬ (-64 ≤ value ∧ value < 64)) :
    signed value = UInt8.ofNat ((value % 128).toNat + 128) :: signed (value / 128) := by
  rw [signed, if_neg large]

/-- What was written is read back, whatever follows it. -/
theorem readSigned_signed (positive : 0 < width) (above : -2 ^ (width - 1) ≤ value)
    (below : value < 2 ^ (width - 1)) (rest : List UInt8) :
    readSigned strict width (signed value ++ rest) = some (value, rest) := by
  induction value using signed.induct generalizing width with
  | case1 value small =>
      have same : (UInt8.ofNat (value % 128).toNat).toNat = (value % 128).toNat := by
        rw [UInt8.toNat_ofNat']
        exact Nat.mod_eq_of_lt (by omega)
      have bound := cast_two_pow (width - 1)
      rw [signed_of_small small, List.singleton_append, readSigned, same]
      by_cases negative : value < 0
      · have low : (value % 128).toNat = value + 128 := by omega
        rw [if_neg (by omega), if_pos (by omega), if_pos (by omega), low, Int.add_sub_cancel]
      · have low : (value % 128).toNat = value := by omega
        rw [if_pos (by omega), if_pos (by omega), low]
  | case2 value large inductionHypothesis =>
      have wide : 7 < width := by
        apply Nat.lt_of_not_le
        intro narrow
        have bound : 2 ^ (width - 1) ≤ 2 ^ 6 := Nat.pow_le_pow_right (by decide) (by omega)
        have same := cast_two_pow (width - 1)
        omega
      have split := two_pow_pred_eq_mul wide
      have later : readSigned strict (width - 7) (signed (value / 128) ++ rest) =
          some (value / 128, rest) := inductionHypothesis (by omega) (by omega) (by omega)
      have low : (((value % 128).toNat : Nat) : Int) = value % 128 :=
        Int.toNat_of_nonneg (by omega)
      have whole : 128 * (value / 128) + ((((value % 128).toNat + 128 : Nat) : Int) - 128) =
          value := by omega
      rw [signed_of_large large, List.cons_append, readSigned, toNat_ofNat_add (by omega),
        if_neg (by omega), if_neg (by omega), if_neg (by omega), later]
      have refused : (decide (-64 ≤ value) && decide (value < 64)) = false := by
        simpa using large
      simp only [whole, refused, Bool.and_false, Bool.false_eq_true, if_false]

/-- The first byte holds the value with its sign, or the low bits below what follows. -/
theorem readSigned_cons_eq_some
    (found : readSigned strict width (byte :: bytes) = some (value, rest)) :
    ((-64 ≤ value ∧ value < 64) ∧ (-2 ^ (width - 1) ≤ value ∧ value < 2 ^ (width - 1)) ∧
        (value % 128).toNat = byte.toNat ∧ rest = bytes) ∨
      ∃ high, readSigned strict (width - 7) bytes = some (high, rest) ∧ 7 < width ∧
        value + 128 = 128 * high + byte.toNat ∧ 128 ≤ byte.toNat ∧
          (strict = true → ¬ (-64 ≤ value ∧ value < 64)) := by
  have half := cast_two_pow (width - 1)
  rw [readSigned] at found
  split at found
  next small =>
    split at found
    · obtain ⟨rfl, rfl⟩ := Prod.mk.inj (Option.some.inj found)
      exact .inl ⟨by omega, ⟨by omega, by omega⟩, by omega, rfl⟩
    · exact nomatch found
  next large =>
    split at found
    next negative =>
      split at found
      · obtain ⟨rfl, rfl⟩ := Prod.mk.inj (Option.some.inj found)
        exact .inl ⟨by omega, ⟨by omega, by omega⟩, by omega, rfl⟩
      · exact nomatch found
    · split at found
      · exact nomatch found
      next wide =>
        split at found
        · exact nomatch found
        next high rest later =>
          dsimp only at found
          split at found
          · exact nomatch found
          next minimal =>
            obtain ⟨rfl, rfl⟩ := Prod.mk.inj (Option.some.inj found)
            refine .inr ⟨high, later, by omega, by omega, by omega, ?_⟩
            intro isStrict
            simpa [isStrict] using minimal

/-- No integer can be read from fewer bytes than are written for it. -/
theorem length_signed_le (found : readSigned strict width bytes = some (value, rest)) :
    (signed value).length + rest.length ≤ bytes.length := by
  induction bytes generalizing width value with
  | nil => exact nomatch found
  | cons byte bytes inductionHypothesis =>
      obtain ⟨small, -, -, rfl⟩ | ⟨high, later, -, whole, large, -⟩ := readSigned_cons_eq_some found
      · rw [signed_of_small small, List.length_singleton, List.length_cons]
        omega
      · have shorter := inductionHypothesis later
        by_cases small : -64 ≤ value ∧ value < 64
        · rw [signed_of_small small, List.length_singleton, List.length_cons]
          omega
        · have same : value / 128 = high := by
            have bound := byte.toNat_lt
            omega
          rw [signed_of_large small, same, List.length_cons, List.length_cons]
          omega

theorem readSigned_bounds (found : readSigned strict width bytes = some (value, rest)) :
    -2 ^ (width - 1) ≤ value ∧ value < 2 ^ (width - 1) := by
  induction bytes generalizing width value with
  | nil => exact nomatch found
  | cons byte bytes inductionHypothesis =>
      obtain ⟨-, fits, -, -⟩ | ⟨high, later, wide, whole, large, -⟩ := readSigned_cons_eq_some found
      · exact fits
      · have bounds := inductionHypothesis later
        have low := byte.toNat_lt
        rw [two_pow_pred_eq_mul wide]
        omega

/-- A strict reader accepts an integer only as it is written. -/
theorem eq_signed_append (found : readSigned true width bytes = some (value, rest)) :
    bytes = signed value ++ rest := by
  induction bytes generalizing width value with
  | nil => exact nomatch found
  | cons byte bytes inductionHypothesis =>
      obtain ⟨small, -, low, rfl⟩ | ⟨high, later, -, whole, large, minimal⟩ :=
        readSigned_cons_eq_some found
      · rw [signed_of_small small, low, UInt8.ofNat_toNat, List.singleton_append]
      · have bound := byte.toNat_lt
        have low : (value % 128).toNat + 128 = byte.toNat := by omega
        have same : value / 128 = high := by omega
        rw [signed_of_large (minimal rfl), low, same, UInt8.ofNat_toNat, List.cons_append,
          ← inductionHypothesis later]

end Signed

end TraceCalc.Wasm.Leb128
