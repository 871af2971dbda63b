/-
This file writes integers as bytes of seven bits, the lowest bits first.
-/

namespace TraceCalc.Wasm.Leb128

/-- Every byte but the last one has its high bit set. -/
def unsigned (value : Nat) : List UInt8 :=
  if value < 128 then [UInt8.ofNat value]
  else UInt8.ofNat (value % 128 + 128) :: unsigned (value / 128)
  termination_by value
  decreasing_by omega

/-- The last byte holds seven bits with the sign. -/
def signed (value : Int) : List UInt8 :=
  if -64 ≤ value ∧ value < 64 then [UInt8.ofNat (value % 128).toNat]
  else UInt8.ofNat ((value % 128).toNat + 128) :: signed (value / 128)
  termination_by value.natAbs
  decreasing_by omega

theorem unsigned_of_lt {value : Nat} (small : value < 128) :
    unsigned value = [UInt8.ofNat value] := by
  rw [unsigned, if_pos small]

theorem unsigned_of_le {value : Nat} (large : 128 ≤ value) :
    unsigned value = UInt8.ofNat (value % 128 + 128) :: unsigned (value / 128) := by
  rw [unsigned, if_neg (by omega)]

end TraceCalc.Wasm.Leb128
