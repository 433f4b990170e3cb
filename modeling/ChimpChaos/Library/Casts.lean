/-
This file says what casts and comparisons of machine integers make of their numbers.

A cast from 64 unsigned bits to 64 signed bits keeps a number below `2 ^ 63` and takes `2 ^ 64`
off any other.
-/

import Mathlib.Algebra.Ring.Int.Defs
import Mathlib.Algebra.Ring.Nat

namespace ChimpChaos.Library

variable {value : UInt64}

/-- What fits the signed integer is kept. -/
theorem toInt64_of_fits (fits : value.toNat < 2 ^ 63) : value.toInt64.toInt = value.toNat := by
  rw [← Int64.toInt_toBitVec, UInt64.toBitVec_toInt64, BitVec.toInt_eq_toNat_of_lt]
  · rfl
  · rw [UInt64.toNat_toBitVec]
    omega

/-- What does not fit the signed integer becomes negative. -/
theorem toInt64_of_large (large : 2 ^ 63 ≤ value.toNat) :
    value.toInt64.toInt = (value.toNat : Int) - 2 ^ 64 := by
  rw [← Int64.toInt_toBitVec, UInt64.toBitVec_toInt64, BitVec.toInt_eq_toNat_cond,
    UInt64.toNat_toBitVec, if_neg (by omega)]
  rfl

theorem toInt64_neg (large : 2 ^ 63 ≤ value.toNat) : value.toInt64.toInt < 0 := by
  have below := value.toNat_lt
  rw [toInt64_of_large large]
  omega

/-- The smaller of two integers is the smaller number. -/
theorem toNat_min_uint32 (first second : UInt32) :
    (min first second).toNat = min first.toNat second.toNat := by
  show (if first ≤ second then first else second).toNat = _
  split_ifs with le
  · exact (min_eq_left (UInt32.le_iff_toNat_le.mp le)).symm
  · exact (min_eq_right (le_of_not_ge (mt UInt32.le_iff_toNat_le.mpr le))).symm

theorem min_uint32_le_right (first second : UInt32) : min first second ≤ second := by
  rw [UInt32.le_iff_toNat_le, toNat_min_uint32]
  exact min_le_right _ _

end ChimpChaos.Library
