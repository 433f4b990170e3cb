/-
This file holds floating point values with exact finite arithmetic.

A value is a rational, an infinity or no number. The special values combine as IEEE 754 has
it; a finite result is the exact one, and zero has one sign. `maximum` prefers the operand
that is a number, the conversion to an unsigned integer saturates, and a value prints with a
fixed number of decimals.
-/

import Mathlib.Data.Rat.Floor

namespace ChimpChaos.Library

inductive F64 where
  | nan
  | negInf
  | finite (value : Rat)
  | posInf
  deriving DecidableEq, Repr

namespace F64

def zero : F64 := .finite 0

/-- Is the value a number other than the infinities? -/
def isFinite : F64 → Bool
  | .finite _ => true
  | _ => false

theorem eq_finite {value : F64} (finite : value.isFinite = true) :
    ∃ content, value = .finite content := by
  cases value with
  | finite content => exact ⟨content, rfl⟩
  | _ => cases finite

def isNan : F64 → Bool
  | .nan => true
  | _ => false

/-- The comparison of values. Nothing compares with no number. -/
def atMost : F64 → F64 → Bool
  | .nan, _ | _, .nan => false
  | .negInf, _ | _, .posInf => true
  | .finite left, .finite right => decide (left ≤ right)
  | _, _ => false

def negate : F64 → F64
  | .nan => .nan
  | .negInf => .posInf
  | .finite value => .finite (-value)
  | .posInf => .negInf

def add : F64 → F64 → F64
  | .nan, _ | _, .nan | .negInf, .posInf | .posInf, .negInf => .nan
  | .negInf, _ | _, .negInf => .negInf
  | .posInf, _ | _, .posInf => .posInf
  | .finite left, .finite right => .finite (left + right)

def subtract (left right : F64) : F64 := left.add right.negate

/-- An infinity with the sign of a rational, and no number for zero. -/
def infinityOfSign (sign : Rat) : F64 :=
  if 0 < sign then .posInf else if sign < 0 then .negInf else .nan

/-- The sign of a value as a rational. -/
def sign : F64 → Rat
  | .nan => 0
  | .negInf => -1
  | .finite value => if 0 < value then 1 else if value < 0 then -1 else 0
  | .posInf => 1

def multiply : F64 → F64 → F64
  | .finite left, .finite right => .finite (left * right)
  | left, right => infinityOfSign (left.sign * right.sign)

/-- Division. A zero divisor counts as positive. -/
def divide : F64 → F64 → F64
  | .finite left, .finite right =>
    if right = 0 then infinityOfSign left else .finite (left / right)
  | .finite _, .posInf | .finite _, .negInf => zero
  | .nan, _ | _, .nan => .nan
  | left, .finite right => infinityOfSign (left.sign * if right < 0 then -1 else 1)
  | _, _ => .nan

def maximum (left right : F64) : F64 :=
  if left.isNan then right
  else if right.isNan then left
  else if left.atMost right then right else left

theorem isFinite_maximum {left right : F64} (finite : left.isFinite = true)
    (finite' : right.isFinite = true) : (left.maximum right).isFinite = true := by
  unfold maximum
  split_ifs <;> assumption

/-- The nearest integer, halves away from zero. -/
def roundRat (value : Rat) : Int :=
  if value < 0 then -⌊-value + 1 / 2⌋ else ⌊value + 1 / 2⌋

/-- The rounded value as an unsigned 32-bit integer. It saturates; no number is zero. -/
def roundToU32 : F64 → UInt32
  | .nan | .negInf => 0
  | .posInf => UInt32.ofNat (2 ^ 32 - 1)
  | .finite value => UInt32.ofNat (min (roundRat value).toNat (2 ^ 32 - 1))

theorem roundRat_mono {smaller larger : Rat} (le : smaller ≤ larger) :
    roundRat smaller ≤ roundRat larger := by
  have nonnegative {value : Rat} (value_nonneg : 0 ≤ value) : 0 ≤ ⌊value + 1 / 2⌋ :=
    Int.floor_nonneg.mpr (by linarith)
  unfold roundRat
  split_ifs with negative negative' negative'
  · exact neg_le_neg (Int.floor_le_floor (by linarith))
  · exact (neg_nonpos.mpr (nonnegative (by linarith))).trans (nonnegative (not_lt.mp negative'))
  · exact absurd (le.trans_lt negative') negative
  · exact Int.floor_le_floor (by linarith)

theorem toNat_roundToU32 (value : Rat) :
    (finite value).roundToU32.toNat = min (roundRat value).toNat (2 ^ 32 - 1) :=
  UInt32.toNat_ofNat_of_lt' (lt_of_le_of_lt (min_le_right _ _) (by decide))

theorem roundToU32_mono {smaller larger : Rat} (le : smaller ≤ larger) :
    (finite smaller).roundToU32 ≤ (finite larger).roundToU32 := by
  rw [UInt32.le_iff_toNat_le, toNat_roundToU32, toNat_roundToU32]
  exact min_le_min_right _ (Int.toNat_le_toNat (roundRat_mono le))

/-- The larger of two finite values is the larger rational. -/
theorem maximum_finite (left right : Rat) :
    (finite left).maximum (finite right) = finite (max left right) := by
  unfold maximum
  by_cases le : left ≤ right
  · simp [isNan, atMost, le]
  · simp [isNan, atMost, le, max_eq_left (le_of_not_ge le)]

/-! ### Printing -/

/-- The nearest integer to a rational that is not negative, halves to the even side. -/
def roundHalfEven (value : Rat) : Nat :=
  let below := ⌊value⌋.toNat
  let rest := value - below
  if rest < 1 / 2 ∨ (rest = 1 / 2 ∧ below % 2 = 0) then below else below + 1

/-- A number of units in the last decimal, as a decimal fraction. -/
def decimalText (decimals units : Nat) : String :=
  let fraction := toString (units % 10 ^ decimals)
  toString (units / 10 ^ decimals) ++ "." ++
    String.ofList (List.replicate (decimals - fraction.length) '0') ++ fraction

/-- The text of a value with a fixed number of decimals. -/
def toFixed (decimals : Nat) : F64 → String
  | .nan => "NaN"
  | .negInf => "-inf"
  | .posInf => "inf"
  | .finite value =>
    (if value < 0 then "-" else "") ++
      decimalText decimals (roundHalfEven (|value| * 10 ^ decimals))

example : toFixed 4 (.finite (1 / 32)) = "0.0312" := by decide +kernel

end F64

end ChimpChaos.Library
