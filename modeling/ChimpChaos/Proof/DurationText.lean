/-
This file settles which texts the parser of durations accepts and what it makes of them.

The grammar is stated by itself: white space at the ends, a decimal number, at most one unit
letter. The parser accepts the texts of the grammar whose number fits 64 bits, and no others.
But it multiplies by the unit without looking whether the product fits, so a long time in
minutes or hours wraps around to a short one.
-/

import ChimpChaos.Operator.Analysis

namespace ChimpChaos

open Library

/-! ### The grammar -/

/-- What may follow the number, and how many seconds it counts. -/
inductive UnitText : List Char → Nat → Prop
  | none : UnitText [] 1
  | seconds : UnitText ['s'] 1
  | minutes : UnitText ['m'] 60
  | hours : UnitText ['h'] 3600

/-- There is no unit, or a letter that is no digit. -/
theorem UnitText.letter {unit : List Char} {factor : Nat} (unitText : UnitText unit factor) :
    unit = [] ∨ ∃ letter, unit = [letter] ∧ letter.isDigit = false := by
  cases unitText with
  | none => exact Or.inl rfl
  | seconds | minutes | hours => exact Or.inr ⟨_, rfl, by decide⟩

theorem UnitText.unique {unit : List Char} {factor factor' : Nat}
    (unitText : UnitText unit factor) (unitText' : UnitText unit factor') : factor = factor' := by
  cases unitText <;> cases unitText' <;> rfl

/-- A text without the white space at its ends is a decimal number and a unit of some seconds. -/
def Denotes (text : String) (number factor : Nat) : Prop :=
  ∃ front unit, trim text = front ++ unit ∧ IsDecimal front number ∧ UnitText unit factor

/-! ### The parser -/

section Parser

variable {text : String} {number factor : Nat} {seconds : UInt64}

/-- A text of the grammar whose number fits is accepted, and the product wraps around. -/
theorem parseDurationStr_of_denotes (denotes : Denotes text number factor)
    (fits : number < 2 ^ 64) :
    parseDurationStr text = some (UInt64.ofNat (number * factor)) := by
  obtain ⟨front, unit, trimmed, decimal, unitText⟩ := denotes
  have read : parseU64 front = some (UInt64.ofNat number) := by
    rw [parseU64_eq_some_iff, UInt64.toNat_ofNat_of_lt' fits]
    exact decimal
  have product (seconds : Nat) : UInt64.ofNat number * UInt64.ofNat seconds =
      UInt64.ofNat (number * seconds) := (UInt64.ofNat_mul number seconds).symm
  unfold parseDurationStr
  rw [trimmed]
  cases unitText with
  | none =>
    rw [List.append_nil]
    dsimp only
    rw [decimal.stripSuffix_eq_none (by decide), decimal.stripSuffix_eq_none (by decide),
      decimal.stripSuffix_eq_none (by decide), Nat.mul_one]
    exact read
  | seconds =>
    dsimp only
    rw [stripSuffix_eq_none (by decide), stripSuffix_eq_none (by decide),
      stripSuffix_eq_some_iff.mpr rfl, Nat.mul_one]
    exact read
  | minutes =>
    dsimp only
    rw [stripSuffix_eq_some_iff.mpr rfl]
    dsimp only
    rw [read, Option.map_some, ← product 60]
    rfl
  | hours =>
    dsimp only
    rw [stripSuffix_eq_none (by decide), stripSuffix_eq_some_iff.mpr rfl]
    dsimp only
    rw [read, Option.map_some, ← product 3600]
    rfl

/-- Only texts of the grammar whose number fits are accepted. -/
theorem denotes_of_parseDurationStr (parsed : parseDurationStr text = some seconds) :
    ∃ number factor, Denotes text number factor ∧ number < 2 ^ 64 ∧
      seconds = UInt64.ofNat (number * factor) := by
  have accepted {front unit : List Char} {number : UInt64} {factor : Nat}
      (trimmed : trim text = front ++ unit) (unitText : UnitText unit factor)
      (read : parseU64 front = some number) :
      ∃ value, Denotes text value factor ∧ value < 2 ^ 64 ∧ number.toNat = value :=
    ⟨number.toNat, ⟨front, unit, trimmed, parseU64_eq_some_iff.mp read, unitText⟩,
      number.toNat_lt_size, rfl⟩
  have product (number : UInt64) (factor : Nat) :
      number * UInt64.ofNat factor = UInt64.ofNat (number.toNat * factor) := by
    rw [UInt64.ofNat_mul, UInt64.ofNat_toNat]
  unfold parseDurationStr at parsed
  dsimp only at parsed
  cases minutes : stripSuffix 'm' (trim text) with
  | some front =>
    simp only [minutes, Option.map_eq_some_iff] at parsed
    obtain ⟨number, read, rfl⟩ := parsed
    obtain ⟨value, denotes, fits, rfl⟩ :=
      accepted (stripSuffix_eq_some_iff.mp minutes) .minutes read
    exact ⟨_, 60, denotes, fits, product number 60⟩
  | none =>
    simp only [minutes] at parsed
    cases hours : stripSuffix 'h' (trim text) with
    | some front =>
      simp only [hours, Option.map_eq_some_iff] at parsed
      obtain ⟨number, read, rfl⟩ := parsed
      obtain ⟨value, denotes, fits, rfl⟩ :=
        accepted (stripSuffix_eq_some_iff.mp hours) .hours read
      exact ⟨_, 3600, denotes, fits, product number 3600⟩
    | none =>
      simp only [hours] at parsed
      cases seconds' : stripSuffix 's' (trim text) with
      | some front =>
        simp only [seconds'] at parsed
        obtain ⟨value, denotes, fits, rfl⟩ :=
          accepted (stripSuffix_eq_some_iff.mp seconds') .seconds parsed
        exact ⟨_, 1, denotes, fits, by rw [Nat.mul_one, UInt64.ofNat_toNat]⟩
      | none =>
        simp only [seconds'] at parsed
        obtain ⟨value, denotes, fits, rfl⟩ :=
          accepted (List.append_nil _).symm .none parsed
        exact ⟨_, 1, denotes, fits, by rw [Nat.mul_one, UInt64.ofNat_toNat]⟩

/-- A text has one number and one unit. -/
theorem Denotes.unique {number' factor' : Nat} (denotes : Denotes text number factor)
    (denotes' : Denotes text number' factor') : number = number' ∧ factor = factor' := by
  obtain ⟨front, unit, trimmed, decimal, unitText⟩ := denotes
  obtain ⟨front', unit', trimmed', decimal', unitText'⟩ := denotes'
  have same := trimmed.symm.trans trimmed'
  have apart {front front' : List Char} {number : Nat} {letter : Char}
      (decimal : IsDecimal front number) (noDigit : letter.isDigit = false)
      (same : front = front' ++ [letter]) : False := by
    have stripped := stripSuffix_eq_some_iff.mpr same
    rw [decimal.stripSuffix_eq_none noDigit] at stripped
    cases stripped
  rcases unitText.letter with rfl | ⟨letter, rfl, noDigit⟩ <;>
    rcases unitText'.letter with rfl | ⟨letter', rfl, noDigit'⟩
  · rw [List.append_nil, List.append_nil] at same
    subst same
    exact ⟨decimal.unique decimal', unitText.unique unitText'⟩
  · exact (apart decimal noDigit' ((List.append_nil front).symm.trans same)).elim
  · exact (apart decimal' noDigit (same.trans (List.append_nil front')).symm).elim
  · obtain ⟨rfl, letters⟩ := List.append_inj' same rfl
    obtain rfl := (List.cons.inj letters).1
    exact ⟨decimal.unique decimal', unitText.unique unitText'⟩

end Parser

/-- A text is read as the product of its number and its unit when the product fits 64 bits, and is
refused otherwise. -/
def ReadExactly (text : String) : Prop :=
  ∀ seconds : UInt64, parseDurationStr text = some seconds ↔
    ∃ number factor, Denotes text number factor ∧ number * factor ≤ 2 ^ 64 - 1 ∧
      seconds.toNat = number * factor

/-- The parser is exact on a text if and only if the product fits 64 bits whenever the number
does. -/
theorem readExactly_iff (text : String) :
    ReadExactly text ↔ ∀ number factor, Denotes text number factor → number < 2 ^ 64 →
      number * factor < 2 ^ 64 := by
  constructor
  · intro exactly number factor denotes fits
    obtain ⟨number', factor', denotes', below, -⟩ :=
      (exactly _).mp (parseDurationStr_of_denotes denotes fits)
    obtain ⟨rfl, rfl⟩ := denotes.unique denotes'
    omega
  · intro products seconds
    constructor
    · intro parsed
      obtain ⟨number, factor, denotes, fits, rfl⟩ := denotes_of_parseDurationStr parsed
      have below := products number factor denotes fits
      exact ⟨number, factor, denotes, by omega, UInt64.toNat_ofNat_of_lt' below⟩
    · rintro ⟨number, factor, denotes, below, same⟩
      have positive : 0 < factor := by
        obtain ⟨_, _, -, -, unitText⟩ := denotes
        cases unitText <;> decide
      have fits : number < 2 ^ 64 :=
        lt_of_le_of_lt (Nat.le_mul_of_pos_right number positive) (by omega)
      rw [parseDurationStr_of_denotes denotes fits, ← same, UInt64.ofNat_toNat]

/-- A long time in minutes is read as 44 seconds. -/
theorem minutes_wrapAround : ¬ ∀ text, ReadExactly text := by
  intro claim
  have read : parseDurationStr "307445734561825861m" = some 44 := by decide +kernel
  obtain ⟨number, factor, denotes, -, same⟩ := (claim _ 44).mp read
  have decimal : IsDecimal "307445734561825861".toList 307445734561825861 :=
    ⟨_, Or.inl rfl, by decide, List.all_eq_true.mp (by decide), by decide⟩
  obtain ⟨rfl, rfl⟩ := denotes.unique ⟨_, ['m'], by decide +kernel, decimal, .minutes⟩
  exact absurd same (by decide)

end ChimpChaos
