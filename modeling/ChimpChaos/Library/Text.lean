/-
This file holds the two text functions of the standard library that the operator parses
settings with: cutting white space off the ends, and reading an unsigned integer.

The decimal text of a number that fits is read back as this number. Texts that open differently
are different, however they go on.
-/

import Mathlib.Data.List.Basic

namespace ChimpChaos.Library

/-- The white space characters of Unicode. -/
def isWhitespace (char : Char) : Bool :=
  let code := char.toNat
  (9 ≤ code && code ≤ 13) || code == 0x20 || code == 0x85 || code == 0xA0 || code == 0x1680 ||
    (0x2000 ≤ code && code ≤ 0x200A) || code == 0x2028 || code == 0x2029 || code == 0x202F ||
    code == 0x205F || code == 0x3000

/-- A text without the white space at its ends, as its characters. -/
def trim (text : String) : List Char :=
  ((text.toList.dropWhile isWhitespace).reverse.dropWhile isWhitespace).reverse

/-- The text before a suffix of one character. -/
def stripSuffix (suffix : Char) (text : List Char) : Option (List Char) :=
  if text.getLast? = some suffix then some text.dropLast else none

/-- The value of decimal digits, one after the other, when it stays below a bound. -/
def parseDigits (bound : Nat) : List Char → Nat → Option Nat
  | [], value => some value
  | digit :: rest, value =>
    if '0' ≤ digit ∧ digit ≤ '9' then
      let next := 10 * value + (digit.toNat - '0'.toNat)
      if next < bound then parseDigits bound rest next else none
    else none

/-- Parse an unsigned 64-bit integer: digits, after a plus sign or none. -/
def parseU64 (text : List Char) : Option UInt64 :=
  let digits := if text.head? = some '+' then text.tail else text
  if digits = [] then none else (parseDigits UInt64.size digits 0).map UInt64.ofNat

/-- Parse an unsigned 16-bit integer: digits, after a plus sign or none. -/
def parseU16 (text : List Char) : Option UInt16 :=
  let digits := if text.head? = some '+' then text.tail else text
  if digits = [] then none else (parseDigits UInt16.size digits 0).map UInt16.ofNat

/-! ### What the parsers accept -/

theorem stripSuffix_eq_some_iff {suffix : Char} {text front : List Char} :
    stripSuffix suffix text = some front ↔ text = front ++ [suffix] := by
  unfold stripSuffix
  constructor
  · intro stripped
    split_ifs at stripped with last
    obtain rfl := Option.some.inj stripped
    exact (List.dropLast_append_getLast? suffix last).symm
  · rintro rfl
    rw [if_pos List.getLast?_concat, List.dropLast_concat]

theorem stripSuffix_eq_none {suffix last : Char} {front : List Char} (other : last ≠ suffix) :
    stripSuffix suffix (front ++ [last]) = none := by
  rw [stripSuffix, List.getLast?_concat, if_neg fun same => other (Option.some.inj same)]

/-- A text that is a decimal number: digits, after a plus sign or none. -/
def IsDecimal (text : List Char) (number : Nat) : Prop :=
  ∃ digits, (text = digits ∨ text = '+' :: digits) ∧ digits ≠ [] ∧
    (∀ digit ∈ digits, digit.isDigit = true) ∧ number = Nat.ofDigitChars 10 digits 0

theorem isDigit_iff (char : Char) : char.isDigit = true ↔ '0' ≤ char ∧ char ≤ '9' := by
  rw [Char.isDigit, Bool.and_eq_true, decide_eq_true_eq, decide_eq_true_eq]
  rfl

theorem le_ofDigitChars (digits : List Char) (value : Nat) :
    value ≤ Nat.ofDigitChars 10 digits value := by
  induction digits generalizing value with
  | nil => exact Nat.le_of_eq Nat.ofDigitChars_nil.symm
  | cons digit rest inductionHypothesis =>
    rw [Nat.ofDigitChars_cons]
    exact Nat.le_trans (by omega) (inductionHypothesis _)

/-- Digits are read when all of them are digits and their value is below the bound. The values
on the way are below it then, too. -/
theorem parseDigits_eq_some_iff {bound number : Nat} {digits : List Char} {value : Nat}
    (start : value < bound) :
    parseDigits bound digits value = some number ↔ (∀ digit ∈ digits, digit.isDigit = true) ∧
      number = Nat.ofDigitChars 10 digits value ∧ number < bound := by
  induction digits generalizing value with
  | nil =>
    rw [parseDigits, Nat.ofDigitChars_nil, Option.some.injEq]
    constructor
    · rintro rfl
      exact ⟨fun _ member => absurd member List.not_mem_nil, rfl, start⟩
    · rintro ⟨-, rfl, -⟩
      rfl
  | cons digit rest inductionHypothesis =>
    rw [parseDigits, Nat.ofDigitChars_cons, List.forall_mem_cons, isDigit_iff]
    by_cases isDigit : '0' ≤ digit ∧ digit ≤ '9'
    · rw [if_pos isDigit]
      dsimp only
      by_cases fits : 10 * value + (digit.toNat - '0'.toNat) < bound
      · rw [if_pos fits, inductionHypothesis fits]
        simp only [isDigit, and_self, true_and]
      · rw [if_neg fits]
        constructor
        · intro read
          cases read
        · rintro ⟨-, same, below⟩
          have grows := le_ofDigitChars rest (10 * value + (digit.toNat - '0'.toNat))
          omega
    · rw [if_neg isDigit]
      constructor
      · intro read
        cases read
      · rintro ⟨⟨isDigit', -⟩, -⟩
        exact absurd isDigit' isDigit

/-- The parser of unsigned 64-bit integers reads the decimal numbers that fit. -/
theorem parseU64_eq_some_iff {text : List Char} {number : UInt64} :
    parseU64 text = some number ↔ IsDecimal text number.toNat := by
  have read (digits : List Char) :
      (parseDigits UInt64.size digits 0).map UInt64.ofNat = some number ↔
        (∀ digit ∈ digits, digit.isDigit = true) ∧
          number.toNat = Nat.ofDigitChars 10 digits 0 := by
    rw [Option.map_eq_some_iff]
    constructor
    · rintro ⟨value, parsed, rfl⟩
      obtain ⟨all, same, below⟩ := (parseDigits_eq_some_iff (by decide)).mp parsed
      exact ⟨all, by rw [UInt64.toNat_ofNat_of_lt' below, same]⟩
    · rintro ⟨all, same⟩
      exact ⟨number.toNat, (parseDigits_eq_some_iff (by decide)).mpr
        ⟨all, same, number.toNat_lt_size⟩, UInt64.ofNat_toNat⟩
  unfold parseU64
  dsimp only
  constructor
  · intro parsed
    by_cases signed : text.head? = some '+'
    · obtain ⟨rest, rfl⟩ := List.head?_eq_some_iff.mp signed
      rw [if_pos signed, List.tail_cons] at parsed
      split_ifs at parsed with empty
      obtain ⟨all, same⟩ := (read rest).mp parsed
      exact ⟨rest, Or.inr rfl, empty, all, same⟩
    · rw [if_neg signed] at parsed
      split_ifs at parsed with empty
      obtain ⟨all, same⟩ := (read text).mp parsed
      exact ⟨text, Or.inl rfl, empty, all, same⟩
  · rintro ⟨digits, rfl | rfl, present, all, same⟩
    · have unsigned : text.head? ≠ some '+' := by
        intro signed
        exact absurd (all '+' (List.mem_of_head? signed)) (by decide)
      rw [if_neg unsigned, if_neg present]
      exact (read text).mpr ⟨all, same⟩
    · rw [if_pos List.head?_cons, List.tail_cons, if_neg present]
      exact (read digits).mpr ⟨all, same⟩

/-- The last character of a decimal number is a digit. -/
theorem IsDecimal.last {text : List Char} {number : Nat} (decimal : IsDecimal text number) :
    ∃ front digit, text = front ++ [digit] ∧ digit.isDigit = true := by
  obtain ⟨digits, same, present, all, -⟩ := decimal
  have last := all _ (List.getLast_mem present)
  have front := (List.dropLast_append_getLast present).symm
  rcases same with rfl | rfl
  · exact ⟨_, _, front, last⟩
  · exact ⟨'+' :: digits.dropLast, _, congrArg ('+' :: ·) front, last⟩

theorem IsDecimal.unique {text : List Char} {number other : Nat} (decimal : IsDecimal text number)
    (decimal' : IsDecimal text other) : number = other := by
  obtain ⟨digits, same, present, all, rfl⟩ := decimal
  obtain ⟨digits', same', present', all', rfl⟩ := decimal'
  have unsigned {digits rest : List Char} (all : ∀ digit ∈ digits, digit.isDigit = true)
      (signed : digits = '+' :: rest) : False := by
    subst signed
    exact absurd (all '+' List.mem_cons_self) (by decide)
  rcases same with rfl | rfl <;> rcases same' with same' | same'
  · rw [same']
  · exact (unsigned all same').elim
  · exact (unsigned all' same'.symm).elim
  · rw [(List.cons.inj same').2]

/-- A decimal number does not end with a unit letter. -/
theorem IsDecimal.stripSuffix_eq_none {text : List Char} {number : Nat}
    (decimal : IsDecimal text number) {letter : Char} (noDigit : letter.isDigit = false) :
    stripSuffix letter text = none := by
  obtain ⟨front, digit, rfl, isDigit⟩ := decimal.last
  refine Library.stripSuffix_eq_none ?_
  rintro rfl
  exact absurd (isDigit.symm.trans noDigit) (by decide)

/-! ### Decimal texts -/

theorem parseDigits_append (bound : Nat) (first second : List Char) (value : Nat) :
    parseDigits bound (first ++ second) value =
      (parseDigits bound first value).bind (parseDigits bound second) := by
  induction first generalizing value with
  | nil => rfl
  | cons digit rest inductionHypothesis =>
    rw [List.cons_append, parseDigits, parseDigits]
    split_ifs with isDigit
    · dsimp only
      split_ifs with fits
      · exact inductionHypothesis _
      · rfl
    · rfl

/-- The character of a digit stands for the digit. -/
theorem digitChar_range {digit : Nat} (small : digit < 10) :
    '0' ≤ digit.digitChar ∧ digit.digitChar ≤ '9' ∧
      digit.digitChar.toNat - '0'.toNat = digit := by
  have all : ∀ digit : Fin 10, '0' ≤ digit.val.digitChar ∧ digit.val.digitChar ≤ '9' ∧
      digit.val.digitChar.toNat - '0'.toNat = digit.val := by decide
  exact all ⟨digit, small⟩

theorem parseDigits_digitChar {bound value digit : Nat} (small : digit < 10)
    (fits : 10 * value + digit < bound) :
    parseDigits bound [digit.digitChar] value = some (10 * value + digit) := by
  obtain ⟨low, high, same⟩ := digitChar_range small
  rw [parseDigits, if_pos ⟨low, high⟩, same]
  dsimp only
  rw [if_pos fits, parseDigits]

/-- The digits of a number below the bound are read back, the last one last. -/
theorem parseDigits_toDigits {bound number : Nat} (fits : number < bound) :
    parseDigits bound (Nat.toDigits 10 number) 0 = some number := by
  induction number using Nat.strongRecOn with
  | ind number inductionHypothesis =>
    rw [Nat.toDigits_eq_if (by decide)]
    split_ifs with small
    · rw [parseDigits_digitChar small (by omega), Nat.mul_zero, Nat.zero_add]
    · have front := inductionHypothesis (number / 10) (by omega) (by omega)
      rw [parseDigits_append, front, Option.bind_some,
        parseDigits_digitChar (Nat.mod_lt _ (by decide)) (by omega), Nat.div_add_mod]

/-- A decimal text has no sign in front. -/
theorem head?_toDigits_ne_plus (number : Nat) : (Nat.toDigits 10 number).head? ≠ some '+' := by
  intro signed
  have member : '+' ∈ Nat.toDigits 10 number := List.mem_of_head? signed
  have isDigit := Nat.isDigit_of_mem_toDigits (by decide) (by decide) member
  exact absurd isDigit (by decide)

/-- The decimal text of an unsigned 64-bit integer is read back as this integer. -/
theorem parseU64_toString (number : UInt64) : parseU64 (toString number).toList = some number := by
  have digits : (toString number).toList = Nat.toDigits 10 number.toNat := Nat.toList_repr
  have read : parseDigits UInt64.size (Nat.toDigits 10 number.toNat) 0 = some number.toNat :=
    parseDigits_toDigits number.toNat_lt_size
  rw [digits, parseU64]
  simp only [if_neg (head?_toDigits_ne_plus number.toNat), if_neg Nat.toDigits_ne_nil, read,
    Option.map_some, UInt64.ofNat_toNat]

/-! ### Texts that open differently -/

/-- Do two texts differ at a place that both have? -/
def clash : List Char → List Char → Bool
  | first :: rest, second :: others => first != second || clash rest others
  | _, _ => false

theorem append_ne_of_clash_list {first second : List Char} (clashes : clash first second = true)
    (rest others : List Char) : first ++ rest ≠ second ++ others := by
  induction first generalizing second with
  | nil => cases clashes
  | cons char first inductionHypothesis =>
    cases second with
    | nil => cases clashes
    | cons other second =>
      intro same
      obtain ⟨rfl, sameRest⟩ := List.cons.inj same
      rw [clash, bne_self_eq_false, Bool.false_or] at clashes
      exact inductionHypothesis clashes sameRest

theorem append_ne_of_clash {first second : String}
    (clashes : clash first.toList second.toList = true) (rest others : String) :
    first ++ rest ≠ second ++ others := by
  intro same
  have characters := congrArg String.toList same
  rw [String.toList_append, String.toList_append] at characters
  exact append_ne_of_clash_list clashes _ _ characters

theorem ne_append_of_clash (text : String) {second : String}
    (clashes : clash text.toList second.toList = true) (others : String) :
    text ≠ second ++ others := by
  intro same
  refine append_ne_of_clash clashes "" others ?_
  rw [String.append_empty]
  exact same

end ChimpChaos.Library
