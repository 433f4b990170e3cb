/-
This file is about DNS subdomain names and about cutting them.

A name is dot-separated parts, each not empty, of lowercase alphanumerics and hyphens, with an
alphanumeric at both ends. The same is said without the parts: such characters and dots, an
alphanumeric at both ends, and alphanumerics around every dot. In this form a name can be cut and
put behind another text, and only the last character left has to be looked at.
-/

import Mathlib.Data.List.Chain

namespace ChimpChaos.Library

/-- A lowercase letter or a digit. -/
def isLowerAlnum (char : Char) : Bool := char.isLower || char.isDigit

/-- One part of a name. -/
structure IsDnsLabel (part : List Char) : Prop where
  chars : ∀ char ∈ part, isLowerAlnum char = true ∨ char = '-'
  first : ∃ char ∈ part.head?, isLowerAlnum char = true
  last : ∃ char ∈ part.getLast?, isLowerAlnum char = true

/-- Every dot-separated part of the text is a part of a name. -/
def IsDnsSubdomain (text : List Char) : Prop := ∀ part ∈ text.splitOn '.', IsDnsLabel part

theorem all_isLowerAlnum_iff {text : List Char} :
    (text.all fun char => isLowerAlnum char || char == '-') = true ↔
      ∀ char ∈ text, isLowerAlnum char = true ∨ char = '-' := by
  simp

instance (part : List Char) : Decidable (IsDnsLabel part) :=
  decidable_of_iff ((part.all fun char => isLowerAlnum char || char == '-') = true ∧
      part.head?.any isLowerAlnum = true ∧ part.getLast?.any isLowerAlnum = true) <| by
    rw [all_isLowerAlnum_iff, Option.any_eq_true, Option.any_eq_true]
    exact ⟨fun ⟨chars, first, last⟩ => ⟨chars, first, last⟩,
      fun ⟨chars, first, last⟩ => ⟨chars, first, last⟩⟩

instance (text : List Char) : Decidable (IsDnsSubdomain text) :=
  inferInstanceAs (Decidable (∀ part ∈ text.splitOn '.', IsDnsLabel part))

example : IsDnsSubdomain "node-1.eu".toList := by decide +kernel

/-- Next to a dot there is an alphanumeric. -/
def DotBetween (left right : Char) : Prop :=
  (left = '.' → isLowerAlnum right = true) ∧ (right = '.' → isLowerAlnum left = true)

/-- A name, said without its parts. -/
structure WellDotted (text : List Char) : Prop where
  chars : ∀ char ∈ text, isLowerAlnum char = true ∨ char = '-' ∨ char = '.'
  first : ∃ char ∈ text.head?, isLowerAlnum char = true
  last : ∃ char ∈ text.getLast?, isLowerAlnum char = true
  dots : text.IsChain DotBetween

variable {text front rest : List Char}

theorem not_isLowerAlnum_dot : ¬ isLowerAlnum '.' = true := by decide

/-- Where there is no dot there is nothing to be around it. -/
theorem isChain_of_dotless (dotless : '.' ∉ text) : text.IsChain DotBetween := by
  refine List.Pairwise.isChain
    (List.pairwise_of_forall_mem_list fun left inLeft right inRight => ?_)
  exact ⟨fun dot => absurd (dot ▸ inLeft) dotless, fun dot => absurd (dot ▸ inRight) dotless⟩

theorem wellDotted_iff_of_dotless (dotless : '.' ∉ text) : WellDotted text ↔ IsDnsLabel text := by
  constructor
  · intro dotted
    refine ⟨fun char member => ?_, dotted.first, dotted.last⟩
    rcases dotted.chars char member with alnum | hyphen | dot
    · exact Or.inl alnum
    · exact Or.inr hyphen
    · exact absurd (dot ▸ member) dotless
  · intro label
    exact ⟨fun char member => (label.chars char member).imp_right Or.inl, label.first, label.last,
      isChain_of_dotless dotless⟩

theorem getLast?_append_dot (front rest : List Char) :
    (front ++ '.' :: rest).getLast? = rest.getLast?.or (some '.') := by
  rw [List.getLast?_append, List.getLast?_cons]
  cases rest.getLast? <;> rfl

/-- A name up to a dot, and the rest of it. -/
theorem wellDotted_dot_iff (dotless : '.' ∉ front) :
    WellDotted (front ++ '.' :: rest) ↔ IsDnsLabel front ∧ WellDotted rest := by
  have dotAlone : ¬ ∃ char ∈ some '.', isLowerAlnum char = true := by
    rintro ⟨_, ⟨rfl⟩, alnum⟩
    exact not_isLowerAlnum_dot alnum
  constructor
  · rintro ⟨chars, first, last, dots⟩
    obtain ⟨-, dotRest, junction⟩ := List.isChain_append.mp dots
    obtain ⟨restFirst, restDots⟩ := List.isChain_cons.mp dotRest
    rw [getLast?_append_dot] at last
    constructor
    · cases front with
      | nil => exact absurd first dotAlone
      | cons head tail =>
        refine ⟨fun char member => ?_, first, ?_⟩
        · rcases chars char (List.mem_append_left _ member) with alnum | hyphen | dot
          · exact Or.inl alnum
          · exact Or.inr hyphen
          · exact absurd (dot ▸ member) dotless
        · obtain ⟨final, isFinal⟩ : ∃ final, (head :: tail).getLast? = some final :=
            ⟨_, List.getLast?_cons⟩
          exact ⟨final, isFinal, (junction final isFinal '.' rfl).2 rfl⟩
    · cases rest with
      | nil => exact absurd last dotAlone
      | cons head tail =>
        refine ⟨fun char member => chars char ?_, ⟨head, rfl, (restFirst head rfl).1 rfl⟩, ?_,
          restDots⟩
        · exact List.mem_append_right _ (List.mem_cons_of_mem _ member)
        · rw [List.getLast?_cons] at last ⊢
          exact last
  · rintro ⟨label, dotted⟩
    refine ⟨fun char member => ?_, ?_, ?_, ?_⟩
    · rcases List.mem_append.mp member with inFront | inRest
      · exact (label.chars char inFront).imp_right Or.inl
      · rcases List.mem_cons.mp inRest with rfl | inRest
        · exact Or.inr (Or.inr rfl)
        · exact dotted.chars char inRest
    · obtain ⟨first, isFirst, alnum⟩ := label.first
      exact ⟨first, by rw [List.head?_append, isFirst]; rfl, alnum⟩
    · obtain ⟨last, isLast, alnum⟩ := dotted.last
      exact ⟨last, by rw [getLast?_append_dot, isLast]; rfl, alnum⟩
    · refine List.isChain_append.mpr ⟨isChain_of_dotless dotless, ?_, ?_⟩
      · refine List.isChain_cons.mpr ⟨fun head isHead => ?_, dotted.dots⟩
        obtain ⟨first, isFirst, alnum⟩ := dotted.first
        rw [isHead] at isFirst
        obtain rfl := Option.some.inj isFirst
        exact ⟨fun _ => alnum, fun dot => absurd (dot ▸ alnum) not_isLowerAlnum_dot⟩
      · rintro final isFinal _ ⟨rfl⟩
        obtain ⟨last, isLast, alnum⟩ := label.last
        rw [isFinal] at isLast
        obtain rfl := Option.some.inj isLast
        exact ⟨fun dot => absurd (dot ▸ alnum) not_isLowerAlnum_dot, fun _ => alnum⟩

/-- The two ways to say what a name is agree. -/
theorem isDnsSubdomain_iff : IsDnsSubdomain text ↔ WellDotted text := by
  -- by the length of the text, as what follows a dot is a shorter one
  induction length : text.length using Nat.strong_induction_on generalizing text with
  | _ _ inductionHypothesis =>
    subst length
    by_cases dot : '.' ∈ text
    · obtain ⟨front, rest, rfl, dotless⟩ := List.eq_append_cons_of_mem dot
      have shorter : rest.length < (front ++ '.' :: rest).length := by
        rw [List.length_append, List.length_cons]
        omega
      rw [wellDotted_dot_iff dotless, ← inductionHypothesis _ shorter rfl, IsDnsSubdomain,
        List.splitOn_append_cons_self_of_not_mem dotless, List.forall_mem_cons, IsDnsSubdomain]
    · rw [wellDotted_iff_of_dotless dot, IsDnsSubdomain, List.splitOn_eq_singleton dot,
        List.forall_mem_singleton]

/-! ### Cutting names -/

/-- A name that is cut is a name if and only if its last character is an alphanumeric. -/
theorem WellDotted.take_iff (dotted : WellDotted text) {count : Nat} (positive : 0 < count) :
    WellDotted (text.take count) ↔
      ∃ char ∈ (text.take count).getLast?, isLowerAlnum char = true := by
  constructor
  · intro cut
    exact cut.last
  · intro last
    refine ⟨fun char member => dotted.chars char (List.mem_of_mem_take member), ?_, last,
      dotted.dots.take count⟩
    rw [List.head?_take, if_neg positive.ne']
    exact dotted.first

/-- A text without dots that begins with an alphanumeric, put before a text that begins with one,
makes a name if and only if the second text is one. -/
theorem wellDotted_append_iff (chars : ∀ char ∈ front, isLowerAlnum char = true ∨ char = '-')
    (first : ∃ char ∈ front.head?, isLowerAlnum char = true)
    (restFirst : ∃ char ∈ rest.head?, isLowerAlnum char = true) :
    WellDotted (front ++ rest) ↔ WellDotted rest := by
  have dotless : '.' ∉ front := fun member => by
    rcases chars '.' member with alnum | hyphen
    · exact not_isLowerAlnum_dot alnum
    · exact absurd hyphen (by decide)
  obtain ⟨start, isStart, startAlnum⟩ := restFirst
  have present : rest ≠ [] := by
    rintro rfl
    cases isStart
  have final : (front ++ rest).getLast? = rest.getLast? :=
    List.getLast?_append_of_ne_nil _ present
  constructor
  · rintro ⟨allChars, -, last, dots⟩
    rw [final] at last
    exact ⟨fun char member => allChars char (List.mem_append_right _ member),
      ⟨start, isStart, startAlnum⟩, last, (List.isChain_append.mp dots).2.1⟩
  · rintro dotted
    refine ⟨fun char member => ?_, ?_, ?_, ?_⟩
    · rcases List.mem_append.mp member with inFront | inRest
      · exact (chars char inFront).imp_right Or.inl
      · exact dotted.chars char inRest
    · obtain ⟨head, isHead, alnum⟩ := first
      exact ⟨head, by rw [List.head?_append, isHead]; rfl, alnum⟩
    · rw [final]
      exact dotted.last
    · refine List.isChain_append.mpr ⟨isChain_of_dotless dotless, dotted.dots, ?_⟩
      intro left isLeft right isRight
      rw [isStart] at isRight
      obtain rfl := Option.some.inj isRight
      exact ⟨fun dot => absurd (dot ▸ List.mem_of_getLast? isLeft) dotless,
        fun dot => absurd (dot ▸ startAlnum) not_isLowerAlnum_dot⟩

end ChimpChaos.Library
