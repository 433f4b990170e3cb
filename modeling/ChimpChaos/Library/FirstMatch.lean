/-
This file says what a test of the first match in a list has to do with all matches.

A search that stops at the first match and then tests it looks at one match only. Whichever
match comes first in some order decides there, so the answer is the same in every order
exactly when all matches agree on the test, and then it is the answer of a search among all.
-/

import Mathlib.Data.List.Perm.Basic

namespace ChimpChaos.Library

section FirstMatch

variable {Item : Type} (isMatch passes : Item → Bool)

/-- There is a match, and the first one passes. -/
def FirstPasses (items : List Item) : Prop :=
  ∃ first, items.find? isMatch = some first ∧ passes first = true

/-- Some match passes. -/
def SomePasses (items : List Item) : Prop :=
  ∃ item ∈ items, isMatch item = true ∧ passes item = true

/-- The matches agree on whether they pass. -/
def MatchesAgree (items : List Item) : Prop :=
  ∀ first ∈ items, ∀ second ∈ items, isMatch first = true → isMatch second = true →
    passes first = true → passes second = true

variable {isMatch passes} {items other : List Item}

theorem somePasses_of_first (first : FirstPasses isMatch passes items) :
    SomePasses isMatch passes items := by
  obtain ⟨item, found, passed⟩ := first
  exact ⟨item, List.mem_of_find?_eq_some found, List.find?_some found, passed⟩

/-- Matches that agree are as good as the first one. -/
theorem MatchesAgree.firstPasses_iff (agree : MatchesAgree isMatch passes items) :
    FirstPasses isMatch passes items ↔ SomePasses isMatch passes items := by
  refine ⟨somePasses_of_first, ?_⟩
  rintro ⟨item, member, matched, passed⟩
  cases found : items.find? isMatch with
  | none => exact absurd matched (List.find?_eq_none.mp found item member)
  | some first =>
    exact ⟨first, found, agree item member first (List.mem_of_find?_eq_some found) matched
      (List.find?_some found) passed⟩

theorem somePasses_perm (perm : items.Perm other) :
    SomePasses isMatch passes items ↔ SomePasses isMatch passes other := by
  simp [SomePasses, perm.mem_iff]

theorem MatchesAgree.perm (agree : MatchesAgree isMatch passes items) (perm : items.Perm other) :
    MatchesAgree isMatch passes other := by
  intro first isFirst second isSecond
  exact agree first (perm.mem_iff.mpr isFirst) second (perm.mem_iff.mpr isSecond)

/-- Every match is the first one in some order. -/
theorem exists_perm_find? {item : Item} (member : item ∈ items) (matched : isMatch item = true) :
    ∃ other, items.Perm other ∧ other.find? isMatch = some item := by
  obtain ⟨front, back, rfl⟩ := List.append_of_mem member
  exact ⟨item :: (front ++ back), List.perm_middle, List.find?_cons_of_pos matched⟩

/-- The test of the first match has the same answer in every order if and only if all matches
agree. -/
theorem firstPasses_perm_iff : (∀ other, items.Perm other →
    (FirstPasses isMatch passes items ↔ FirstPasses isMatch passes other)) ↔
      MatchesAgree isMatch passes items := by
  constructor
  · intro orderFree first isFirst second isSecond firstMatched secondMatched passed
    obtain ⟨leading, permLeading, found⟩ := exists_perm_find? isFirst firstMatched
    obtain ⟨trailing, permTrailing, found'⟩ := exists_perm_find? isSecond secondMatched
    have here := (orderFree leading permLeading).mpr ⟨first, found, passed⟩
    obtain ⟨item, isItem, passes'⟩ := (orderFree trailing permTrailing).mp here
    obtain rfl := Option.some.inj (found'.symm.trans isItem)
    exact passes'
  · intro agree other perm
    rw [agree.firstPasses_iff, (agree.perm perm).firstPasses_iff, somePasses_perm perm]

end FirstMatch

end ChimpChaos.Library
