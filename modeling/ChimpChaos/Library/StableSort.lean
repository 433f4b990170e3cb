/-
This file is about sorting more than once.

A stable sort keeps the order of the elements that it does not tell apart. So sorting by one order
what is sorted by another sorts by both, the last one first. An order that tells all elements
apart makes the result depend on the elements alone, not on where they were.
-/

import Mathlib.Data.List.Nodup
import Mathlib.Data.List.Pairwise

namespace ChimpChaos.Library

variable {Element : Type} {le : Element → Element → Bool} {list : List Element}
  {first second : Element}

/-- Of two elements of a list one comes before the other. -/
theorem pair_sublist_or (member : first ∈ list) (member' : second ∈ list)
    (distinct : first ≠ second) :
    [first, second].Sublist list ∨ [second, first].Sublist list := by
  let Comes (earlier later : Element) : Prop :=
    [earlier, later].Sublist list ∨ [later, earlier].Sublist list
  have symmetric : Std.Symm Comes := ⟨fun _ _ => Or.symm⟩
  have pairs : list.Pairwise Comes := List.pairwise_iff_forall_sublist.mpr Or.inl
  exact pairs.forall member member' distinct

/-- In a list without repetitions only one of them does. -/
theorem pair_sublist_asymm (nodup : list.Nodup) (pair : [first, second].Sublist list)
    (pair' : [second, first].Sublist list) : False := by
  induction list with
  | nil => cases pair
  | cons head tail inductionHypothesis =>
    obtain ⟨fresh, nodup⟩ := List.nodup_cons.mp nodup
    rcases List.sublist_cons_iff.mp pair with inTail | ⟨_, same, rest⟩
    · rcases List.sublist_cons_iff.mp pair' with inTail' | ⟨_, same, rest⟩
      · exact inductionHypothesis nodup inTail inTail'
      · obtain ⟨rfl, rfl⟩ := List.cons.inj same
        exact fresh (inTail.subset (List.mem_cons_of_mem _ List.mem_cons_self))
    · obtain ⟨rfl, rfl⟩ := List.cons.inj same
      rcases List.sublist_cons_iff.mp pair' with inTail' | ⟨_, same, rest'⟩
      · exact fresh (inTail'.subset (List.mem_cons_of_mem _ List.mem_cons_self))
      · obtain ⟨rfl, rfl⟩ := List.cons.inj same
        exact fresh (rest.subset List.mem_cons_self)

/-- What the last order does not tell apart stays in order by the earlier one. -/
theorem pairwise_mergeSort_stable {before : Element → Element → Prop}
    (trans : ∀ first second third, le first second = true → le second third = true →
      le first third = true)
    (total : ∀ first second, (le first second || le second first) = true) (nodup : list.Nodup)
    (sorted : list.Pairwise before) :
    (list.mergeSort le).Pairwise fun first second =>
      le first second = true ∧ (le second first = true → before first second) := by
  have nodup' : (list.mergeSort le).Nodup := (List.mergeSort_perm list le).nodup_iff.mpr nodup
  refine List.pairwise_iff_forall_sublist.mpr fun {first second} pair => ⟨?_, fun tied => ?_⟩
  · exact List.pairwise_iff_forall_sublist.mp (List.pairwise_mergeSort trans total list) pair
  · have member {element : Element} (within : element ∈ [first, second]) : element ∈ list :=
      (List.mergeSort_perm list le).subset (pair.subset within)
    have distinct : first ≠ second := by
      rintro rfl
      exact pair_sublist_asymm nodup' pair pair
    rcases pair_sublist_or (member List.mem_cons_self)
      (member (List.mem_cons_of_mem _ List.mem_cons_self)) distinct with kept | swapped
    · exact List.pairwise_iff_forall_sublist.mp sorted kept
    · have swapped' := List.pair_sublist_mergeSort trans total tied swapped
      exact (pair_sublist_asymm nodup' pair swapped').elim

/-- Sorting by an order that tells all elements apart forgets where they were. -/
theorem mergeSort_eq_of_perm {other : List Element}
    (trans : ∀ first second third, le first second = true → le second third = true →
      le first third = true)
    (total : ∀ first second, (le first second || le second first) = true)
    (antisymm : ∀ first second, le first second = true → le second first = true → first = second)
    (perm : list.Perm other) : list.mergeSort le = other.mergeSort le := by
  have perm' : (list.mergeSort le).Perm (other.mergeSort le) :=
    (List.mergeSort_perm list le).trans (perm.trans (List.mergeSort_perm other le).symm)
  exact perm'.eq_of_pairwise (fun first second _ _ => antisymm first second)
    (List.pairwise_mergeSort trans total list) (List.pairwise_mergeSort trans total other)

end ChimpChaos.Library
