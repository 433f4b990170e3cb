/-
This file is a keyed object store: a finite map whose keys are unique by construction.

Creating under a taken key changes nothing, so creations commute with being repeated. The
file states what each operation does to a lookup, and that replaying a list of creations
after any part of it has already been done ends where doing it once ends.
-/

import Mathlib.Data.List.AList

namespace ChimpChaos.Library

/-- A finite map from keys to values. -/
abbrev Store (Key Value : Type) : Type := AList fun _ : Key => Value

namespace Store

variable {Key Value : Type} [DecidableEq Key]

/-- The entries of a store. -/
def listing (store : Store Key Value) : List (Key × Value) :=
  store.entries.map fun entry => (entry.1, entry.2)

/-- Create an entry. A key that is taken keeps its value. -/
def create (store : Store Key Value) (key : Key) (value : Value) : Store Key Value :=
  if (store.lookup key).isSome then store else store.insert key value

/-- Change the value under a key, when there is one. -/
def update (store : Store Key Value) (key : Key) (change : Value → Value) : Store Key Value :=
  match store.lookup key with
  | none => store
  | some value => store.insert key (change value)

/-- Create a list of entries, one after the other. -/
def createAll (store : Store Key Value) (entries : List (Key × Value)) : Store Key Value :=
  entries.foldl (fun store entry => store.create entry.1 entry.2) store

theorem mem_listing (store : Store Key Value) (key : Key) (value : Value) :
    (key, value) ∈ store.listing ↔ store.lookup key = some value := by
  rw [← Option.mem_def, AList.mem_lookup_iff, listing, List.mem_map]
  constructor
  · rintro ⟨⟨other, content⟩, member, same⟩
    obtain ⟨rfl, rfl⟩ := Prod.mk.inj same
    exact member
  · intro member
    exact ⟨⟨key, value⟩, member, rfl⟩

omit [DecidableEq Key] in
/-- No entry is listed twice. -/
theorem nodup_listing (store : Store Key Value) : store.listing.Nodup := by
  refine List.Nodup.map ?_ store.nodupKeys.nodup
  rintro ⟨key₁, value₁⟩ ⟨key₂, value₂⟩ same
  obtain ⟨rfl, rfl⟩ := Prod.mk.inj same
  rfl

theorem lookup_create (store : Store Key Value) (key other : Key) (value : Value) :
    (store.create key value).lookup other =
      if other = key then some ((store.lookup key).getD value) else store.lookup other := by
  unfold create
  split_ifs with taken same same
  · obtain ⟨held, found⟩ := Option.isSome_iff_exists.mp taken
    rw [same, found, Option.getD_some]
  · rfl
  · rw [same, AList.lookup_insert, Option.not_isSome_iff_eq_none.mp taken, Option.getD_none]
  · rw [AList.lookup_insert_ne same]

theorem lookup_update (store : Store Key Value) (key other : Key) (change : Value → Value) :
    (store.update key change).lookup other =
      if other = key then (store.lookup key).map change else store.lookup other := by
  unfold update
  split
  · rename_i absent
    split_ifs with same
    · rw [same, absent, Option.map_none]
    · rfl
  · rename_i value found
    split_ifs with same
    · rw [same, AList.lookup_insert, found, Option.map_some]
    · rw [AList.lookup_insert_ne same]

theorem lookup_erase_ite (store : Store Key Value) (key other : Key) :
    AList.lookup other (AList.erase key store) =
      if other = key then none else store.lookup other := by
  split_ifs with same
  · rw [same, AList.lookup_erase]
  · rw [AList.lookup_erase_ne same]

theorem update_of_absent {store : Store Key Value} {key : Key} (absent : store.lookup key = none)
    (change : Value → Value) : store.update key change = store := by
  rw [update, absent]

theorem erase_of_absent {store : Store Key Value} {key : Key} (absent : store.lookup key = none) :
    AList.erase key store = store :=
  AList.ext (List.kerase_of_notMem_keys (AList.lookup_eq_none.mp absent))

theorem isSome_lookup_create (store : Store Key Value) (key : Key) (value : Value) :
    ((store.create key value).lookup key).isSome = true := by
  rw [lookup_create, if_pos rfl]
  rfl

@[simp] theorem createAll_nil (store : Store Key Value) : store.createAll [] = store := rfl

@[simp] theorem createAll_cons (store : Store Key Value) (entry : Key × Value)
    (rest : List (Key × Value)) :
    store.createAll (entry :: rest) = (store.create entry.1 entry.2).createAll rest := rfl

/-- After a list of creations a key holds what it held before, or else the first value the
list has for it. -/
theorem lookup_createAll (store : Store Key Value) (entries : List (Key × Value)) (key : Key) :
    (store.createAll entries).lookup key = (store.lookup key).or (entries.lookup key) := by
  induction entries generalizing store with
  | nil => simp
  | cons entry rest inductionHypothesis =>
    obtain ⟨name, value⟩ := entry
    rw [createAll_cons, inductionHypothesis, lookup_create, List.lookup_cons]
    by_cases same : key = name
    · rw [if_pos same, same, beq_self_eq_true]
      cases store.lookup name <;> rfl
    · rw [if_neg same, beq_eq_false_iff_ne.mpr same]

theorem mem_of_lookup_createAll {store : Store Key Value} {entries : List (Key × Value)}
    {key : Key} {value : Value} (found : (store.createAll entries).lookup key = some value) :
    store.lookup key = some value ∨ (key, value) ∈ entries := by
  induction entries generalizing store with
  | nil => exact Or.inl found
  | cons entry rest inductionHypothesis =>
    rcases inductionHypothesis found with held | member
    · rw [lookup_create] at held
      split_ifs at held with same
      · cases taken : store.lookup entry.1 with
        | some value' =>
          rw [taken, Option.getD_some] at held
          rw [same, taken]
          exact Or.inl held
        | none =>
          rw [taken, Option.getD_none] at held
          obtain rfl := Option.some.inj held
          rw [same]
          exact Or.inr List.mem_cons_self
      · exact Or.inl held
    · exact Or.inr (List.mem_cons_of_mem _ member)

theorem lookup_take_or (entries : List (Key × Value)) (count : Nat) (key : Key) :
    ((entries.take count).lookup key).or (entries.lookup key) = entries.lookup key := by
  induction entries generalizing count with
  | nil => simp
  | cons entry rest inductionHypothesis =>
    obtain ⟨name, value⟩ := entry
    cases count with
    | zero => simp
    | succ count =>
      rw [List.take_succ_cons, List.lookup_cons, List.lookup_cons]
      cases key == name with
      | true => rfl
      | false => exact inductionHypothesis count

/-- Creations done in part and then repeated in full leave every key as doing them once. -/
theorem lookup_createAll_take (store : Store Key Value) (entries : List (Key × Value))
    (count : Nat) (key : Key) :
    ((store.createAll (entries.take count)).createAll entries).lookup key =
      (store.createAll entries).lookup key := by
  rw [lookup_createAll, lookup_createAll, lookup_createAll, Option.or_assoc, lookup_take_or]

/-! ### Stores that only gain entries -/

/-- A store has kept its entries, and each entry it has gained was wanted. -/
structure Grows (before after : Store Key Value) (wanted : Key → Value → Prop) : Prop where
  kept : ∀ key value, before.lookup key = some value → after.lookup key = some value
  gained : ∀ key value, after.lookup key = some value →
    before.lookup key = some value ∨ (before.lookup key = none ∧ wanted key value)

namespace Grows

variable {before middle after : Store Key Value} {wanted : Key → Value → Prop}

theorem refl (store : Store Key Value) (wanted : Key → Value → Prop) :
    Grows store store wanted where
  kept := fun _ _ found => found
  gained := fun _ _ found => Or.inl found

theorem weaken {more : Key → Value → Prop} (grows : Grows before after wanted)
    (implies : ∀ key value, wanted key value → more key value) : Grows before after more where
  kept := grows.kept
  gained := fun key value found =>
    (grows.gained key value found).imp_right fun new => ⟨new.1, implies key value new.2⟩

theorem trans (first : Grows before middle wanted) (second : Grows middle after wanted) :
    Grows before after wanted where
  kept := fun key value found => second.kept key value (first.kept key value found)
  gained := fun key value found => by
    rcases second.gained key value found with held | ⟨absent, asked⟩
    · exact first.gained key value held
    · refine Or.inr ⟨?_, asked⟩
      cases earlier : before.lookup key with
      | none => rfl
      | some held =>
        rw [first.kept key held earlier] at absent
        cases absent

theorem create (store : Store Key Value) {key : Key} {value : Value} (asked : wanted key value) :
    Grows store (store.create key value) wanted where
  kept := fun other held found => by
    rw [lookup_create]
    split_ifs with same
    · rw [← same, found, Option.getD_some]
    · exact found
  gained := fun other held found => by
    rw [lookup_create] at found
    split_ifs at found with same
    · subst same
      cases taken : store.lookup other with
      | some present =>
        rw [taken, Option.getD_some] at found
        exact Or.inl found
      | none =>
        rw [taken, Option.getD_none] at found
        obtain rfl := Option.some.inj found
        exact Or.inr ⟨rfl, asked⟩
    · exact Or.inl found

theorem isSome (grows : Grows before after wanted) {key : Key}
    (present : (before.lookup key).isSome = true) : (after.lookup key).isSome = true := by
  obtain ⟨value, found⟩ := Option.isSome_iff_exists.mp present
  rw [grows.kept key value found]
  rfl

end Grows

end Store

end ChimpChaos.Library
