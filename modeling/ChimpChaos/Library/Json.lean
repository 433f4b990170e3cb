/-
This file holds JSON values and the merge patch of RFC 7386.

Objects are lists of fields in key order, as a sorted map iterates. The one fact the rest
of the development needs about a merge patch is what a key of the patched object reads:
a key the patch does not name keeps its value, a key the patch sets to null is removed,
and every other key is patched in turn.
-/

import Mathlib.Data.List.Basic
import Mathlib.Data.Rat.Defs
import Mathlib.Data.String.Basic

namespace ChimpChaos.Library

/-- A JSON number: an unsigned or a negative integer, or a float, which is finite. A float is here
the value that was printed; what a reader makes of the printed text is for the reader to say. -/
inductive JsonNumber where
  | posInt (value : UInt64)
  | negInt (value : Int64)
  | float (value : Rat)
  deriving DecidableEq, Repr

/-- The number that is written. -/
def JsonNumber.value : JsonNumber → Rat
  | .posInt value => value.toNat
  | .negInt value => value.toInt
  | .float value => value

/-- A JSON value. -/
inductive Json where
  | null
  | bool (value : Bool)
  | number (value : JsonNumber)
  | string (value : String)
  | array (items : List Json)
  | object (fields : List (String × Json))
  deriving Repr

namespace Json

/-! ### Reading -/

/-- The fields of an object, and no fields for any other value. -/
def fields : Json → List (String × Json)
  | .object fields => fields
  | _ => []

/-- The value under a key of an object. -/
def get? (value : Json) (key : String) : Option Json := value.fields.lookup key

def isNull : Json → Bool
  | .null => true
  | _ => false

/-- The number as an unsigned 64-bit integer, when it is one. -/
def asU64? : Json → Option UInt64
  | .number (.posInt value) => some value
  | _ => none

def asStr? : Json → Option String
  | .string value => some value
  | _ => none

def asArray? : Json → Option (List Json)
  | .array items => some items
  | _ => none

theorem asU64?_eq_some_iff {json : Json} {value : UInt64} :
    json.asU64? = some value ↔ json = .number (.posInt value) := by
  unfold asU64?
  split <;> simp_all

theorem asStr?_eq_some_iff {json : Json} {text : String} :
    json.asStr? = some text ↔ json = .string text := by
  cases json <;> simp [asStr?]

theorem bind_asU64?_eq_some_iff {found : Option Json} {value : UInt64} :
    found.bind asU64? = some value ↔ found = some (.number (.posInt value)) := by
  simp [Option.bind_eq_some_iff, asU64?_eq_some_iff]

theorem bind_asStr?_eq_some_iff {found : Option Json} {text : String} :
    found.bind asStr? = some text ↔ found = some (.string text) := by
  simp [Option.bind_eq_some_iff, asStr?_eq_some_iff]

@[simp] theorem get?_object (fields : List (String × Json)) (key : String) :
    (object fields).get? key = fields.lookup key := rfl

@[simp] theorem get?_null (key : String) : null.get? key = none := rfl

/-! ### Fields in key order -/

/-- Put a value under a key, in key order, replacing the value that is there. -/
def setField (name : String) (value : Json) : List (String × Json) → List (String × Json)
  | [] => [(name, value)]
  | (key, old) :: rest =>
    if name = key then (name, value) :: rest
    else if name < key then (name, value) :: (key, old) :: rest
    else (key, old) :: setField name value rest

/-- Remove a key. -/
def eraseField (name : String) : List (String × Json) → List (String × Json)
  | [] => []
  | (key, value) :: rest =>
    if name = key then eraseField name rest else (key, value) :: eraseField name rest

theorem lookup_cons_ite (key name : String) (value : Json) (rest : List (String × Json)) :
    ((name, value) :: rest).lookup key = if key = name then some value else rest.lookup key := by
  rw [List.lookup_cons]
  by_cases same : key = name
  · rw [if_pos same, beq_iff_eq.mpr same]
  · rw [if_neg same, beq_eq_false_iff_ne.mpr same]

theorem lookup_setField (name key : String) (value : Json) (fields : List (String × Json)) :
    (setField name value fields).lookup key =
      if key = name then some value else fields.lookup key := by
  induction fields with
  | nil => rw [setField, lookup_cons_ite]
  | cons field rest inductionHypothesis =>
    obtain ⟨head, old⟩ := field
    rw [setField]
    split_ifs with same before named
    all_goals grind [lookup_cons_ite]

theorem lookup_eraseField (name key : String) (fields : List (String × Json)) :
    (eraseField name fields).lookup key = if key = name then none else fields.lookup key := by
  induction fields with
  | nil => simp [eraseField]
  | cons field rest inductionHypothesis =>
    obtain ⟨head, old⟩ := field
    rw [eraseField]
    split_ifs with same named
    all_goals grind [lookup_cons_ite]

/-- A value with another value under a key, or with none. -/
def withField (target : Json) (key : String) (value : Option Json) : Json :=
  .object (match value with
    | some value => setField key value target.fields
    | none => eraseField key target.fields)

theorem get?_withField (target : Json) (key other : String) (value : Option Json) :
    (target.withField key value).get? other =
      if other = key then value else target.get? other := by
  cases value with
  | none => exact lookup_eraseField key other target.fields
  | some value => exact lookup_setField key other value target.fields

/-! ### The merge patch -/

mutual

/-- The merge patch of RFC 7386. A target that is not an object is patched as an empty one. -/
def mergePatch (target : Json) : Json → Json
  | .object patch => .object (mergeFields target.fields patch)
  | .null => .null
  | .bool value => .bool value
  | .number value => .number value
  | .string value => .string value
  | .array items => .array items

/-- The fields of a patched object, one field of the patch after the other. -/
def mergeFields (fields : List (String × Json)) : List (String × Json) → List (String × Json)
  | [] => fields
  | (name, value) :: rest =>
    mergeFields
      (if value.isNull then eraseField name fields
        else setField name (mergePatch ((fields.lookup name).getD .null) value) fields)
      rest

end

/-- What a key of a patched object reads, as a function of what it read before. -/
def patchedValue (old : Option Json) : Option Json → Option Json
  | none => old
  | some value => if value.isNull then none else some (mergePatch (old.getD .null) value)

theorem lookup_mergeFields (fields patch : List (String × Json))
    (distinct : (patch.map Prod.fst).Nodup) (key : String) :
    (mergeFields fields patch).lookup key =
      patchedValue (fields.lookup key) (patch.lookup key) := by
  induction patch generalizing fields with
  | nil => simp [mergeFields, patchedValue]
  | cons field rest inductionHypothesis =>
    obtain ⟨name, value⟩ := field
    simp only [List.map_cons, List.nodup_cons] at distinct
    rw [mergeFields, inductionHypothesis _ distinct.2, lookup_cons_ite]
    by_cases named : key = name
    · subst named
      have absent : rest.lookup key = none := by
        rw [List.lookup_eq_none_iff]
        intro field member
        rw [bne_iff_ne]
        rintro rfl
        exact distinct.1 (List.mem_map_of_mem member)
      rw [absent, if_pos rfl, patchedValue, patchedValue]
      split_ifs
      · rw [lookup_eraseField, if_pos rfl]
      · rw [lookup_setField, if_pos rfl]
    · rw [if_neg named]
      split_ifs
      · rw [lookup_eraseField, if_neg named]
      · rw [lookup_setField, if_neg named]

theorem get?_mergePatch (target : Json) (patch : List (String × Json))
    (distinct : (patch.map Prod.fst).Nodup) (key : String) :
    (mergePatch target (.object patch)).get? key =
      patchedValue (target.get? key) (patch.lookup key) := by
  rw [mergePatch, get?_object, lookup_mergeFields _ _ distinct]
  rfl

/-- A patch of one field. -/
theorem get?_mergePatch_single (target : Json) (key other : String) (value : Json) :
    (mergePatch target (.object [(key, value)])).get? other =
      if other = key then patchedValue (target.get? other) (some value)
      else target.get? other := by
  rw [get?_mergePatch _ _ (by simp), lookup_cons_ite]
  split_ifs <;> rfl

/-! ### Records with skipped fields -/

/-- The fields of a record whose serializer skips absent values. -/
def recordFields (entries : List (String × Option Json)) : List (String × Json) :=
  entries.filterMap fun entry => entry.2.map fun value => (entry.1, value)

theorem lookup_recordFields (entries : List (String × Option Json))
    (distinct : (entries.map Prod.fst).Nodup) (key : String) :
    (recordFields entries).lookup key = (entries.lookup key).join := by
  induction entries with
  | nil => rfl
  | cons entry rest inductionHypothesis =>
    obtain ⟨name, value⟩ := entry
    simp only [List.map_cons, List.nodup_cons] at distinct
    have tail := inductionHypothesis distinct.2
    rw [List.lookup_cons]
    by_cases named : key = name
    · subst named
      rw [beq_self_eq_true]
      cases value with
      | some value => simp [recordFields]
      | none =>
        have absent : rest.lookup key = none := by
          rw [List.lookup_eq_none_iff]
          intro field member
          rw [bne_iff_ne]
          rintro rfl
          exact distinct.1 (List.mem_map_of_mem member)
        rw [absent] at tail
        exact tail
    · rw [beq_eq_false_iff_ne.mpr named, ← tail]
      cases value with
      | some value => simp [recordFields, lookup_cons_ite, named]
      | none => rfl

theorem recordFields_distinct (entries : List (String × Option Json))
    (distinct : (entries.map Prod.fst).Nodup) :
    ((recordFields entries).map Prod.fst).Nodup := by
  refine distinct.sublist ?_
  induction entries with
  | nil => exact List.Sublist.refl _
  | cons entry rest inductionHypothesis =>
    obtain ⟨name, value⟩ := entry
    have tail := inductionHypothesis (List.nodup_cons.mp distinct).2
    cases value with
    | some value => exact tail.cons_cons name
    | none => exact tail.cons name

/-- A merge patch with a record: a skipped field keeps what is stored, a written field
replaces it. -/
theorem get?_mergePatch_record (target : Json) (entries : List (String × Option Json))
    (distinct : (entries.map Prod.fst).Nodup) (key : String) :
    (mergePatch target (.object (recordFields entries))).get? key =
      patchedValue (target.get? key) (entries.lookup key).join := by
  rw [get?_mergePatch _ _ (recordFields_distinct entries distinct),
    lookup_recordFields entries distinct]

end Json

end ChimpChaos.Library
