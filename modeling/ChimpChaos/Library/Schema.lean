/-
This file holds schemas of documents, as custom resources have them.

A schema says which JSON values it admits. An object may have any further fields, which are not
looked at; a required field has to be there. What a merge patch makes of an admitted object is
admitted when each of its fields is, and for the fields of a record there is one rule for each
way in which a field can be written.
-/

import ChimpChaos.Library.Json
import Mathlib.Data.Rat.Floor

namespace ChimpChaos.Library

inductive Schema where
  | boolean
  | text
  | enumeration (members : List String)
  | number
  /-- An integer that is not negative. -/
  | natural
  | array (items : Schema)
  | object (properties : List (String × Schema)) (required : List String)
  /-- An object whose fields are all kept. -/
  | anyObject
  | nullable (content : Schema)
  deriving Repr

/-- Is the number an integer that is not negative? -/
def JsonNumber.isNatural (number : JsonNumber) : Bool :=
  number.value.isInt && decide (0 ≤ number.value)

namespace Schema

mutual

/-- Does a schema admit a value? -/
def admits : Schema → Json → Bool
  | .boolean, .bool _ => true
  | .text, .string _ => true
  | .enumeration members, .string name => members.contains name
  | .number, .number _ => true
  | .natural, .number value => value.isNatural
  | .array items, .array values => values.all fun value => items.admits value
  | .object properties required, .object fields =>
    admitsFields properties fields && required.all fun key => (fields.lookup key).isSome
  | .anyObject, .object _ => true
  | .nullable content, value => value.isNull || content.admits value
  | _, _ => false

/-- Does each property admit the field under its key? -/
def admitsFields : List (String × Schema) → List (String × Json) → Bool
  | [], _ => true
  | (key, schema) :: rest, fields =>
    ((fields.lookup key).all fun value => schema.admits value) && admitsFields rest fields

end

/-- A field that may be absent is admitted when it is there. -/
def Allows (schema : Schema) (field : Option Json) : Prop :=
  ∀ value, field = some value → schema.admits value = true

theorem allows_none (schema : Schema) : schema.Allows none := fun _ absent => nomatch absent

theorem allows_some {schema : Schema} {value : Json} :
    schema.Allows (some value) ↔ schema.admits value = true :=
  ⟨fun allows => allows value rfl, fun admitted _ same => Option.some.inj same ▸ admitted⟩

theorem admitsFields_iff {properties : List (String × Schema)} {fields : List (String × Json)} :
    admitsFields properties fields = true ↔
      ∀ property ∈ properties, property.2.Allows (fields.lookup property.1) := by
  induction properties with
  | nil => simp [admitsFields]
  | cons property rest inductionHypothesis =>
    obtain ⟨key, schema⟩ := property
    rw [admitsFields, Bool.and_eq_true, inductionHypothesis, List.forall_mem_cons,
      Option.all_eq_true]
    rfl

/-- An object is admitted when its fields are and the required ones are there. -/
theorem admits_object_iff {properties : List (String × Schema)} {required : List String}
    {json : Json} :
    (object properties required).admits json = true ↔
      (∃ fields, json = .object fields) ∧
        (∀ property ∈ properties, property.2.Allows (json.get? property.1)) ∧
        ∀ key ∈ required, (json.get? key).isSome = true := by
  cases json with
  | object fields =>
    rw [admits, Bool.and_eq_true, admitsFields_iff, List.all_eq_true]
    exact ⟨fun admitted => ⟨⟨fields, rfl⟩, admitted⟩, fun admitted => admitted.2⟩
  | _ => simp [admits]

theorem admits_natural (number : UInt64) :
    natural.admits (.number (.posInt number)) = true := by
  have whole : (JsonNumber.posInt number).isNatural = true := by
    simp [JsonNumber.isNatural, JsonNumber.value, Rat.isInt]
  exact whole

/-! ### Merge patches -/

/-- Whatever is stored under a key, if it is admitted, so is what a merge patch leaves there. -/
def Takes (schema : Schema) (written : Option Json) : Prop :=
  ∀ old, schema.Allows old → schema.Allows (Json.patchedValue old written)

theorem takes_none (schema : Schema) : schema.Takes none := fun _ stored => stored

/-- A value that is no object replaces what is stored. -/
theorem takes_some {schema : Schema} {value : Json} (whole : ∀ fields, value ≠ .object fields)
    (admitted : schema.admits value = true) : schema.Takes (some value) := by
  intro old _
  have replaced : Json.mergePatch (old.getD .null) value = value := by
    cases value with
    | object fields => exact absurd rfl (whole fields)
    | _ => rw [Json.mergePatch]
  rw [Json.patchedValue, replaced]
  split_ifs
  · exact allows_none schema
  · exact allows_some.mpr admitted

/-- The stored value is an admitted object or nothing. -/
def AllowsDocument (properties : List (String × Schema)) (required : List String)
    (document : Json) : Prop :=
  document = .null ∨ (object properties required).admits document = true

theorem AllowsDocument.property {properties : List (String × Schema)} {required : List String}
    {document : Json} (stored : AllowsDocument properties required document)
    {property : String × Schema} (member : property ∈ properties) :
    property.2.Allows (document.get? property.1) := by
  rcases stored with rfl | admitted
  · exact allows_none property.2
  · exact (admits_object_iff.mp admitted).2.1 property member

/-- What a merge patch with a record leaves is admitted just when its properties are, and no
required one is missing. -/
theorem admits_mergePatch_iff {properties : List (String × Schema)} {required : List String}
    (document : Json) {entries : List (String × Option Json)}
    (distinct : (entries.map Prod.fst).Nodup) :
    (object properties required).admits
        (Json.mergePatch document (.object (Json.recordFields entries))) = true ↔
      (∀ property ∈ properties, property.2.Allows (Json.patchedValue
          (document.get? property.1) (entries.lookup property.1).join)) ∧
        ∀ key ∈ required,
          (Json.patchedValue (document.get? key) (entries.lookup key).join).isSome = true := by
  rw [admits_object_iff]
  simp only [Json.get?_mergePatch_record _ _ distinct]
  exact ⟨fun admitted => admitted.2, fun admitted => ⟨⟨_, by rw [Json.mergePatch]⟩, admitted⟩⟩

/-- A record whose fields are all taken leaves an admitted document. -/
theorem admits_mergePatch {properties : List (String × Schema)} {required : List String}
    {document : Json} {entries : List (String × Option Json)}
    (distinct : (entries.map Prod.fst).Nodup)
    (stored : AllowsDocument properties required document)
    (takes : ∀ property ∈ properties, property.2.Takes (entries.lookup property.1).join)
    (present : ∀ key ∈ required,
      (Json.patchedValue (document.get? key) (entries.lookup key).join).isSome = true) :
    (object properties required).admits
      (Json.mergePatch document (.object (Json.recordFields entries))) = true :=
  (admits_mergePatch_iff document distinct).mpr
    ⟨fun property member => takes property member _ (stored.property member), present⟩

/-- An optional value that is no object is skipped, or it replaces what is stored. -/
theorem takes_map {Value : Type} {schema : Schema} {write : Value → Json}
    (whole : ∀ value fields, write value ≠ .object fields)
    (admitted : ∀ value, schema.admits (write value) = true) (value : Option Value) :
    schema.Takes (value.map write) := by
  cases value with
  | none => exact takes_none schema
  | some content => exact takes_some (whole content) (admitted content)

/-- What a property of a nullable object is merged into. -/
theorem allowsDocument_getD {properties : List (String × Schema)} {required : List String}
    {old : Option Json} (stored : (nullable (object properties required)).Allows old) :
    AllowsDocument properties required (old.getD .null) := by
  cases old with
  | none => exact Or.inl rfl
  | some value =>
    have admitted := allows_some.mp stored
    rw [admits, Bool.or_eq_true] at admitted
    refine admitted.imp (fun isNull => ?_) id
    cases value <;> first | rfl | cases isNull

/-- A record whose fields are all taken, and whose required fields are all written, is merged
into what is stored. -/
theorem takes_record {properties : List (String × Schema)} {required : List String}
    {entries : List (String × Option Json)} (distinct : (entries.map Prod.fst).Nodup)
    (takes : ∀ property ∈ properties, property.2.Takes (entries.lookup property.1).join)
    (written : ∀ key ∈ required,
      ∃ value, (entries.lookup key).join = some value ∧ value.isNull = false) :
    (nullable (object properties required)).Takes
      (some (.object (Json.recordFields entries))) := by
  intro old stored
  have present : (Json.object (Json.recordFields entries)).isNull = false := rfl
  rw [Json.patchedValue, present, if_neg Bool.false_ne_true]
  refine allows_some.mpr ?_
  rw [admits, Bool.or_eq_true]
  refine Or.inr (admits_mergePatch distinct (allowsDocument_getD stored) takes fun key member => ?_)
  obtain ⟨value, found, filled⟩ := written key member
  rw [found, Json.patchedValue, filled]
  rfl

end Schema

end ChimpChaos.Library
