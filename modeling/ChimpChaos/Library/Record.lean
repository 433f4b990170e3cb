/-
This file says how the fields of a record are written into a document and read back.

A `RecordField` comes with its two laws: what is written is read back, and reading a field after a
value has been merged over a stored one gives their merge. Three kinds of fields are built
from the way a single value is written and read: a plain field is always written, an optional
one is skipped when it is absent, and a list is skipped when it is empty. What cannot be read
back, such as a float that is not finite, is not `writable`. A float travels as a text: the
number a reader makes of the printed text of a finite float is a parameter, `reread`, and only
a float that survives this is read back as it was.
-/

import ChimpChaos.Library.Float64
import ChimpChaos.Library.Json

namespace ChimpChaos.Library

/-! ### Single values -/

theorem Json.isNull_mergePatch (old patch : Json) :
    (Json.mergePatch old patch).isNull = patch.isNull := by
  cases patch <;> simp [Json.mergePatch, Json.isNull]

/-- How a value is written and read back. -/
structure Codec (Value : Type) where
  write : Value → Json
  read : Json → Option Value
  writable : Value → Prop
  read_write : ∀ value, writable value → read (write value) = some value

/-- A codec for values that are merged: what a merge finds does not show through a written
value. -/
structure ValueCodec (Value : Type) extends Codec Value where
  present : ∀ value, writable value → (write value).isNull = false
  read_merged : ∀ value, writable value → ∀ old,
    read (Json.mergePatch old (write value)) = some value

namespace ValueCodec

def string : ValueCodec String where
  write := .string
  read := Json.asStr?
  writable _ := True
  present _ _ := rfl
  read_write _ _ := rfl
  read_merged _ _ old := by rw [Json.mergePatch]; rfl

/-- An enumeration that is written as the names of its members. -/
def named {Value : Type} (name : Value → String) (member? : String → Option Value)
    (law : ∀ value, member? (name value) = some value) : ValueCodec Value where
  write value := .string (name value)
  read json := json.asStr?.bind member?
  writable _ := True
  present _ _ := rfl
  read_write value _ := law value
  read_merged value _ old := by rw [Json.mergePatch]; exact law value

theorem toUInt32_toUInt64 (value : UInt32) :
    (if value.toUInt64.toNat < 2 ^ 32 then some value.toUInt64.toUInt32 else none) =
      some value := by
  rw [if_pos, UInt32.toUInt32_toUInt64]
  rw [UInt32.toNat_toUInt64]
  exact value.toNat_lt

/-- An unsigned 32-bit integer. -/
def u32 : ValueCodec UInt32 where
  write value := .number (.posInt value.toUInt64)
  read json := json.asU64?.bind fun value =>
    if value.toNat < 2 ^ 32 then some value.toUInt32 else none
  writable _ := True
  present _ _ := rfl
  read_write value _ := toUInt32_toUInt64 value
  read_merged value _ old := by rw [Json.mergePatch]; exact toUInt32_toUInt64 value

/-- A float that is not finite is written as null. -/
def writeFloat : F64 → Json
  | .finite value => .number (.float value)
  | _ => .null

end ValueCodec

/-- What a reader makes of a written float. -/
def F64.readBack (reread : Rat → Rat) : F64 → Option F64
  | .finite value => some (.finite (reread value))
  | _ => none

theorem F64.readBack_isSome (reread : Rat → Rat) (value : F64) :
    (value.readBack reread).isSome = value.isFinite := by
  cases value <;> rfl

theorem F64.isFinite_of_readBack {reread : Rat → Rat} {value found : F64}
    (back : value.readBack reread = some found) : found.isFinite = true := by
  cases value with
  | finite content =>
    obtain rfl := Option.some.inj back
    rfl
  | _ => cases back

/-- Does a reader find the float that was written? -/
def F64.survives (reread : Rat → Rat) : F64 → Bool
  | .finite value => decide (reread value = value)
  | _ => false

theorem F64.readBack_eq_self_iff (reread : Rat → Rat) (value : F64) :
    value.readBack reread = some value ↔ value.survives reread = true := by
  cases value <;> simp [readBack, survives]

namespace ValueCodec

/-- Read a float. A null is not read. -/
def readFloat (reread : Rat → Rat) : Json → Option F64
  | .number (.float value) => some (.finite (reread value))
  | .number (.posInt value) => some (.finite value.toNat)
  | .number (.negInt value) => some (.finite value.toInt)
  | _ => none

theorem readFloat_writeFloat (reread : Rat → Rat) (value : F64) :
    readFloat reread (writeFloat value) = value.readBack reread := by
  cases value <;> rfl

theorem readFloat_merged (reread : Rat → Rat) (value : F64) (old : Json) :
    readFloat reread (Json.mergePatch old (writeFloat value)) = value.readBack reread := by
  cases value <;> simp [writeFloat, Json.mergePatch, readFloat, F64.readBack]

theorem isNull_writeFloat {reread : Rat → Rat} {value : F64}
    (survives : value.survives reread = true) : (writeFloat value).isNull = false := by
  cases value with
  | finite content => rfl
  | _ => cases survives

/-- A float. One that does not survive its printed text is not writable. -/
def float (reread : Rat → Rat) : ValueCodec F64 where
  write := writeFloat
  read := readFloat reread
  writable value := value.survives reread = true
  present _ survives := isNull_writeFloat survives
  read_write value survives :=
    (readFloat_writeFloat reread value).trans ((value.readBack_eq_self_iff reread).mpr survives)
  read_merged value survives old :=
    (readFloat_merged reread value old).trans ((value.readBack_eq_self_iff reread).mpr survives)

end ValueCodec

/-! ### Fields -/

/-- How a field of a record is written, read back and merged. A skipped field is written as
none. -/
structure RecordField (Value : Type) where
  write : Value → Option Json
  read : Option Json → Option Value
  merge : Value → Value → Value
  writable : Value → Prop
  read_write : ∀ value, writable value → read (write value) = some value
  read_patched : ∀ old stored value, writable value → read old = some stored →
    read (Json.patchedValue old (write value)) = some (merge stored value)

namespace RecordField

variable {Value : Type}

theorem patchedValue_write (codec : ValueCodec Value) (value : Value)
    (writable : codec.writable value) (old : Option Json) :
    Json.patchedValue old (some (codec.write value)) =
      some (Json.mergePatch (old.getD .null) (codec.write value)) := by
  rw [Json.patchedValue, codec.present value writable, if_neg Bool.false_ne_true]

/-- Whatever a merge finds, it leaves a written value. -/
theorem bind_patchedValue (codec : ValueCodec Value) (value : Value)
    (writable : codec.writable value) (old : Option Json) :
    (Json.patchedValue old (some (codec.write value))).bind codec.read = some value := by
  rw [patchedValue_write codec value writable]
  exact codec.read_merged value writable _

/-- A field that is always written. An absent one may have a default. -/
def plain (codec : ValueCodec Value) (absent : Option Value) : RecordField Value where
  write value := some (codec.write value)
  read
    | none => absent
    | some json => codec.read json
  merge _ value := value
  writable := codec.writable
  read_write := codec.read_write
  read_patched old stored value writable _ := by
    rw [patchedValue_write codec value writable]
    exact codec.read_merged value writable _

/-- Read a field that may be absent. A null stands for an absent one. -/
def readOptional (codec : Codec Value) : Option Json → Option (Option Value)
  | none | some .null => some none
  | some json => (codec.read json).map some

theorem readOptional_of_read {codec : Codec Value} {json : Json} {value : Value}
    (present : json.isNull = false) (read : codec.read json = some value) :
    readOptional codec (some json) = some (some value) := by
  cases json with
  | null => cases present
  | _ => exact congrArg (Option.map some) read

theorem readOptional_patchedValue (codec : ValueCodec Value) (value : Value)
    (writable : codec.writable value) (old : Option Json) :
    readOptional codec.toCodec (Json.patchedValue old (some (codec.write value))) =
      some (some value) := by
  rw [patchedValue_write codec value writable]
  exact readOptional_of_read ((Json.isNull_mergePatch _ _).trans (codec.present value writable))
    (codec.read_merged value writable _)

/-- A field that is skipped when it is absent. -/
def optional (codec : ValueCodec Value) : RecordField (Option Value) where
  write value := value.map codec.write
  read := readOptional codec.toCodec
  merge stored value := value.or stored
  writable value := ∀ content, value = some content → codec.writable content
  read_write value writable := by
    cases value with
    | none => rfl
    | some content =>
      exact readOptional_of_read (codec.present content (writable content rfl))
        (codec.read_write content (writable content rfl))
  read_patched old stored value writable parsed := by
    cases value with
    | none => exact parsed
    | some content => exact readOptional_patchedValue codec content (writable content rfl) old

/-- A written array is read item by item. -/
theorem mapM_read_write (codec : Codec Value) {values : List Value}
    (writable : ∀ value ∈ values, codec.writable value) :
    (values.map codec.write).mapM codec.read = some values := by
  induction values with
  | nil => rfl
  | cons first rest inductionHypothesis =>
    rw [List.map_cons, List.mapM_cons, codec.read_write first (writable first List.mem_cons_self),
      inductionHypothesis fun value member => writable value (List.mem_cons_of_mem _ member)]
    rfl

theorem patchedValue_array (old : Option Json) (items : List Json) :
    Json.patchedValue old (some (.array items)) = some (.array items) := by
  rw [Json.patchedValue, Json.mergePatch]
  rfl

/-- Read a field that holds a list. An absent one is the empty list. -/
def readList (codec : Codec Value) : Option Json → Option (List Value)
  | none => some []
  | some json => json.asArray?.bind fun items => items.mapM codec.read

/-- A list that is skipped when it is empty. A written list replaces the stored one. -/
def list (codec : Codec Value) : RecordField (List Value) where
  write values := if values.isEmpty then none else some (.array (values.map codec.write))
  read := readList codec
  merge stored values := if values.isEmpty then stored else values
  writable values := ∀ value ∈ values, codec.writable value
  read_write values writable := by
    cases values with
    | nil => rfl
    | cons first rest => exact mapM_read_write codec writable
  read_patched old stored values writable parsed := by
    cases values with
    | nil => exact parsed
    | cons first rest =>
      show readList codec (Json.patchedValue old (some (.array _))) = _
      rw [patchedValue_array]
      exact mapM_read_write codec writable

end RecordField

end ChimpChaos.Library
