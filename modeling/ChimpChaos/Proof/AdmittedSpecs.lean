/-
This file proves which of the specs that the custom resource definitions admit the operator can
read, and that it reads back what it writes.

The schemas bound no integer from above, and they take a number such as `1e30` for an integer.
An admitted spec is read just when its integer is written as one and fits its type.
-/

import ChimpChaos.Operator.Schemas

namespace ChimpChaos

open Library

/-! ### Reading what is admitted -/

/-- A codec reads every value that a schema admits. -/
def Decodes {Value : Type} (schema : Schema) (codec : Codec Value) : Prop :=
  ∀ json, schema.admits json = true → ∃ value, codec.read json = some value

section Decodes

variable {Value : Type} {schema : Schema} {codec : Codec Value}

theorem decodes_text : Decodes .text ValueCodec.string.toCodec := by
  intro json admitted
  cases json with
  | string text => exact ⟨text, rfl⟩
  | _ => simp [Schema.admits] at admitted

theorem decodes_named {name : Value → String} {members : List String}
    {member? : String → Option Value} {law : ∀ value, member? (name value) = some value}
    (known : ∀ text ∈ members, ∃ value, member? text = some value) :
    Decodes (.enumeration members) (ValueCodec.named name member? law).toCodec := by
  intro json admitted
  cases json with
  | string text => exact known text (List.contains_iff_mem.mp admitted)
  | _ => simp [Schema.admits] at admitted

/-- A required field of an admitted object is read. -/
theorem Decodes.required (decodes : Decodes schema codec) {json : Json} {key : String}
    (allowed : schema.Allows (json.get? key)) (present : (json.get? key).isSome = true) :
    ∃ value, readRequired codec json key = some value := by
  obtain ⟨field, found⟩ := Option.isSome_iff_exists.mp present
  obtain ⟨value, read⟩ := decodes field (allowed field found)
  exact ⟨value, by rw [readRequired, found, Option.bind_some, read]⟩

/-- A nullable field is read. -/
theorem Decodes.optional (decodes : Decodes schema codec) {field : Option Json}
    (allowed : (Schema.nullable schema).Allows field) :
    ∃ value, RecordField.readOptional codec field = some value := by
  cases field with
  | none => exact ⟨none, rfl⟩
  | some json =>
    have admitted := Schema.allows_some.mp allowed
    rw [Schema.admits, Bool.or_eq_true] at admitted
    rcases admitted with isNull | admitted
    · cases json <;> first | exact ⟨none, rfl⟩ | cases isNull
    · obtain ⟨value, read⟩ := decodes json admitted
      cases json with
      | null => exact ⟨none, rfl⟩
      | _ => exact ⟨some value, congrArg (Option.map some) read⟩

/-- A list of values is read item by item. -/
theorem Decodes.list (decodes : Decodes schema codec) {field : Option Json}
    (allowed : (Schema.array schema).Allows field) :
    ∃ values, RecordField.readList codec field = some values := by
  cases field with
  | none => exact ⟨[], rfl⟩
  | some json =>
    have admitted := Schema.allows_some.mp allowed
    cases json with
    | array items =>
      rw [Schema.admits, List.all_eq_true] at admitted
      show ∃ values, items.mapM codec.read = some values
      induction items with
      | nil => exact ⟨[], rfl⟩
      | cons first rest inductionHypothesis =>
        obtain ⟨value, read⟩ := decodes first (admitted first List.mem_cons_self)
        have tail (item : Json) (member : item ∈ rest) :=
          admitted item (List.mem_cons_of_mem _ member)
        obtain ⟨values, reads⟩ := inductionHypothesis
          (Schema.allows_some.mpr (by rw [Schema.admits]; exact List.all_eq_true.mpr tail)) tail
        exact ⟨value :: values, by rw [List.mapM_cons, read, reads]; rfl⟩
    | _ => simp [Schema.admits] at admitted

end Decodes

theorem decodes_edgeTarget : Decodes EdgeTarget.schema EdgeTarget.codec := by
  intro json admitted
  obtain ⟨-, fields, present⟩ := Schema.admits_object_iff.mp admitted
  simp only [EdgeTarget.properties, List.forall_mem_cons] at fields present
  obtain ⟨destination, readDestination⟩ := decodes_text.required fields.1 present.1
  obtain ⟨source, readSource⟩ := decodes_text.required fields.2.1 present.2.1
  refine ⟨⟨source, destination⟩, ?_⟩
  simp only [EdgeTarget.codec, EdgeTarget.parse, readDestination, readSource]
  rfl

theorem decodes_target : Decodes Target.schema Target.codec := by
  intro json admitted
  obtain ⟨-, fields, -⟩ := Schema.admits_object_iff.mp admitted
  simp only [Target.properties, List.forall_mem_cons] at fields
  obtain ⟨edge, readEdge⟩ := decodes_edgeTarget.optional fields.1
  obtain ⟨ns, readNs⟩ := decodes_text.optional fields.2.1
  exact ⟨⟨ns, edge⟩, by simp only [Target.codec, Target.parse, readEdge, readNs]; rfl⟩

theorem decodes_experimentRef : Decodes ExperimentRef.schema ExperimentRef.codec := by
  intro json admitted
  obtain ⟨-, fields, present⟩ := Schema.admits_object_iff.mp admitted
  simp only [ExperimentRef.properties, List.forall_mem_cons] at fields present
  obtain ⟨name, readName⟩ := decodes_text.required fields.1 present.1
  obtain ⟨ns, readNs⟩ := decodes_text.optional fields.2.1
  exact ⟨⟨name, ns⟩, by simp only [ExperimentRef.codec, ExperimentRef.parse, readName, readNs]; rfl⟩

theorem decodes_prometheusConfig : Decodes PrometheusConfig.schema PrometheusConfig.codec := by
  intro json admitted
  obtain ⟨-, fields, present⟩ := Schema.admits_object_iff.mp admitted
  simp only [PrometheusConfig.properties, List.forall_mem_cons] at fields present
  obtain ⟨window, readWindow⟩ := decodes_text.required fields.1 present.1
  obtain ⟨url, readUrl⟩ := decodes_text.required fields.2.1 present.2.1
  exact ⟨⟨url, window⟩, by
    simp only [PrometheusConfig.codec, PrometheusConfig.parse, readWindow, readUrl]; rfl⟩

theorem decodes_scope : Decodes ImpactMapScope.schema ImpactMapScope.codec := by
  intro json admitted
  obtain ⟨-, fields, -⟩ := Schema.admits_object_iff.mp admitted
  simp only [ImpactMapScope.properties, List.forall_mem_cons] at fields
  obtain ⟨namespaces, read⟩ := decodes_text.list fields.1
  have found : ImpactMapScope.namespacesField.read (json.get? "namespaces") = some namespaces :=
    read
  exact ⟨⟨namespaces⟩, by simp only [ImpactMapScope.codec, ImpactMapScope.parse, found]; rfl⟩

theorem decodes_any : Decodes .anyObject anyCodec := fun json _ => ⟨json, rfl⟩

theorem decodes_scenario :
    Decodes (.enumeration ["PodKiller", "CpuStress", "NetworkDelay", "EdgeDelay", "EdgeAbort"])
      scenarioCodec.toCodec := by
  refine decodes_named fun text member => ?_
  simp only [List.mem_cons, List.not_mem_nil, or_false] at member
  rcases member with rfl | rfl | rfl | rfl | rfl <;> exact ⟨_, rfl⟩

theorem decodes_direction : Decodes (.enumeration ["up", "down"]) directionCodec.toCodec := by
  refine decodes_named fun text member => ?_
  simp only [List.mem_cons, List.not_mem_nil, or_false] at member
  rcases member with rfl | rfl <;> exact ⟨_, rfl⟩

/-! ### Integers -/

/-- The value is written as an unsigned integer of 32 bits. -/
def FitsU32 (value : Json) : Prop :=
  ∃ number : UInt64, value = .number (.posInt number) ∧ number.toNat < 2 ^ 32

theorem readU32_isSome_iff (value : Json) :
    (ValueCodec.u32.read value).isSome = true ↔ FitsU32 value := by
  have read : ValueCodec.u32.read value = value.asU64?.bind fun number =>
      if number.toNat < 2 ^ 32 then some number.toUInt32 else none := rfl
  rw [read, Option.isSome_iff_exists]
  constructor
  · rintro ⟨result, found⟩
    obtain ⟨number, known, fits⟩ := Option.bind_eq_some_iff.mp found
    split_ifs at fits with small
    exact ⟨number, Json.asU64?_eq_some_iff.mp known, small⟩
  · rintro ⟨number, rfl, small⟩
    exact ⟨number.toUInt32, by rw [Json.asU64?, Option.bind_some, if_pos small]⟩

/-! ### The specs -/

/-- An admitted spec of an experiment is read just when its duration is written as an unsigned
integer of 64 bits. -/
theorem ChaosExperimentSpec.parse_isSome_iff {json : Json}
    (admitted : ChaosExperimentSpec.schema.admits json = true) :
    (ChaosExperimentSpec.parse json).isSome = true ↔
      ∃ duration, json.get? "duration" = some (.number (.posInt duration)) := by
  obtain ⟨-, fields, present⟩ := Schema.admits_object_iff.mp admitted
  simp only [ChaosExperimentSpec.properties, List.forall_mem_cons] at fields present
  obtain ⟨-, parametersField, scenarioField, targetField, namespaceField, -⟩ := fields
  obtain ⟨scenario, readScenario⟩ := decodes_scenario.required scenarioField present.2.2.1
  obtain ⟨targetNamespace, readNamespace⟩ := decodes_text.optional namespaceField
  obtain ⟨target, readTarget⟩ := decodes_target.optional targetField
  have kept : (Schema.nullable .anyObject).Allows (json.get? "parameters") := fun value found => by
    rw [Schema.admits, parametersField value found, Bool.or_true]
  obtain ⟨parameters, readParameters⟩ := decodes_any.optional kept
  have duration : readRequired u64Codec json "duration" =
      (json.get? "duration").bind Json.asU64? := rfl
  have parsed : parse json = (readRequired u64Codec json "duration").map fun duration =>
      { scenario, duration, targetNamespace, target, parameters } := by
    simp only [parse, readScenario, readNamespace, readTarget, readParameters]
    cases readRequired u64Codec json "duration" <;> rfl
  rw [parsed, Option.isSome_map, duration, Option.isSome_iff_exists]
  exact exists_congr fun _ => Json.bind_asU64?_eq_some_iff

/-- An admitted spec of an analysis is read just when its greatest impact fits 32 bits. -/
theorem ChaosAnalysisSpec.parse_isSome_iff {json : Json}
    (admitted : ChaosAnalysisSpec.schema.admits json = true) :
    (ChaosAnalysisSpec.parse json).isSome = true ↔
      ∃ criteria value, json.get? "successCriteria" = some criteria ∧
        criteria.get? "maxImpact" = some value ∧ FitsU32 value := by
  obtain ⟨-, fields, present⟩ := Schema.admits_object_iff.mp admitted
  simp only [ChaosAnalysisSpec.properties, List.forall_mem_cons] at fields present
  obtain ⟨directionField, referenceField, prometheusField, queryField, criteriaField, -⟩ := fields
  obtain ⟨direction, readDirection⟩ := decodes_direction.required directionField present.1
  obtain ⟨reference, readReference⟩ := decodes_experimentRef.required referenceField present.2.1
  obtain ⟨prometheus, readPrometheus⟩ :=
    decodes_prometheusConfig.required prometheusField present.2.2.1
  obtain ⟨query, readQuery⟩ := decodes_text.required queryField present.2.2.2.1
  obtain ⟨criteria, found⟩ := Option.isSome_iff_exists.mp present.2.2.2.2.1
  obtain ⟨-, -, required⟩ := Schema.admits_object_iff.mp (criteriaField criteria found)
  obtain ⟨value, held⟩ := Option.isSome_iff_exists.mp (required "maxImpact" List.mem_cons_self)
  have maxImpact : readRequired SuccessCriteria.codec json "successCriteria" =
      ValueCodec.u32.read value := by
    have read : readRequired SuccessCriteria.codec json "successCriteria" =
        (json.get? "successCriteria").bind fun criteria =>
          (criteria.get? "maxImpact").bind ValueCodec.u32.read := rfl
    rw [read, found, Option.bind_some, held, Option.bind_some]
  have parsed : parse json = (ValueCodec.u32.read value).map fun maxImpact =>
      { experimentRef := reference, prometheus, query, degradationDirection := direction,
        maxImpact } := by
    simp only [parse, readReference, readPrometheus, readQuery, readDirection, maxImpact]
    cases ValueCodec.u32.read value <;> rfl
  rw [parsed, Option.isSome_map, readU32_isSome_iff]
  refine ⟨fun fits => ⟨criteria, value, found, held, fits⟩, ?_⟩
  rintro ⟨criteria', value', found', held', fits⟩
  obtain rfl := Option.some.inj (found.symm.trans found')
  obtain rfl := Option.some.inj (held.symm.trans held')
  exact fits

/-- An admitted spec of an impact map is read just when its least impact is left out or fits 32
bits. -/
theorem ChaosImpactMapSpec.parse_isSome_iff {json : Json}
    (admitted : ChaosImpactMapSpec.schema.admits json = true) :
    (ChaosImpactMapSpec.parse json).isSome = true ↔
      ∀ value, json.get? "minImpact" = some value → FitsU32 value := by
  obtain ⟨-, fields, present⟩ := Schema.admits_object_iff.mp admitted
  simp only [ChaosImpactMapSpec.properties, List.forall_mem_cons] at fields present
  obtain ⟨referenceField, -, prometheusField, scopeField, -⟩ := fields
  obtain ⟨reference, readReference⟩ := decodes_experimentRef.required referenceField present.1
  obtain ⟨prometheus, readPrometheus⟩ :=
    decodes_prometheusConfig.required prometheusField present.2.1
  obtain ⟨scope, readScope⟩ := decodes_scope.optional scopeField
  have parsed : parse json = (minImpactField.read (json.get? "minImpact")).map fun minImpact =>
      { experimentRef := reference, prometheus, scope, minImpact } := by
    simp only [parse, readReference, readPrometheus, readScope]
    cases minImpactField.read (json.get? "minImpact") <;> rfl
  rw [parsed, Option.isSome_map]
  cases json.get? "minImpact" with
  | none => exact ⟨fun _ _ absent => (nomatch absent), fun _ => rfl⟩
  | some value =>
    exact (readU32_isSome_iff value).trans
      ⟨fun fits _ same => Option.some.inj same ▸ fits, fun each => each value rfl⟩

/-- Of the specs that the definitions admit, the operator reads just those whose integers are
written as such and fit their types. -/
theorem specs_decode :
    (∀ json, ChaosExperimentSpec.schema.admits json = true →
      ((ChaosExperimentSpec.parse json).isSome = true ↔
        ∃ duration, json.get? "duration" = some (.number (.posInt duration)))) ∧
    (∀ json, ChaosAnalysisSpec.schema.admits json = true →
      ((ChaosAnalysisSpec.parse json).isSome = true ↔
        ∃ criteria value, json.get? "successCriteria" = some criteria ∧
          criteria.get? "maxImpact" = some value ∧ FitsU32 value)) ∧
    ∀ json, ChaosImpactMapSpec.schema.admits json = true →
      ((ChaosImpactMapSpec.parse json).isSome = true ↔
        ∀ value, json.get? "minImpact" = some value → FitsU32 value) :=
  ⟨fun _ => ChaosExperimentSpec.parse_isSome_iff, fun _ => ChaosAnalysisSpec.parse_isSome_iff,
    fun _ => ChaosImpactMapSpec.parse_isSome_iff⟩

def sampleExperimentDocument (duration : JsonNumber) : Json :=
  .object [("duration", .number duration), ("parameters", .object []),
    ("scenario", .string "PodKiller")]

def sampleAnalysisDocument (maxImpact : JsonNumber) : Json :=
  .object [("degradationDirection", .string "up"),
    ("experimentRef", .object [("name", .string "demo")]),
    ("prometheus", .object [("baselineWindow", .string "5m"),
      ("url", .string "http://prometheus:9090")]),
    ("query", .string "http_latency"),
    ("successCriteria", .object [("maxImpact", .number maxImpact)])]

def sampleImpactMapDocument (minImpact : JsonNumber) : Json :=
  .object [("experimentRef", .object [("name", .string "demo")]), ("minImpact", .number minImpact),
    ("prometheus", .object [("baselineWindow", .string "5m"),
      ("url", .string "http://prometheus:9090")])]

/-- Documents with an integer, and admitted ones with a whole float or an integer of 33 bits. -/
theorem specs_decode_sample :
    ((ChaosExperimentSpec.parse (sampleExperimentDocument (.posInt 5))).isSome = true ∧
      (ChaosExperimentSpec.parse (sampleExperimentDocument (.float 5))).isSome = false) ∧
    ((ChaosAnalysisSpec.parse (sampleAnalysisDocument (.posInt 50))).isSome = true ∧
      (ChaosAnalysisSpec.parse (sampleAnalysisDocument (.posInt 4294967296))).isSome = false) ∧
    (ChaosImpactMapSpec.parse (sampleImpactMapDocument (.posInt 5))).isSome = true ∧
      (ChaosImpactMapSpec.parse (sampleImpactMapDocument (.float 5))).isSome = false := by
  obtain ⟨experiments, analyses, impactMaps⟩ := specs_decode
  refine ⟨⟨(experiments _ (by decide +kernel)).mpr ⟨5, rfl⟩, Bool.eq_false_iff.mpr fun read => ?_⟩,
    ⟨(analyses _ (by decide +kernel)).mpr ⟨_, _, rfl, rfl, 50, rfl, by decide⟩,
      Bool.eq_false_iff.mpr fun read => ?_⟩,
    (impactMaps _ (by decide +kernel)).mpr fun value found => ?_,
    Bool.eq_false_iff.mpr fun read => ?_⟩
  · obtain ⟨duration, written⟩ := (experiments _ (by decide +kernel)).mp read
    cases written
  · obtain ⟨criteria, value, given, limit, number, written, fits⟩ :=
      (analyses _ (by decide +kernel)).mp read
    cases given
    cases limit
    cases written
    exact absurd fits (by decide)
  · cases found
    exact ⟨5, rfl, by decide⟩
  · obtain ⟨number, written, -⟩ := (impactMaps _ (by decide +kernel)).mp read _ rfl
    cases written

/-! ### Writing and reading back -/

theorem admits_text (text : Option String) :
    (Schema.nullable .text).Allows (text.map Json.string) := by
  cases text with
  | none => exact Schema.allows_none _
  | some text => exact Schema.allows_some.mpr rfl

theorem readOptional_text (text : Option String) :
    RecordField.readOptional ValueCodec.string.toCodec (text.map Json.string) = some text :=
  (RecordField.optional .string).read_write text fun _ _ => trivial

/-- An object that a codec writes is read as an optional field. -/
theorem readOptional_map {Value : Type} (codec : Codec Value)
    (present : ∀ value, (codec.write value).isNull = false) (every : ∀ value, codec.writable value)
    (value : Option Value) :
    RecordField.readOptional codec (value.map codec.write) = some value := by
  cases value with
  | none => rfl
  | some content =>
    exact RecordField.readOptional_of_read (present content)
      (codec.read_write content (every content))

theorem Target.admits_toJson (target : Target) : Target.schema.admits target.toJson = true := by
  obtain ⟨ns, edge⟩ := target
  cases ns <;> cases edge <;> rfl

theorem ExperimentRef.admits_toJson (reference : ExperimentRef) :
    ExperimentRef.schema.admits reference.toJson = true := by
  obtain ⟨name, ns⟩ := reference
  cases ns <;> rfl

theorem ImpactMapScope.admits_toJson (scope : ImpactMapScope) :
    ImpactMapScope.schema.admits scope.toJson = true := by
  obtain ⟨namespaces⟩ := scope
  cases namespaces with
  | nil => rfl
  | cons first rest =>
    have fields : ImpactMapScope.schema.admits (ImpactMapScope.toJson ⟨first :: rest⟩) =
        (((Schema.array .text).admits (.array ((first :: rest).map Json.string)) && true) &&
          true) := rfl
    rw [fields, Schema.admits, List.all_map, Bool.and_true, Bool.and_true, List.all_eq_true]
    exact fun _ _ => rfl

namespace ChaosExperimentSpec

theorem entries_distinct (spec : ChaosExperimentSpec) : (spec.entries.map Prod.fst).Nodup := by
  simp [entries]

theorem get?_toJson (spec : ChaosExperimentSpec) (key : String) :
    spec.toJson.get? key = (spec.entries.lookup key).join := by
  rw [toJson, Json.get?_object, Json.lookup_recordFields _ spec.entries_distinct]

/-- A written spec is read back up to a null for its parameters. -/
theorem parse_toJson (spec : ChaosExperimentSpec) :
    parse spec.toJson = (RecordField.readOptional anyCodec spec.parameters).map
      fun parameters => { spec with parameters } := by
  have scenario : readRequired scenarioCodec.toCodec spec.toJson "scenario" =
      some spec.scenario := by
    rw [readRequired, get?_toJson]
    exact scenarioCodec.read_write spec.scenario trivial
  have duration : readRequired u64Codec spec.toJson "duration" = some spec.duration := by
    rw [readRequired, get?_toJson]
    rfl
  have targetNamespace : RecordField.readOptional ValueCodec.string.toCodec
      (spec.toJson.get? "targetNamespace") = some spec.targetNamespace := by
    rw [get?_toJson]
    exact readOptional_text spec.targetNamespace
  have target : RecordField.readOptional Target.codec (spec.toJson.get? "target") =
      some spec.target := by
    rw [get?_toJson]
    exact readOptional_map Target.codec (fun _ => rfl) (fun _ => trivial) spec.target
  have parameters : spec.toJson.get? "parameters" = spec.parameters := by
    rw [get?_toJson]
    rfl
  simp only [parse, scenario, duration, targetNamespace, target, parameters]
  cases RecordField.readOptional anyCodec spec.parameters <;> rfl

/-- A spec is read back as it was written, unless its parameters are a null. -/
theorem parse_toJson_iff (spec : ChaosExperimentSpec) :
    parse spec.toJson = some spec ↔ spec.parameters ≠ some .null := by
  obtain ⟨scenario, duration, targetNamespace, target, parameters⟩ := spec
  rw [parse_toJson]
  cases parameters with
  | none => exact ⟨fun _ same => (nomatch same), fun _ => rfl⟩
  | some json => cases json <;> simp [RecordField.readOptional, anyCodec]

/-- A written spec is admitted just when its parameters are an object. -/
theorem admits_toJson_iff (spec : ChaosExperimentSpec) :
    schema.admits spec.toJson = true ↔ ∃ fields, spec.parameters = some (.object fields) := by
  have parameters : spec.toJson.get? "parameters" = spec.parameters := by
    rw [get?_toJson]
    rfl
  rw [schema, Schema.admits_object_iff]
  constructor
  · rintro ⟨-, fields, present⟩
    simp only [properties, List.forall_mem_cons, parameters] at fields present
    obtain ⟨json, held⟩ := Option.isSome_iff_exists.mp present.2.1
    have admitted := fields.2.1 json held
    cases json with
    | object fields => exact ⟨fields, held⟩
    | _ => simp [Schema.admits] at admitted
  · rintro ⟨fields, held⟩
    have duration : Schema.natural.Allows (some (u64Codec.write spec.duration)) :=
      Schema.allows_some.mpr (Schema.admits_natural spec.duration)
    have scenario : (Schema.enumeration
        ["PodKiller", "CpuStress", "NetworkDelay", "EdgeDelay", "EdgeAbort"]).Allows
        (some (scenarioCodec.write spec.scenario)) := by
      refine Schema.allows_some.mpr ?_
      cases spec.scenario <;> decide
    have target : (Schema.nullable Target.schema).Allows (spec.target.map Target.toJson) := by
      cases spec.target with
      | none => exact Schema.allows_none _
      | some target =>
        refine Schema.allows_some.mpr ?_
        rw [Schema.admits, target.admits_toJson, Bool.or_true]
    have kept : Schema.anyObject.Allows spec.parameters := by
      rw [held]
      exact Schema.allows_some.mpr rfl
    refine ⟨⟨_, rfl⟩, ?_, ?_⟩
    · simp only [properties, List.forall_mem_cons, get?_toJson]
      exact ⟨duration, kept, scenario, target, admits_text spec.targetNamespace,
        fun _ absent => absurd absent List.not_mem_nil⟩
    · simp only [List.forall_mem_cons, parameters, held]
      simp only [get?_toJson]
      exact ⟨rfl, rfl, rfl, fun _ absent => absurd absent List.not_mem_nil⟩

end ChaosExperimentSpec

namespace ChaosAnalysisSpec

theorem parse_toJson (spec : ChaosAnalysisSpec) : parse spec.toJson = some spec := by
  have reference : readRequired ExperimentRef.codec spec.toJson "experimentRef" =
      some spec.experimentRef := ExperimentRef.codec.read_write spec.experimentRef trivial
  have direction : readRequired directionCodec.toCodec spec.toJson "degradationDirection" =
      some spec.degradationDirection := directionCodec.read_write spec.degradationDirection trivial
  have criteria : readRequired SuccessCriteria.codec spec.toJson "successCriteria" =
      some spec.maxImpact := SuccessCriteria.codec.read_write spec.maxImpact trivial
  simp only [parse, reference, direction, criteria]
  rfl

theorem admits_toJson (spec : ChaosAnalysisSpec) : schema.admits spec.toJson = true := by
  have direction : (Schema.enumeration ["up", "down"]).admits
      (directionCodec.write spec.degradationDirection) = true := by
    cases spec.degradationDirection <;> decide
  have score : Schema.natural.admits (ValueCodec.u32.write spec.maxImpact) = true :=
    Schema.admits_natural spec.maxImpact.toUInt64
  have fields : schema.admits spec.toJson =
      (((Schema.enumeration ["up", "down"]).admits
          (directionCodec.write spec.degradationDirection) &&
        (ExperimentRef.schema.admits spec.experimentRef.toJson && (true && (true &&
          (((Schema.natural.admits (ValueCodec.u32.write spec.maxImpact) && true) && true) &&
            true))))) && true) := rfl
  rw [fields, direction, score, spec.experimentRef.admits_toJson]
  rfl

end ChaosAnalysisSpec

namespace ChaosImpactMapSpec

theorem parse_toJson (spec : ChaosImpactMapSpec) : parse spec.toJson = some spec := by
  obtain ⟨experimentRef, prometheus, scope, minImpact⟩ := spec
  have read : parse (toJson ⟨experimentRef, prometheus, scope, minImpact⟩) =
      (ExperimentRef.parse experimentRef.toJson).bind fun experimentRef =>
        (RecordField.readOptional ImpactMapScope.codec (scope.map ImpactMapScope.toJson)).bind
          fun scope => (ValueCodec.u32.read (ValueCodec.u32.write minImpact)).bind
            fun minImpact => some ⟨experimentRef, prometheus, scope, minImpact⟩ := by
    cases scope <;> rfl
  have reference : ExperimentRef.parse experimentRef.toJson = some experimentRef :=
    ExperimentRef.codec.read_write experimentRef trivial
  have scopeRead := readOptional_map ImpactMapScope.codec (fun _ => rfl) (fun _ => trivial) scope
  have written : scope.map ImpactMapScope.codec.write = scope.map ImpactMapScope.toJson := rfl
  rw [read, reference, ← written, scopeRead, ValueCodec.u32.read_write minImpact trivial]
  rfl

theorem admits_toJson (spec : ChaosImpactMapSpec) : schema.admits spec.toJson = true := by
  obtain ⟨experimentRef, prometheus, scope, minImpact⟩ := spec
  have score : Schema.natural.admits (ValueCodec.u32.write minImpact) = true :=
    Schema.admits_natural minImpact.toUInt64
  cases scope with
  | none =>
    have fields : schema.admits (toJson ⟨experimentRef, prometheus, none, minImpact⟩) =
        ((ExperimentRef.schema.admits experimentRef.toJson &&
          (Schema.natural.admits (ValueCodec.u32.write minImpact) && true)) && true) := rfl
    rw [fields, experimentRef.admits_toJson, score]
    rfl
  | some scope =>
    have fields : schema.admits (toJson ⟨experimentRef, prometheus, some scope, minImpact⟩) =
        ((ExperimentRef.schema.admits experimentRef.toJson &&
          (Schema.natural.admits (ValueCodec.u32.write minImpact) &&
            (true && (ImpactMapScope.schema.admits scope.toJson && true)))) && true) := rfl
    rw [fields, experimentRef.admits_toJson, score, scope.admits_toJson]
    rfl

end ChaosImpactMapSpec

/-- Every spec is read back as it was written, and it is admitted, but for the parameters of an
experiment: a null counts as none, and the definition wants an object. -/
theorem specs_roundTrip :
    (∀ spec : ChaosExperimentSpec,
      (ChaosExperimentSpec.parse spec.toJson = some spec ↔ spec.parameters ≠ some .null) ∧
        (ChaosExperimentSpec.schema.admits spec.toJson = true ↔
          ∃ fields, spec.parameters = some (.object fields))) ∧
    (∀ spec : ChaosAnalysisSpec, ChaosAnalysisSpec.parse spec.toJson = some spec ∧
      ChaosAnalysisSpec.schema.admits spec.toJson = true) ∧
    ∀ spec : ChaosImpactMapSpec, ChaosImpactMapSpec.parse spec.toJson = some spec ∧
      ChaosImpactMapSpec.schema.admits spec.toJson = true :=
  ⟨fun spec => ⟨spec.parse_toJson_iff, spec.admits_toJson_iff⟩,
    fun spec => ⟨spec.parse_toJson, spec.admits_toJson⟩,
    fun spec => ⟨spec.parse_toJson, spec.admits_toJson⟩⟩

end ChimpChaos
