/-
This file proves which of the documents that the status writes leave are admitted by the custom
resource definitions.

A status of an experiment or an analysis leaves an admitted document, whatever is stored. A
status of an impact map does just when all values of its report are numbers, since a value that
is not finite is written as null where a number has to be.
-/

import ChimpChaos.Operator.Schemas
import ChimpChaos.Proof.ImpactMapStatus
import ChimpChaos.Proof.StaleReads

namespace ChimpChaos

open Library Program Relation

/-! ### Leaves -/

section Leaves

variable {Value : Type}

theorem admits_natural_u32 (value : UInt32) :
    Schema.natural.admits (ValueCodec.u32.write value) = true :=
  Schema.admits_natural value.toUInt64

theorem takes_text (text : Option String) :
    (Schema.nullable .text).Takes (text.map Json.string) :=
  Schema.takes_map (fun _ _ same => by cases same) (fun _ => rfl) text

theorem takes_natural (value : Option UInt32) :
    (Schema.nullable .natural).Takes (scoreField.write value) :=
  Schema.takes_map (fun _ _ same => by cases same) (fun value => by
    rw [Schema.admits, admits_natural_u32, Bool.or_true]) value

/-- A float that is not finite removes what is stored. -/
theorem takes_number (value : Option F64) :
    (Schema.nullable .number).Takes (writeValue value) := by
  refine Schema.takes_map (fun value fields same => ?_) (fun value => ?_) value
  · cases value <;> cases same
  · cases value <;> rfl

end Leaves

/-! ### The status of an experiment -/

theorem Phase.toString_mem (phase : Phase) :
    phase.toString ∈ ["Pending", "Running", "Succeeded", "Failed"] := by
  cases phase <;> decide

theorem AnalysisPhase.toString_mem (phase : AnalysisPhase) :
    phase.toString ∈ ["Pending", "Completed", "Failed"] := by
  cases phase <;> decide

theorem admits_strings (values : List String) :
    (Schema.array .text).admits (.array (values.map Json.string)) = true := by
  rw [Schema.admits, List.all_map, List.all_eq_true]
  exact fun _ _ => rfl

/-- Whatever status is written over an admitted one, or over none, the document is admitted. -/
theorem ChaosExperimentStatus.admits_mergePatch {document : Json}
    (stored : Schema.AllowsDocument ChaosExperimentStatus.properties [] document)
    (written : ChaosExperimentStatus) :
    ChaosExperimentStatus.schema.admits (Json.mergePatch document written.toJson) = true := by
  refine Schema.admits_mergePatch written.entries_distinct stored ?_
    fun _ absent => absurd absent List.not_mem_nil
  have jobs : (Schema.array .text).Takes
      (if written.runnerJobs.isEmpty then none
        else some (.array (written.runnerJobs.map Json.string))) := by
    split_ifs
    · exact Schema.takes_none _
    · exact Schema.takes_some (fun _ same => nomatch same) (admits_strings written.runnerJobs)
  have phase : (Schema.enumeration ["Pending", "Running", "Succeeded", "Failed"]).Takes
      (some (.string written.phase.toString)) :=
    Schema.takes_some (fun _ same => nomatch same)
      (List.contains_iff_mem.mpr written.phase.toString_mem)
  have cleaned : Schema.boolean.Takes (some (.bool written.cleanupDone)) :=
    Schema.takes_some (fun _ same => nomatch same) rfl
  simp only [properties, List.forall_mem_cons]
  exact ⟨cleaned, takes_text written.completedAt, takes_text written.experimentId,
    takes_text written.message, phase, jobs, takes_text written.startedAt,
    fun _ absent => absurd absent List.not_mem_nil⟩

/-- What is stored under a key as an optional text is read. -/
theorem parseString_of_allows {field : Option Json}
    (allowed : (Schema.nullable .text).Allows field) :
    ∃ text, ChaosExperimentStatus.parseString field = some text := by
  cases field with
  | none => exact ⟨none, rfl⟩
  | some json =>
    have admitted := Schema.allows_some.mp allowed
    cases json with
    | null => exact ⟨none, rfl⟩
    | string text => exact ⟨some text, rfl⟩
    | _ => simp [Schema.admits, Json.isNull] at admitted

theorem parsePhase_of_allows {field : Option Json}
    (allowed : (Schema.enumeration ["Pending", "Running", "Succeeded", "Failed"]).Allows field) :
    ∃ phase, ChaosExperimentStatus.parsePhase field = some phase := by
  cases field with
  | none => exact ⟨_, rfl⟩
  | some json =>
    have admitted := Schema.allows_some.mp allowed
    cases json with
    | string text =>
      have member : text ∈ ["Pending", "Running", "Succeeded", "Failed"] :=
        List.contains_iff_mem.mp admitted
      simp only [List.mem_cons, List.not_mem_nil, or_false] at member
      rcases member with rfl | rfl | rfl | rfl <;> exact ⟨_, rfl⟩
    | _ => simp [Schema.admits] at admitted

theorem parseFlag_of_allows {field : Option Json} (allowed : Schema.boolean.Allows field) :
    ∃ flag, ChaosExperimentStatus.parseFlag field = some flag := by
  cases field with
  | none => exact ⟨_, rfl⟩
  | some json =>
    have admitted := Schema.allows_some.mp allowed
    cases json with
    | bool value => exact ⟨value, rfl⟩
    | _ => simp [Schema.admits] at admitted

theorem parseJobs_of_allows {field : Option Json} (allowed : (Schema.array .text).Allows field) :
    ∃ jobs, ChaosExperimentStatus.parseJobs field = some jobs := by
  cases field with
  | none => exact ⟨_, rfl⟩
  | some json =>
    have admitted := Schema.allows_some.mp allowed
    cases json with
    | array items =>
      rw [Schema.admits, List.all_eq_true] at admitted
      show ∃ jobs, items.mapM Json.asStr? = some jobs
      clear allowed
      induction items with
      | nil => exact ⟨[], rfl⟩
      | cons first rest inductionHypothesis =>
        obtain ⟨jobs, reads⟩ :=
          inductionHypothesis fun item member => admitted item (List.mem_cons_of_mem _ member)
        have text := admitted first List.mem_cons_self
        cases first with
        | string name => exact ⟨name :: jobs, by rw [List.mapM_cons, reads]; rfl⟩
        | _ => simp [Schema.admits] at text
    | _ => simp [Schema.admits] at admitted

/-- Every admitted status is read. -/
theorem ChaosExperimentStatus.parse_of_allowed {document : Json}
    (stored : Schema.AllowsDocument ChaosExperimentStatus.properties [] document) :
    ∃ status, ChaosExperimentStatus.parse document = some status := by
  have old : ∀ property ∈ properties, property.2.Allows (document.get? property.1) :=
    fun _ => stored.property
  simp only [properties, List.forall_mem_cons] at old
  obtain ⟨cleaned, completed, id, said, inPhase, listed, started, -⟩ := old
  obtain ⟨cleanupDone, readFlag⟩ := parseFlag_of_allows cleaned
  obtain ⟨completedAt, readCompleted⟩ := parseString_of_allows completed
  obtain ⟨experimentId, readId⟩ := parseString_of_allows id
  obtain ⟨message, readMessage⟩ := parseString_of_allows said
  obtain ⟨phase, readPhase⟩ := parsePhase_of_allows inPhase
  obtain ⟨runnerJobs, readJobs⟩ := parseJobs_of_allows listed
  obtain ⟨startedAt, readStarted⟩ := parseString_of_allows started
  exact ⟨⟨phase, message, startedAt, completedAt, experimentId, runnerJobs, cleanupDone⟩, by
    simp only [parse, readFlag, readCompleted, readId, readMessage, readPhase, readJobs,
      readStarted]
    rfl⟩

/-! ### The status of an analysis -/

theorem ChaosAnalysisStatus.admits_mergePatch {document : Json}
    (stored : Schema.AllowsDocument ChaosAnalysisStatus.properties [] document)
    (written : ChaosAnalysisStatus) :
    ChaosAnalysisStatus.schema.admits (Json.mergePatch document written.toJson) = true := by
  refine Schema.admits_mergePatch written.entries_distinct stored ?_
    fun _ absent => absurd absent List.not_mem_nil
  have phase : (Schema.enumeration ["Pending", "Completed", "Failed"]).Takes
      (analysisPhaseField.write written.phase) :=
    Schema.takes_some (fun _ same => nomatch same)
      (List.contains_iff_mem.mpr written.phase.toString_mem)
  have verdict : (Schema.nullable (.enumeration ["Pass", "Fail"])).Takes
      (verdictField.write written.verdict) := by
    refine Schema.takes_map (fun _ _ same => by cases same) (fun value => ?_) written.verdict
    cases value <;> decide
  simp only [properties, List.forall_mem_cons]
  exact ⟨takes_number written.baselineValue, takes_number written.degradationPercent,
    takes_number written.duringValue, takes_natural written.impactScore,
    takes_text written.message, phase, verdict, fun _ absent => absurd absent List.not_mem_nil⟩

/-! ### The status of an impact map -/

/-- A float is admitted as a number just when it is finite. -/
theorem admits_float (value : F64) :
    Schema.number.admits (ValueCodec.writeFloat value) = value.isFinite := by
  cases value <;> rfl

/-- A metric is admitted just when its values are numbers. -/
theorem MetricImpact.admits_toJson (metric : MetricImpact) :
    MetricImpact.schema.admits metric.toJson = metric.finite := by
  have fields : MetricImpact.schema.admits metric.toJson =
      ((Schema.number.admits (ValueCodec.writeFloat metric.baseline) &&
        (Schema.number.admits (ValueCodec.writeFloat metric.during) &&
          (Schema.natural.admits (ValueCodec.u32.write metric.impactScore) && true))) && true) :=
    rfl
  rw [fields, admits_float, admits_float, admits_natural_u32, Bool.and_true, Bool.and_true,
    Bool.and_true, finite]

theorem ServiceMetrics.admits_toJson (metrics : ServiceMetrics) :
    ServiceMetrics.schema.admits metrics.toJson = metrics.finite := by
  have fields : ServiceMetrics.schema.admits metrics.toJson =
      ((MetricImpact.schema.admits metrics.errorRate.toJson &&
        (MetricImpact.schema.admits metrics.latencyP99.toJson &&
          (MetricImpact.schema.admits metrics.throughput.toJson && true))) && true) := rfl
  rw [fields, MetricImpact.admits_toJson, MetricImpact.admits_toJson, MetricImpact.admits_toJson,
    finite, Bool.and_true, Bool.and_true, ← Bool.and_assoc,
    Bool.and_comm metrics.errorRate.finite]

theorem AffectedService.admits_toJson (service : AffectedService) :
    AffectedService.schema.admits service.toJson = service.metrics.finite := by
  obtain ⟨workload, ns, impactScore, impactType, metrics⟩ := service
  have fields : AffectedService.schema.admits
      (AffectedService.toJson { workload, ns, impactScore, impactType, metrics }) =
      ((Schema.natural.admits (ValueCodec.u32.write impactScore) &&
        (ServiceMetrics.schema.admits metrics.toJson && true)) && true) := by
    cases impactType with
    | none => rfl
    | some impactType => cases impactType <;> rfl
  rw [fields, admits_natural_u32, ServiceMetrics.admits_toJson, Bool.true_and, Bool.and_true,
    Bool.and_true]

/-- The services of a report are taken just when all their values are numbers. -/
theorem takes_services_iff {document : Json}
    (stored : (Schema.array AffectedService.schema).Allows (document.get? "affectedServices"))
    (services : List AffectedService) :
    (Schema.array AffectedService.schema).Allows (Json.patchedValue
        (document.get? "affectedServices") (writeServices services)) ↔
      allFinite services = true := by
  cases services with
  | nil => exact ⟨fun _ => rfl, fun _ => stored⟩
  | cons first rest =>
    have written : writeServices (first :: rest) =
      some (.array ((first :: rest).map AffectedService.toJson)) := rfl
    rw [written, RecordField.patchedValue_array, Schema.allows_some, Schema.admits, List.all_map,
      allFinite]
    refine iff_of_eq (congrArg (· = true) (congrArg (List.all _) (funext fun service => ?_)))
    exact service.admits_toJson

theorem takes_summary (summary : Option ImpactMapSummary) :
    (Schema.nullable ImpactMapSummary.schema).Takes (summaryField.write summary) := by
  cases summary with
  | none => exact Schema.takes_none _
  | some summary =>
    refine Schema.takes_record summary.entries_distinct ?_ ?_
    · have number (value : UInt32) : Schema.natural.Takes (some (ValueCodec.u32.write value)) :=
        Schema.takes_some (fun _ same => nomatch same) (admits_natural_u32 value)
      simp only [ImpactMapSummary.properties, List.forall_mem_cons]
      exact ⟨takes_text summary.message, number summary.totalAffected,
        number summary.totalScanned, fun _ absent => absurd absent List.not_mem_nil⟩
    · simp only [List.forall_mem_cons]
      exact ⟨⟨_, rfl, rfl⟩, ⟨_, rfl, rfl⟩, fun _ absent => absurd absent List.not_mem_nil⟩

/-- What a status of an impact map leaves is admitted just when all values of its report are
numbers. -/
theorem ChaosImpactMapStatus.admits_mergePatch_iff {document : Json}
    (stored : Schema.AllowsDocument ChaosImpactMapStatus.properties [] document)
    (written : ChaosImpactMapStatus) :
    ChaosImpactMapStatus.schema.admits (Json.mergePatch document written.toJson) = true ↔
      allFinite written.affectedServices = true := by
  have phase : (Schema.enumeration ["Pending", "Completed", "Failed"]).Takes
      (analysisPhaseField.write written.phase) :=
    Schema.takes_some (fun _ same => nomatch same)
      (List.contains_iff_mem.mpr written.phase.toString_mem)
  have old : ∀ property ∈ properties, property.2.Allows (document.get? property.1) :=
    fun _ => stored.property
  simp only [properties, List.forall_mem_cons] at old
  obtain ⟨oldServices, oldMessage, oldPhase, oldSummary, -⟩ := old
  have services := takes_services_iff oldServices written.affectedServices
  rw [schema, toJson, Schema.admits_mergePatch_iff document written.entries_distinct]
  refine ⟨fun admitted => services.mp (admitted.1 _ List.mem_cons_self), fun finite =>
    ⟨?_, fun _ absent => absurd absent List.not_mem_nil⟩⟩
  simp only [properties, List.forall_mem_cons]
  exact ⟨services.mpr finite, takes_text written.message _ oldMessage, phase _ oldPhase,
    takes_summary written.summary _ oldSummary, fun _ absent => absurd absent List.not_mem_nil⟩

/-! ### The stored statuses of the experiments -/

/-- The status document of an experiment is one that its definition admits, or none. -/
def ExperimentObject.Described (object : ExperimentObject) : Prop :=
  Schema.AllowsDocument ChaosExperimentStatus.properties [] object.status

theorem ExperimentObject.Described.patchStatus {object : ExperimentObject}
    (described : object.Described) (written : ChaosExperimentStatus) :
    (object.patchStatus written).Described :=
  Or.inr (ChaosExperimentStatus.admits_mergePatch described written)

/-- A rewritten object keeps an admitted status. -/
theorem Rewrites.described {key : ObjectKey} {object object' : ExperimentObject}
    {request : ApiCall} (rewrites : Rewrites key object request object')
    (described : object.Described) : object'.Described := by
  cases rewrites with
  | kept | marked | released => exact described
  | patched status => exact described.patchStatus status

/-- Every version that was ever stored has an admitted status or none. -/
def Watched.Described (watched : Watched) : Prop :=
  watched.Current ∧ ∀ key object, watched.seen key object → object.Described

section Run

variable {deployment : Deployment} {service : Service}

/-- A cluster whose objects are admitted is observed. -/
theorem Watched.Described.observe {watched : Watched} (described : watched.Described)
    {cluster : Cluster}
    (stored : ∀ key object, cluster.experiments.lookup key = some object → object.Described) :
    (watched.observe cluster).Described :=
  ⟨watched.current_observe cluster, fun key object seen =>
    seen.elim (described.2 key object) (stored key object)⟩

theorem Watched.Described.step (within : service.Within) {before after : OperatorPool}
    (described : before.state.Described)
    (step : Pool.Moves (overlapping deployment service) before after) :
    after.state.Described := by
  obtain ⟨event, step⟩ := step
  cases step with
  | launch => exact described
  | call answered =>
    obtain ⟨cluster, served, rfl⟩ := answered
    refine described.observe fun key object' found => ?_
    obtain ⟨object, timestamp, stored, -, rewrites⟩ :=
      (within _ _ _ _ _ served).advance.object key object' found
    have old : ({ object with deletionTimestamp := timestamp } : ExperimentObject).Described :=
      described.2 key object (described.1 key object stored)
    exact rewrites.described old
  | outside moved =>
    obtain ⟨cluster, outside, rfl⟩ := moved
    refine described.observe fun key object' found => ?_
    obtain ⟨object, timestamp, stored, -, rfl⟩ := outside.drift.object key object' found
    exact described.2 key object (described.1 key object stored)

theorem Watched.Described.run (within : service.Within) {before after : OperatorPool}
    (run : ReflTransGen (Pool.Moves (overlapping deployment service)) before after)
    (described : before.state.Described) : after.state.Described := by
  induction run with
  | refl => exact described
  | tail _ step inductionHypothesis => exact inductionHypothesis.step within step

end Run

/-- However the passes of all experiments overlap, on whatever versions they begin and whatever
they are answered: every version that is ever stored can be read, and the definition admits what
any status write makes of it. -/
theorem experimentStatuses_admitted (deployment : Deployment) (initial : Cluster)
    (described : ∀ key object, initial.experiments.lookup key = some object → object.Described)
    (pool : OperatorPool) (reachable : Reachable deployment anyListings initial pool)
    (key : ObjectKey) (object : ExperimentObject) (seen : pool.state.seen key object) :
    (∃ status, ChaosExperimentStatus.parse object.status = some status) ∧
      ∀ written,
        ChaosExperimentStatus.schema.admits (object.patchStatus written).status = true := by
  have start : (idlePool initial).state.Described :=
    ⟨Watched.current_start initial, described⟩
  have old := (start.run anyListings_within reachable).2 key object seen
  exact ⟨ChaosExperimentStatus.parse_of_allowed old,
    fun written => ChaosExperimentStatus.admits_mergePatch old written⟩

/-- The status of an experiment that has ended and is clean. -/
theorem experimentStatuses_admitted_sample : ∃ (object : ExperimentObject) (status : _),
    ChaosExperimentStatus.parse object.status = some status ∧ status.phase = .succeeded ∧
      ∀ written,
        ChaosExperimentStatus.schema.admits (object.patchStatus written).status = true := by
  obtain ⟨pool, reachable, state, -, current⟩ := sample_succeeds
  have ended : (storedStatus sampleKey pool.state.cluster).map
      (fun status => status.phase) = some .succeeded := by
    rw [state]
    decide +kernel
  obtain ⟨status, stored, succeeded⟩ := Option.map_eq_some_iff.mp ended
  obtain ⟨object, found, parsed⟩ := storedStatus_eq_some.mp stored
  have fresh : ∀ key object, (sampleCluster [(sampleKey, sampleEdge)]).experiments.lookup key =
      some object → object.Described := by
    intro key object stored
    have member := mem_of_lookup_sampleCluster stored
    rw [List.mem_singleton] at member
    rw [(Prod.mk.inj member).2]
    exact Or.inl rfl
  exact ⟨object, status, parsed, succeeded, (experimentStatuses_admitted sampleDeployment _ fresh
    pool reachable sampleKey object (current sampleKey object found)).2⟩

/-! ### The stored status of an impact map -/

/-- How the calls of an impact map are answered by a server that refuses a status when its
definition does not admit what it would leave. -/
def ImpactMapAdmission (key : ObjectKey) : (request : ImpactMapCall) → Json →
    ImpactMapAnswer request → Json → Prop
  | .patchImpactMapStatus ns name status, before, answer, after =>
    if (ns, name) = key ∧
        ChaosImpactMapStatus.schema.admits (Json.mergePatch before status.toJson) = false then
      (∃ error, answer = .error error) ∧ after = before
    else PatchAnswered key (ns, name) status.toJson before answer after
  | _, before, _, after => after = before

/-- Passes on an impact map that overlap, each begun with any status of it. -/
def mapping (crates : TimeCrate) (graphClient : Bool) (key : ObjectKey)
    (spec : ReportedImpactMap) :
    Rules Json (Option ChaosImpactMapStatus) ImpactMapCall ImpactMapAnswer OperatorError Unit where
  answers _ := ImpactMapAdmission key
  launches _ status program := program = reconcileImpactMap crates graphClient
    { spec with metadata := { name := some key.2, ns := some key.1 }, status }
  outside before after := after = before

/-- A status document that is admitted, and read as a report whose values are numbers. -/
structure Legible (reread : Rat → Rat) (document : Json) : Prop where
  admitted : Schema.AllowsDocument ChaosImpactMapStatus.properties [] document
  read : ∃ status, ChaosImpactMapStatus.parse reread document = some status ∧
    allFinite status.affectedServices = true

theorem MetricImpact.finite_of_readBack {reread : Rat → Rat} {metric found : MetricImpact}
    (back : metric.readBack reread = some found) : found.finite = true := by
  obtain ⟨baseline, baselineBack, back⟩ := Option.bind_eq_some_iff.mp back
  obtain ⟨during, duringBack, same⟩ := Option.bind_eq_some_iff.mp back
  obtain rfl := Option.some.inj same
  exact Bool.and_eq_true_iff.mpr
    ⟨F64.isFinite_of_readBack baselineBack, F64.isFinite_of_readBack duringBack⟩

theorem ServiceMetrics.finite_of_readBack {reread : Rat → Rat} {metrics found : ServiceMetrics}
    (back : metrics.readBack reread = some found) : found.finite = true := by
  obtain ⟨latencyP99, latencyBack, back⟩ := Option.bind_eq_some_iff.mp back
  obtain ⟨errorRate, errorBack, back⟩ := Option.bind_eq_some_iff.mp back
  obtain ⟨throughput, throughputBack, same⟩ := Option.bind_eq_some_iff.mp back
  obtain rfl := Option.some.inj same
  simp only [finite, MetricImpact.finite_of_readBack latencyBack,
    MetricImpact.finite_of_readBack errorBack, MetricImpact.finite_of_readBack throughputBack,
    Bool.and_true]

/-- What a reader finds are numbers. -/
theorem allFinite_of_readBack {reread : Rat → Rat} {services found : List AffectedService}
    (back : readBackServices reread services = some found) : allFinite found = true := by
  induction services generalizing found with
  | nil =>
    obtain rfl := Option.some.inj back
    rfl
  | cons service rest inductionHypothesis =>
    unfold readBackServices at back
    rw [List.mapM_cons] at back
    obtain ⟨first, firstBack, back⟩ := Option.bind_eq_some_iff.mp back
    obtain ⟨others, othersBack, same⟩ := Option.bind_eq_some_iff.mp back
    obtain rfl := Option.some.inj same
    obtain ⟨metrics, metricsBack, rfl⟩ := Option.map_eq_some_iff.mp firstBack
    exact Bool.and_eq_true_iff.mpr
      ⟨ServiceMetrics.finite_of_readBack metricsBack, inductionHypothesis othersBack⟩

/-- An admitted status keeps the document legible. -/
theorem Legible.patched {reread : Rat → Rat} {document : Json} (legible : Legible reread document)
    {status : ChaosImpactMapStatus} (summarized : summaryField.writable status.summary)
    (admitted : ChaosImpactMapStatus.schema.admits
      (Json.mergePatch document status.toJson) = true) :
    Legible reread (Json.mergePatch document status.toJson) := by
  have finite := (ChaosImpactMapStatus.admits_mergePatch_iff legible.admitted status).mp admitted
  obtain ⟨stored, parsed, storedFinite⟩ := legible.read
  rw [← isSome_readBackServices reread] at finite
  obtain ⟨found, back⟩ := Option.isSome_iff_exists.mp finite
  refine ⟨Or.inr admitted, stored.merge { status with affectedServices := found }, ?_, ?_⟩
  · rw [ChaosImpactMapStatus.parse_mergePatch parsed summarized, ChaosImpactMapStatus.readBack,
      back]
    rfl
  · show allFinite (if found.isEmpty then stored.affectedServices else found) = true
    split_ifs
    · exact storedFinite
    · exact allFinite_of_readBack back

/-- What is known of the passes on an impact map: the document is legible, and each pass writes
what it computes. -/
def mapContract (reread : Rat → Rat) (spec : ReportedImpactMap) (key : ObjectKey) :
    Pool.Contract Json (Option ChaosImpactMapStatus) ImpactMapCall ImpactMapAnswer where
  Global := Legible reread
  Local _ _ _ := True
  allowed status := ImpactMapIssued
    { spec with metadata := { name := some key.2, ns := some key.1 }, status }
  Later _ _ := True

section Mapping

variable {crates : TimeCrate} {reread : Rat → Rat} {graphClient : Bool} {key : ObjectKey}
  {spec : ReportedImpactMap}

theorem Legible.call {impactMap : ReportedImpactMap} {history : ImpactMapHistory}
    {request : ImpactMapCall} {before after : Json} {answer : ImpactMapAnswer request}
    (legible : Legible reread before) (issued : ImpactMapIssued impactMap history request)
    (answered : ImpactMapAdmission key request before answer after) : Legible reread after := by
  cases request with
  | patchImpactMapStatus ns name status =>
    have summarized := (issued.writes ns name status rfl).2.2.summarized
    rw [ImpactMapAdmission] at answered
    split_ifs at answered with refused
    · exact answered.2 ▸ legible
    · rcases answered.after_eq with rfl | rfl
      · exact legible
      · unfold patchedDocument
        split_ifs with addressed
        · refine legible.patched summarized ?_
          exact (Bool.eq_false_or_eq_true _).resolve_right fun no => refused ⟨addressed, no⟩
        · exact legible
  | _ =>
    obtain rfl : after = before := answered
    exact legible

theorem mapping_keeps :
    Pool.Keeps (mapping crates graphClient key spec) (mapContract reread spec key) where
  launch := by
    rintro state status program - rfl
    exact ⟨trivial, reconcileImpactMap_follows crates graphClient _⟩
  call := fun _ _ _ _ _ _ legible _ issued answered =>
    ⟨legible.call issued answered, trivial, trivial⟩
  outside := by
    rintro state after legible rfl
    exact ⟨legible, trivial⟩
  stable := fun _ _ _ _ _ _ => trivial

end Mapping

/-- However passes on an impact map overlap, whatever they are answered and on whatever versions
they begin, against a server that checks what a status would leave: the stored status can always
be read, all its values are numbers, and the server takes just the statuses of which this is
true. -/
theorem impactMapStatus_legible (crates : TimeCrate) (reread : Rat → Rat) (graphClient : Bool)
    (key : ObjectKey) (spec : ReportedImpactMap)
    (pool : Pool Json (Option ChaosImpactMapStatus) ImpactMapCall ImpactMapAnswer OperatorError
      Unit)
    (run : ReflTransGen (Pool.Moves (mapping crates graphClient key spec)) ⟨.null, []⟩ pool) :
    (∃ status, ChaosImpactMapStatus.parse reread pool.state = some status ∧
      allFinite status.affectedServices = true) ∧
    ∀ status : ChaosImpactMapStatus,
      ChaosImpactMapStatus.schema.admits (Json.mergePatch pool.state status.toJson) = true ↔
        allFinite status.affectedServices = true := by
  have start : Pool.Meets (mapContract reread spec key)
      (⟨.null, []⟩ : Pool Json (Option ChaosImpactMapStatus) ImpactMapCall ImpactMapAnswer
        OperatorError Unit) :=
    ⟨⟨Or.inl rfl, default, ChaosImpactMapStatus.parse_null reread, rfl⟩,
      fun _ member => absurd member List.not_mem_nil⟩
  have legible : Legible reread pool.state := (start.run mapping_keeps run).global
  exact ⟨legible.read, ChaosImpactMapStatus.admits_mergePatch_iff legible.admitted⟩

/-- The calls of the sample, answered by a server that checks statuses. -/
def sampleAdmissionServer (request : ImpactMapCall) (document : Json) :
    ImpactMapAnswer request × Json :=
  match request with
  | .patchImpactMapStatus ns name status =>
    if (ns, name) = sampleKey ∧
        ChaosImpactMapStatus.schema.admits (Json.mergePatch document status.toJson) = false then
      (.error (.kube (.api 422 "invalid")), document)
    else (.ok (), patchedDocument sampleKey (ns, name) document status.toJson)
  | request => sampleImpactServer .succeeded request document

theorem sampleAdmissionServer_answers (request : ImpactMapCall) (document : Json) :
    ImpactMapAdmission sampleKey request document (sampleAdmissionServer request document).1
      (sampleAdmissionServer request document).2 := by
  rcases request with _ | _ | (_ | _) | ⟨ns, name, status⟩
  · rfl
  · rfl
  · rfl
  · rfl
  · rw [ImpactMapAdmission, sampleAdmissionServer]
    split_ifs
    · exact ⟨⟨_, rfl⟩, rfl⟩
    · exact Or.inl ⟨rfl, rfl⟩

/-- What a pass on an impact map without a status leaves. -/
def sampleImpactReport : Json :=
  (exec sampleAdmissionServer (reconcileImpactMap sampleTimeCrate true { sampleImpactMap with
    metadata := { name := some sampleKey.2, ns := some sampleKey.1 }, status := none }) .null).2

/-- A report of one service. -/
theorem impactMapStatus_legible_sample : ∃ status,
    ChaosImpactMapStatus.parse id sampleImpactReport = some status ∧ status.phase = .completed ∧
      allFinite status.affectedServices = true := by
  let program := reconcileImpactMap sampleTimeCrate true { sampleImpactMap with
    metadata := { name := some sampleKey.2, ns := some sampleKey.1 }, status := none }
  have reaches := reaches_serving sampleAdmissionServer_answers program .null
  have launched : Pool.Moves (mapping sampleTimeCrate true sampleKey sampleImpactMap)
      ⟨.null, []⟩ ⟨.null, [⟨none, [], program⟩]⟩ := ⟨_, .launch rfl⟩
  have run : ReflTransGen (Pool.Moves (mapping sampleTimeCrate true sampleKey sampleImpactMap))
      ⟨.null, []⟩ ⟨sampleImpactReport, _⟩ := .head launched (Pool.run_thread reaches [] [] [])
  have completed : (ChaosImpactMapStatus.parse id sampleImpactReport).map
      (fun status => status.phase) = some .completed := by decide +kernel
  obtain ⟨status, parsed, phase⟩ := Option.map_eq_some_iff.mp completed
  obtain ⟨⟨status', parsed', finite⟩, -⟩ :=
    impactMapStatus_legible sampleTimeCrate id true sampleKey sampleImpactMap _ run
  obtain rfl := Option.some.inj (parsed.symm.trans parsed')
  exact ⟨status, parsed, phase, finite⟩

end ChimpChaos
