/-
This file models the rest of the impact map reconciler: one pass over one snapshot of a
ChaosImpactMap, as a program, and the status document it keeps.

A pass waits for the experiment to end, queries three metrics before and during it, scores
every service that shows up, and lists the affected ones, with the classification of the
service graph. It ends with at most one status write. The status is written as a merge patch
of its serialization, which skips absent fields and an empty list of services.
-/

import ChimpChaos.Operator.ImpactMap
import ChimpChaos.Operator.Reconciler

namespace ChimpChaos

open Library

/-! ### The status -/

def ImpactType.toString : ImpactType → String
  | .direct => "Direct"
  | .indirect => "Indirect"

def ImpactType.ofString? : String → Option ImpactType
  | "Direct" => some .direct
  | "Indirect" => some .indirect
  | _ => none

@[simp] theorem ImpactType.ofString?_toString (impactType : ImpactType) :
    ofString? impactType.toString = some impactType := by
  cases impactType <;> rfl

structure ImpactMapSummary where
  totalScanned : UInt32
  totalAffected : UInt32
  message : Option String
  deriving DecidableEq, Repr

structure ChaosImpactMapStatus where
  phase : AnalysisPhase := .pending
  summary : Option ImpactMapSummary := none
  affectedServices : List AffectedService := []
  message : Option String := none
  deriving DecidableEq, Repr, Inhabited

/-! ### The documents of its parts -/

/-- Read a field that has to be there. -/
def readRequired {Value : Type} (codec : Codec Value) (json : Json) (key : String) :
    Option Value :=
  (json.get? key).bind codec.read

/-! The floats of a report are read by `reread`, which need not find what was written. -/

namespace MetricImpact

def entries (metric : MetricImpact) : List (String × Option Json) :=
  [("baseline", some (ValueCodec.writeFloat metric.baseline)),
    ("during", some (ValueCodec.writeFloat metric.during)),
    ("impactScore", some (ValueCodec.u32.write metric.impactScore))]

def toJson (metric : MetricImpact) : Json := .object (Json.recordFields metric.entries)

def parse (reread : Rat → Rat) (json : Json) : Option MetricImpact := do
  let baseline ← readRequired (ValueCodec.float reread).toCodec json "baseline"
  let during ← readRequired (ValueCodec.float reread).toCodec json "during"
  let impactScore ← readRequired ValueCodec.u32.toCodec json "impactScore"
  return { baseline, during, impactScore }

/-- Both values are numbers. -/
def finite (metric : MetricImpact) : Bool := metric.baseline.isFinite && metric.during.isFinite

/-- A metric as a reader finds it. -/
def readBack (reread : Rat → Rat) (metric : MetricImpact) : Option MetricImpact := do
  let baseline ← metric.baseline.readBack reread
  let during ← metric.during.readBack reread
  return { metric with baseline, during }

theorem parse_toJson (reread : Rat → Rat) (metric : MetricImpact) :
    parse reread metric.toJson = metric.readBack reread := by
  have read : parse reread metric.toJson =
      (ValueCodec.readFloat reread (ValueCodec.writeFloat metric.baseline)).bind fun baseline =>
        (ValueCodec.readFloat reread (ValueCodec.writeFloat metric.during)).bind fun during =>
          (ValueCodec.u32.read (ValueCodec.u32.write metric.impactScore)).bind fun impactScore =>
            some { baseline, during, impactScore } := rfl
  rw [read, ValueCodec.u32.read_write metric.impactScore trivial,
    ValueCodec.readFloat_writeFloat, ValueCodec.readFloat_writeFloat]
  rfl

/-- A metric can be read just when its values are numbers. -/
theorem isSome_readBack (reread : Rat → Rat) (metric : MetricImpact) :
    (metric.readBack reread).isSome = metric.finite := by
  obtain ⟨baseline, during, impactScore⟩ := metric
  cases baseline <;> cases during <;> rfl

/-- Does a reader find the values that were written? -/
def survives (reread : Rat → Rat) (metric : MetricImpact) : Bool :=
  metric.baseline.survives reread && metric.during.survives reread

theorem readBack_eq_self_iff (reread : Rat → Rat) (metric : MetricImpact) :
    metric.readBack reread = some metric ↔ metric.survives reread = true := by
  unfold survives
  rw [Bool.and_eq_true, ← F64.readBack_eq_self_iff, ← F64.readBack_eq_self_iff]
  obtain ⟨baseline, during, impactScore⟩ := metric
  simp only [readBack]
  cases baseline.readBack reread <;> cases during.readBack reread <;> simp

def codec (reread : Rat → Rat) : Codec MetricImpact where
  write := toJson
  read := parse reread
  writable metric := metric.survives reread = true
  read_write metric survives :=
    (parse_toJson reread metric).trans ((metric.readBack_eq_self_iff reread).mpr survives)

end MetricImpact

namespace ServiceMetrics

def entries (metrics : ServiceMetrics) : List (String × Option Json) :=
  [("errorRate", some metrics.errorRate.toJson), ("latencyP99", some metrics.latencyP99.toJson),
    ("throughput", some metrics.throughput.toJson)]

def toJson (metrics : ServiceMetrics) : Json := .object (Json.recordFields metrics.entries)

def parse (reread : Rat → Rat) (json : Json) : Option ServiceMetrics := do
  let latencyP99 ← readRequired (MetricImpact.codec reread) json "latencyP99"
  let errorRate ← readRequired (MetricImpact.codec reread) json "errorRate"
  let throughput ← readRequired (MetricImpact.codec reread) json "throughput"
  return { latencyP99, errorRate, throughput }

/-- All values are numbers. -/
def finite (metrics : ServiceMetrics) : Bool :=
  metrics.latencyP99.finite && metrics.errorRate.finite && metrics.throughput.finite

/-- The metrics as a reader finds them. -/
def readBack (reread : Rat → Rat) (metrics : ServiceMetrics) : Option ServiceMetrics := do
  let latencyP99 ← metrics.latencyP99.readBack reread
  let errorRate ← metrics.errorRate.readBack reread
  let throughput ← metrics.throughput.readBack reread
  return { latencyP99, errorRate, throughput }

theorem parse_toJson (reread : Rat → Rat) (metrics : ServiceMetrics) :
    parse reread metrics.toJson = metrics.readBack reread := by
  have read : parse reread metrics.toJson =
      (MetricImpact.parse reread metrics.latencyP99.toJson).bind fun latencyP99 =>
        (MetricImpact.parse reread metrics.errorRate.toJson).bind fun errorRate =>
          (MetricImpact.parse reread metrics.throughput.toJson).bind fun throughput =>
            some { latencyP99, errorRate, throughput } := rfl
  rw [read, MetricImpact.parse_toJson, MetricImpact.parse_toJson, MetricImpact.parse_toJson]
  rfl

theorem isSome_readBack (reread : Rat → Rat) (metrics : ServiceMetrics) :
    (metrics.readBack reread).isSome = metrics.finite := by
  unfold finite readBack
  rw [← MetricImpact.isSome_readBack reread, ← MetricImpact.isSome_readBack reread,
    ← MetricImpact.isSome_readBack reread]
  cases metrics.latencyP99.readBack reread <;> cases metrics.errorRate.readBack reread <;>
    cases metrics.throughput.readBack reread <;> rfl

def survives (reread : Rat → Rat) (metrics : ServiceMetrics) : Bool :=
  metrics.latencyP99.survives reread && metrics.errorRate.survives reread &&
    metrics.throughput.survives reread

theorem readBack_eq_self_iff (reread : Rat → Rat) (metrics : ServiceMetrics) :
    metrics.readBack reread = some metrics ↔ metrics.survives reread = true := by
  unfold survives
  rw [Bool.and_eq_true, Bool.and_eq_true, ← MetricImpact.readBack_eq_self_iff,
    ← MetricImpact.readBack_eq_self_iff, ← MetricImpact.readBack_eq_self_iff]
  obtain ⟨latencyP99, errorRate, throughput⟩ := metrics
  simp only [readBack]
  cases latencyP99.readBack reread <;> cases errorRate.readBack reread <;>
    cases throughput.readBack reread <;> simp [and_assoc]

def codec (reread : Rat → Rat) : Codec ServiceMetrics where
  write := toJson
  read := parse reread
  writable metrics := metrics.survives reread = true
  read_write metrics survives :=
    (parse_toJson reread metrics).trans ((metrics.readBack_eq_self_iff reread).mpr survives)

end ServiceMetrics

def impactTypeField : RecordField (Option ImpactType) :=
  .optional (.named ImpactType.toString ImpactType.ofString? ImpactType.ofString?_toString)

namespace AffectedService

def entries (service : AffectedService) : List (String × Option Json) :=
  [("impactScore", some (ValueCodec.u32.write service.impactScore)),
    ("impactType", impactTypeField.write service.impactType),
    ("metrics", some service.metrics.toJson),
    ("namespace", some (.string service.ns)),
    ("workload", some (.string service.workload))]

def toJson (service : AffectedService) : Json := .object (Json.recordFields service.entries)

def parse (reread : Rat → Rat) (json : Json) : Option AffectedService := do
  let workload ← readRequired ValueCodec.string.toCodec json "workload"
  let ns ← readRequired ValueCodec.string.toCodec json "namespace"
  let impactScore ← readRequired ValueCodec.u32.toCodec json "impactScore"
  let impactType ← impactTypeField.read (json.get? "impactType")
  let metrics ← readRequired (ServiceMetrics.codec reread) json "metrics"
  return { workload, ns, impactScore, impactType, metrics }

/-- A service as a reader finds it. -/
def readBack (reread : Rat → Rat) (service : AffectedService) : Option AffectedService :=
  (service.metrics.readBack reread).map fun metrics => { service with metrics }

theorem parse_toJson (reread : Rat → Rat) (service : AffectedService) :
    parse reread service.toJson = service.readBack reread := by
  obtain ⟨workload, ns, impactScore, impactType, metrics⟩ := service
  have read : parse reread (toJson { workload, ns, impactScore, impactType, metrics }) =
      (ValueCodec.u32.read (ValueCodec.u32.write impactScore)).bind fun impactScore =>
        (ServiceMetrics.parse reread metrics.toJson).bind fun metrics =>
          some { workload, ns, impactScore, impactType, metrics } := by
    cases impactType with
    | none => rfl
    | some impactType => cases impactType <;> rfl
  rw [read, ValueCodec.u32.read_write impactScore trivial, ServiceMetrics.parse_toJson, readBack]
  cases metrics.readBack reread <;> rfl

theorem readBack_eq_self_iff (reread : Rat → Rat) (service : AffectedService) :
    service.readBack reread = some service ↔ service.metrics.survives reread = true := by
  rw [← ServiceMetrics.readBack_eq_self_iff]
  obtain ⟨workload, ns, impactScore, impactType, metrics⟩ := service
  simp only [readBack]
  cases metrics.readBack reread <;> simp

def codec (reread : Rat → Rat) : Codec AffectedService where
  write := toJson
  read := parse reread
  writable service := service.metrics.survives reread = true
  read_write service survives :=
    (parse_toJson reread service).trans ((service.readBack_eq_self_iff reread).mpr survives)

end AffectedService

namespace ImpactMapSummary

def entries (summary : ImpactMapSummary) : List (String × Option Json) :=
  [("message", textField.write summary.message),
    ("totalAffected", some (ValueCodec.u32.write summary.totalAffected)),
    ("totalScanned", some (ValueCodec.u32.write summary.totalScanned))]

def toJson (summary : ImpactMapSummary) : Json := .object (Json.recordFields summary.entries)

def parse (json : Json) : Option ImpactMapSummary := do
  let totalScanned ← readRequired ValueCodec.u32.toCodec json "totalScanned"
  let totalAffected ← readRequired ValueCodec.u32.toCodec json "totalAffected"
  let message ← textField.read (json.get? "message")
  return { totalScanned, totalAffected, message }

theorem entries_distinct (summary : ImpactMapSummary) :
    (summary.entries.map Prod.fst).Nodup := by
  simp [entries]

/-- A summary with a message replaces what a merge finds. -/
theorem parse_merged (totalScanned totalAffected : UInt32) (message : String) (old : Json) :
    parse (Json.mergePatch old (toJson { totalScanned, totalAffected, message := some message })) =
      some { totalScanned, totalAffected, message := some message } := by
  have field (key : String) := Json.get?_mergePatch_record old
    (entries { totalScanned, totalAffected, message := some message }) (entries_distinct _) key
  have lookups : ((entries { totalScanned, totalAffected, message := some message }).lookup
        "totalScanned").join = some (ValueCodec.u32.write totalScanned) ∧
      ((entries { totalScanned, totalAffected, message := some message }).lookup
        "totalAffected").join = some (ValueCodec.u32.write totalAffected) ∧
      ((entries { totalScanned, totalAffected, message := some message }).lookup
        "message").join = some (ValueCodec.string.write message) := ⟨rfl, rfl, rfl⟩
  obtain ⟨scanned, affected, said⟩ := lookups
  have number (value : UInt32) (stored : Option Json) :
      (Json.patchedValue stored (some (ValueCodec.u32.write value))).bind ValueCodec.u32.read =
        some value := RecordField.bind_patchedValue .u32 value trivial stored
  have text : textField.read (Json.patchedValue (old.get? "message")
      (some (ValueCodec.string.write message))) = some (some message) :=
    RecordField.readOptional_patchedValue .string message trivial (old.get? "message")
  simp only [parse, readRequired, toJson, field, scanned, affected, said, number, text]
  rfl

end ImpactMapSummary

/-- A summary as a field of a status. It is merged with what is there, so it can be read back
when it has a message. -/
def ImpactMapSummary.codec : ValueCodec ImpactMapSummary where
  write := toJson
  read := parse
  writable summary := summary.message.isSome = true
  present _ _ := rfl
  read_write summary said := by
    obtain ⟨totalScanned, totalAffected, message | message⟩ := summary
    · cases said
    · have read : parse (toJson { totalScanned, totalAffected, message := some message }) =
          (ValueCodec.u32.read (ValueCodec.u32.write totalScanned)).bind fun totalScanned =>
            (ValueCodec.u32.read (ValueCodec.u32.write totalAffected)).bind fun totalAffected =>
              some { totalScanned, totalAffected, message := some message } := rfl
      rw [read, ValueCodec.u32.read_write totalScanned trivial,
        ValueCodec.u32.read_write totalAffected trivial]
      rfl
  read_merged summary said old := by
    obtain ⟨totalScanned, totalAffected, message | message⟩ := summary
    · cases said
    · exact parse_merged totalScanned totalAffected message old

/-! ### The status document -/

def summaryField : RecordField (Option ImpactMapSummary) := .optional ImpactMapSummary.codec

def servicesField (reread : Rat → Rat) : RecordField (List AffectedService) :=
  .list (AffectedService.codec reread)

/-- The services as they are written, which does not depend on their readers. -/
def writeServices (services : List AffectedService) : Option Json :=
  if services.isEmpty then none else some (.array (services.map AffectedService.toJson))

/-- All values of some services are numbers. -/
def allFinite (services : List AffectedService) : Bool :=
  services.all fun service => service.metrics.finite

/-- Some services as a reader finds them. -/
def readBackServices (reread : Rat → Rat) (services : List AffectedService) :
    Option (List AffectedService) :=
  services.mapM (AffectedService.readBack reread)

theorem mapM_parse_toJson (reread : Rat → Rat) (services : List AffectedService) :
    (services.map AffectedService.toJson).mapM (AffectedService.parse reread) =
      readBackServices reread services := by
  unfold readBackServices
  rw [List.mapM_map]
  exact congrArg (fun read => services.mapM read)
    (funext fun service => AffectedService.parse_toJson reread service)

/-- A report can be read just when all its values are numbers. -/
theorem isSome_readBackServices (reread : Rat → Rat) (services : List AffectedService) :
    (readBackServices reread services).isSome = allFinite services := by
  induction services with
  | nil => rfl
  | cons service rest inductionHypothesis =>
    unfold readBackServices allFinite at inductionHypothesis ⊢
    rw [List.mapM_cons, List.all_cons, ← inductionHypothesis,
      ← ServiceMetrics.isSome_readBack reread, AffectedService.readBack]
    cases service.metrics.readBack reread <;>
      cases rest.mapM (AffectedService.readBack reread) <;> rfl

/-- Does a reader find all the values that were written? -/
def allSurvive (reread : Rat → Rat) (services : List AffectedService) : Bool :=
  services.all fun service => service.metrics.survives reread

theorem readBackServices_eq_self_iff (reread : Rat → Rat) (services : List AffectedService) :
    readBackServices reread services = some services ↔ allSurvive reread services = true := by
  induction services with
  | nil => simp [readBackServices, allSurvive]
  | cons service rest inductionHypothesis =>
    unfold readBackServices allSurvive at inductionHypothesis ⊢
    rw [List.mapM_cons, List.all_cons, Bool.and_eq_true, ← inductionHypothesis,
      ← AffectedService.readBack_eq_self_iff]
    cases service.readBack reread <;>
      cases rest.mapM (AffectedService.readBack reread) <;> simp

/-- What a reader finds of a list of services that is merged over a stored one. -/
theorem servicesField_read_patched {reread : Rat → Rat} {old : Option Json}
    {stored : List AffectedService} (parsed : (servicesField reread).read old = some stored)
    (written : List AffectedService) :
    (servicesField reread).read (Json.patchedValue old (writeServices written)) =
      (readBackServices reread written).map fun services =>
        if services.isEmpty then stored else services := by
  cases written with
  | nil => exact parsed
  | cons first rest =>
    show RecordField.readList (AffectedService.codec reread)
      (Json.patchedValue old (some (.array _))) = _
    rw [RecordField.patchedValue_array]
    show (List.map AffectedService.toJson (first :: rest)).mapM (AffectedService.parse reread) = _
    rw [mapM_parse_toJson, readBackServices, List.mapM_cons]
    cases first.readBack reread <;> cases rest.mapM (AffectedService.readBack reread) <;> rfl

namespace ChaosImpactMapStatus

/-- The fields of a serialized status, in key order. -/
def entries (status : ChaosImpactMapStatus) : List (String × Option Json) :=
  [("affectedServices", writeServices status.affectedServices),
    ("message", textField.write status.message),
    ("phase", analysisPhaseField.write status.phase),
    ("summary", summaryField.write status.summary)]

def toJson (status : ChaosImpactMapStatus) : Json := .object (Json.recordFields status.entries)

/-- Parse the fields of a status. Unknown fields are ignored. -/
def parse (reread : Rat → Rat) (value : Json) : Option ChaosImpactMapStatus := do
  let phase ← analysisPhaseField.read (value.get? "phase")
  let summary ← summaryField.read (value.get? "summary")
  let affectedServices ← (servicesField reread).read (value.get? "affectedServices")
  let message ← textField.read (value.get? "message")
  return { phase, summary, affectedServices, message }

/-- The status a reader finds after `written` is merged into `stored`. -/
def merge (stored written : ChaosImpactMapStatus) : ChaosImpactMapStatus where
  phase := written.phase
  summary := written.summary.or stored.summary
  affectedServices :=
    if written.affectedServices.isEmpty then stored.affectedServices else written.affectedServices
  message := written.message.or stored.message

theorem entries_distinct (status : ChaosImpactMapStatus) :
    (status.entries.map Prod.fst).Nodup := by
  simp [entries]

/-- What the fields of a patched document read. -/
theorem get?_mergePatch (document : Json) (written : ChaosImpactMapStatus) :
    let patched := Json.mergePatch document written.toJson
    patched.get? "phase" =
        Json.patchedValue (document.get? "phase") (analysisPhaseField.write written.phase) ∧
      patched.get? "summary" =
        Json.patchedValue (document.get? "summary") (summaryField.write written.summary) ∧
      patched.get? "affectedServices" = Json.patchedValue (document.get? "affectedServices")
        (writeServices written.affectedServices) ∧
      patched.get? "message" =
        Json.patchedValue (document.get? "message") (textField.write written.message) := by
  have field (key : String) := Json.get?_mergePatch_record document written.entries
    written.entries_distinct key
  exact ⟨field "phase", field "summary", field "affectedServices", field "message"⟩

/-- A status as a reader finds it: its values are read back. -/
def readBack (reread : Rat → Rat) (status : ChaosImpactMapStatus) : Option ChaosImpactMapStatus :=
  (readBackServices reread status.affectedServices).map fun affectedServices =>
    { status with affectedServices }

/-- Patching a stored document with a serialized status and parsing the result is merging
what a reader finds of it into the stored one; it cannot be parsed when some value is not a
number. -/
theorem parse_mergePatch {reread : Rat → Rat} {document : Json} {stored : ChaosImpactMapStatus}
    (parsed : parse reread document = some stored) {written : ChaosImpactMapStatus}
    (summarized : summaryField.writable written.summary) :
    parse reread (Json.mergePatch document written.toJson) =
      (written.readBack reread).map stored.merge := by
  simp only [parse, Option.bind_eq_bind, Option.bind_eq_some_iff, Option.pure_def,
    Option.some.injEq] at parsed
  obtain ⟨phase, phaseParsed, summary, summaryParsed, services, servicesParsed, message,
    messageParsed, rfl⟩ := parsed
  obtain ⟨phaseRead, summaryRead, servicesRead, messageRead⟩ := get?_mergePatch document written
  rw [parse, phaseRead, summaryRead, servicesRead, messageRead,
    analysisPhaseField.read_patched _ _ _ trivial phaseParsed,
    summaryField.read_patched _ _ _ summarized summaryParsed,
    servicesField_read_patched servicesParsed,
    textField.read_patched _ _ _ (fun _ _ => trivial) messageParsed, readBack]
  cases readBackServices reread written.affectedServices <;> rfl

/-- A document without a status parses as the default one. -/
@[simp] theorem parse_null (reread : Rat → Rat) : parse reread .null = some default := rfl

end ChaosImpactMapStatus

/-! ### Time windows -/

structure TimeWindows where
  baselineTime : String
  baselineRateWindow : String
  chaosTime : String
  chaosRateWindow : String
  deriving DecidableEq, Repr

/-- The times of the queries, and the windows over which they take rates. -/
def calculateTimeWindows (crates : TimeCrate) (startedAt completedAt baselineWindow : String) :
    Except OperatorError TimeWindows := do
  let baselineSecs ← required ("invalid baselineWindow: " ++ baselineWindow)
    (parseDurationStr baselineWindow)
  let started ← parseTime crates "startedAt" startedAt
  let completed ← parseTime crates "completedAt" completedAt
  let durationSecs := max (numSeconds (completed.instant - started.instant)) 1
  return {
    baselineTime := crates.toRfc3339 started
    baselineRateWindow := toString baselineSecs ++ "s"
    chaosTime := crates.toRfc3339 completed
    chaosRateWindow := toString durationSecs ++ "s" }

/-! ### Queries -/

def buildNamespaceFilter (namespaces : List String) : String :=
  if namespaces.isEmpty then ""
  else "destination_workload_namespace=~\"" ++ "|".intercalate namespaces ++ "\""

def labelFilter (nsFilter : String) : String :=
  if nsFilter.isEmpty then "" else "\x7b" ++ nsFilter ++ "\x7d"

def labelFilterWithExtra (nsFilter extra : String) : String :=
  if nsFilter.isEmpty then "\x7b" ++ extra ++ "\x7d"
  else "\x7b" ++ extra ++ "," ++ nsFilter ++ "\x7d"

def buildLatencyQuery (nsFilter rateWindow : String) : String :=
  "histogram_quantile(0.99, sum by (destination_workload, destination_workload_namespace, le) " ++
    "(rate(istio_request_duration_milliseconds_bucket" ++ labelFilter nsFilter ++ "[" ++
    rateWindow ++ "])))"

/-- The rate of the requests that pass a filter, by workload. -/
def requestRate (filter rateWindow : String) : String :=
  "sum by (destination_workload, destination_workload_namespace) (rate(istio_requests_total" ++
    filter ++ "[" ++ rateWindow ++ "]))"

def buildErrorRateQuery (nsFilter rateWindow : String) : String :=
  requestRate (labelFilterWithExtra nsFilter "response_code=~\"5..\"") rateWindow ++ " / " ++
    requestRate (labelFilter nsFilter) rateWindow

def buildThroughputQuery (nsFilter rateWindow : String) : String :=
  requestRate (labelFilter nsFilter) rateWindow

/-! ### Scores -/

/-- A metric of every workload, before and during the experiment. -/
structure MetricPair where
  baseline : Store ServiceKey F64
  during : Store ServiceKey F64

structure MetricsSnapshot where
  latency : MetricPair
  errorRate : MetricPair
  throughput : MetricPair

/-- The order in which services are listed: by workload, then by namespace. -/
def ServiceKey.before (first second : ServiceKey) : Bool :=
  first.workload < second.workload ||
    (first.workload == second.workload && (first.ns < second.ns || first.ns == second.ns))

/-- Every workload that some metric has a value for. -/
def discoverServices (metrics : MetricsSnapshot) : List ServiceKey :=
  ([metrics.latency.baseline, metrics.latency.during, metrics.errorRate.baseline,
    metrics.errorRate.during, metrics.throughput.baseline,
    metrics.throughput.during].flatMap AList.keys).dedup.mergeSort ServiceKey.before

def scoreMetric (pair : MetricPair) (svc : ServiceKey) (direction : DegradationDirection) :
    MetricImpact :=
  let baseline := (pair.baseline.lookup svc).getD .zero
  let during := (pair.during.lookup svc).getD .zero
  { baseline, during, impactScore := (calculateImpact baseline during direction 100).1 }

/-- The score of an error rate, which counts by itself when there were no errors before. -/
def scoreErrorRate (pair : MetricPair) (svc : ServiceKey) : MetricImpact :=
  let baseline := (pair.baseline.lookup svc).getD .zero
  let during := (pair.during.lookup svc).getD .zero
  let impactScore :=
    if baseline = .zero then min (during.multiply (.finite 100)).roundToU32 100
    else (calculateImpact baseline during .up 100).1
  { baseline, during, impactScore }

/-- A service with its score, when the score reaches the threshold. -/
def affectedService (metrics : MetricsSnapshot) (minImpact : UInt32) (svc : ServiceKey) :
    Option AffectedService :=
  let lat := scoreMetric metrics.latency svc .up
  let err := scoreErrorRate metrics.errorRate svc
  let thr := scoreMetric metrics.throughput svc .down
  let impact := (lat.impactScore + err.impactScore + thr.impactScore) / 3
  if minImpact ≤ impact then
    some {
      workload := svc.workload
      ns := svc.ns
      impactScore := impact
      impactType := none
      metrics := { latencyP99 := lat, errorRate := err, throughput := thr } }
  else none

/-- How many services were scored, and the affected ones, the most affected first. -/
def computeAffectedServices (metrics : MetricsSnapshot) (minImpact : UInt32) :
    UInt32 × List AffectedService :=
  let allServices := discoverServices metrics
  (UInt32.ofNat allServices.length,
    (allServices.filterMap (affectedService metrics minImpact)).mergeSort fun first second =>
      second.impactScore ≤ first.impactScore)

/-! ### Status builders -/

def buildCompletedStatus (totalScanned : UInt32) (affected : List AffectedService) :
    ChaosImpactMapStatus :=
  let totalAffected := UInt32.ofNat affected.length
  let highest := affected.head?.map fun service =>
    " Highest impact: " ++ service.workload ++ " (" ++ toString service.impactScore ++ "/100)"
  let message := toString totalAffected ++ " of " ++ toString totalScanned ++
    " services affected." ++ highest.getD ""
  { phase := .completed
    summary := some { totalScanned, totalAffected, message := some message }
    affectedServices := affected
    message := none }

def buildPendingStatus (message : String) : ChaosImpactMapStatus where
  phase := .pending
  message := some message

def buildFailedStatus (message : String) : ChaosImpactMapStatus where
  phase := .failed
  message := some message

/-! ### The calls of a pass -/

structure ImpactMapScope where
  namespaces : List String
  deriving DecidableEq, Repr

/-- An impact map with the rest of its spec and its status. -/
structure ReportedImpactMap extends ChaosImpactMap where
  prometheus : PrometheusConfig
  scope : Option ImpactMapScope
  minImpact : UInt32
  status : Option ChaosImpactMapStatus
  deriving Repr

/-- The calls of an impact map: the Kubernetes client, Prometheus, and those of the
classification. -/
inductive ImpactMapCall where
  | getExperimentStatus (ns name : String)
  | queryVectorAt (promql time : String)
  | classification (request : ImpactCall)
  | patchImpactMapStatus (ns name : String) (status : ChaosImpactMapStatus)
  deriving Repr

@[reducible] def ImpactMapAnswer : ImpactMapCall → Type
  | .getExperimentStatus .. => Except OperatorError ChaosExperimentStatus
  | .queryVectorAt .. => Except OperatorError (Store ServiceKey F64)
  | .classification request => ImpactAnswer request
  | .patchImpactMapStatus .. => Except OperatorError Unit

abbrev ImpactMapHandler (Value : Type) : Type :=
  Program ImpactMapCall ImpactMapAnswer OperatorError Value

def impactMapCall (request : ImpactMapCall) : ImpactMapHandler (ImpactMapAnswer request) :=
  Program.request request

/-! ### The pass -/

inductive ExperimentReadiness where
  | ready (startedAt completedAt : String)
  | waiting (message : String)
  | notFound (message : String)
  deriving DecidableEq, Repr

def checkExperimentReadiness (status : ChaosExperimentStatus) : ExperimentReadiness :=
  if status.phase.isTerminal then
    match status.startedAt, status.completedAt with
    | some startedAt, some completedAt => .ready startedAt completedAt
    | _, _ => .notFound "experiment has no startedAt/completedAt"
  else
    .waiting ("Waiting for experiment to complete (phase: " ++ status.phase.toString ++ ")")

/-- One metric, at the time before and at the time during the experiment. -/
def queryMetricPair (nsFilter : String) (windows : TimeWindows)
    (buildQuery : String → String → String) :
    ImpactMapHandler (Except OperatorError MetricPair) := do
  match ← impactMapCall (.queryVectorAt (buildQuery nsFilter windows.baselineRateWindow)
      windows.baselineTime) with
  | .error error => return .error error
  | .ok baseline =>
    match ← impactMapCall (.queryVectorAt (buildQuery nsFilter windows.chaosRateWindow)
        windows.chaosTime) with
    | .error error => return .error error
    | .ok during => return .ok { baseline, during }

/-- The three metrics, or the message of the first failure. -/
def queryAllMetrics (impactMap : ReportedImpactMap) (windows : TimeWindows) :
    ImpactMapHandler (Except String MetricsSnapshot) := do
  let nsFilter := (impactMap.scope.map fun scope =>
    buildNamespaceFilter scope.namespaces).getD ""
  match ← queryMetricPair nsFilter windows buildLatencyQuery with
  | .error error => return .error ("latency query failed: " ++ error.toString)
  | .ok latency =>
    match ← queryMetricPair nsFilter windows buildErrorRateQuery with
    | .error error => return .error ("error rate query failed: " ++ error.toString)
    | .ok errorRate =>
      match ← queryMetricPair nsFilter windows buildThroughputQuery with
      | .error error => return .error ("throughput query failed: " ++ error.toString)
      | .ok throughput => return .ok { latency, errorRate, throughput }

def impactMapName (impactMap : ReportedImpactMap) : String :=
  impactMap.metadata.name.getD "unknown"

def patchImpactMapStatus (impactMap : ReportedImpactMap) (status : ChaosImpactMapStatus) :
    ImpactMapHandler Unit := do
  Program.ofExcept (← impactMapCall (.patchImpactMapStatus
    (impactMapNamespace impactMap.toChaosImpactMap) (impactMapName impactMap) status))

/-- Score the services, classify them and write the report. -/
def reportImpact (graphClient : Bool) (impactMap : ReportedImpactMap)
    (metrics : MetricsSnapshot) : ImpactMapHandler Unit := do
  let (totalScanned, affected) := computeAffectedServices metrics impactMap.minImpact
  let classified ← (classifyAffected impactMap.toChaosImpactMap graphClient affected).inject
    ImpactMapCall.classification fun _ answer => answer
  patchImpactMapStatus impactMap (buildCompletedStatus totalScanned classified)

/-- Query the metrics of an experiment that has ended, and report. -/
def assessImpact (crates : TimeCrate) (graphClient : Bool) (impactMap : ReportedImpactMap)
    (expStatus : ChaosExperimentStatus) : ImpactMapHandler Unit :=
  match checkExperimentReadiness expStatus with
  | .waiting message => patchImpactMapStatus impactMap (buildPendingStatus message)
  | .notFound message => patchImpactMapStatus impactMap (buildFailedStatus message)
  | .ready startedAt completedAt => do
    let windows ← Program.ofExcept
      (calculateTimeWindows crates startedAt completedAt impactMap.prometheus.baselineWindow)
    match ← queryAllMetrics impactMap windows with
    | .error message => patchImpactMapStatus impactMap (buildFailedStatus message)
    | .ok metrics => reportImpact graphClient impactMap metrics

def isCompleted (impactMap : ReportedImpactMap) : Bool :=
  (impactMap.status.map fun status => decide (status.phase = .completed)).getD false

def reconcileImpactMap (crates : TimeCrate) (graphClient : Bool)
    (impactMap : ReportedImpactMap) : ImpactMapHandler Unit := do
  if isCompleted impactMap then return ()
  else
    let (expNs, expName) := referredExperiment impactMap.toChaosImpactMap
    match ← impactMapCall (.getExperimentStatus expNs expName) with
    | .error error =>
      patchImpactMapStatus impactMap
        (buildFailedStatus ("cannot get experiment '" ++ expName ++ "': " ++ error.toString))
    | .ok expStatus => assessImpact crates graphClient impactMap expStatus

end ChimpChaos
