/-
This file holds the schemas of the custom resource definitions, and how the operator reads the
specs they describe.

The definitions describe the spec and the status of each resource. The API server admits an
object against them; the operator then reads its spec with the readers of its own types, for
which an integer has to be written as one and to fit its type. The schemas tell what is
admitted only: that the server drops unknown fields and fills in defaults is left out.
-/

import ChimpChaos.Library.Schema
import ChimpChaos.Operator.ImpactReport
import ChimpChaos.Runner.Config

namespace ChimpChaos

open Library

/-! ### The parts of a spec -/

def u64Codec : Codec UInt64 where
  write value := .number (.posInt value)
  read := Json.asU64?
  writable _ := True
  read_write _ _ := rfl

/-- Any value is kept as it is. -/
def anyCodec : Codec Json where
  write := id
  read := some
  writable value := value.isNull = false
  read_write _ _ := rfl

namespace DegradationDirection

def toString : DegradationDirection → String
  | .up => "up"
  | .down => "down"

def ofString? : String → Option DegradationDirection
  | "up" => some .up
  | "down" => some .down
  | _ => none

@[simp] theorem ofString?_toString (direction : DegradationDirection) :
    ofString? direction.toString = some direction := by
  cases direction <;> rfl

end DegradationDirection

def scenarioCodec : ValueCodec ScenarioType :=
  .named ScenarioType.toString ScenarioType.ofString? ScenarioType.ofString?_toString

def directionCodec : ValueCodec DegradationDirection :=
  .named DegradationDirection.toString DegradationDirection.ofString?
    DegradationDirection.ofString?_toString

namespace EdgeTarget

def properties : List (String × Schema) :=
  [("destinationService", .text), ("sourceService", .text)]

def schema : Schema := .object properties ["destinationService", "sourceService"]

def toJson (edge : EdgeTarget) : Json :=
  .object [("destinationService", .string edge.destinationService),
    ("sourceService", .string edge.sourceService)]

def parse (json : Json) : Option EdgeTarget := do
  let sourceService ← readRequired ValueCodec.string.toCodec json "sourceService"
  let destinationService ← readRequired ValueCodec.string.toCodec json "destinationService"
  return { sourceService, destinationService }

def codec : Codec EdgeTarget where
  write := toJson
  read := parse
  writable _ := True
  read_write _ _ := rfl

end EdgeTarget

namespace Target

def properties : List (String × Schema) :=
  [("edge", .nullable EdgeTarget.schema), ("namespace", .nullable .text)]

def schema : Schema := .object properties []

/-- Absent fields are written as null. -/
def toJson (target : Target) : Json :=
  .object [("edge", (target.edge.map EdgeTarget.toJson).getD .null),
    ("namespace", (target.ns.map Json.string).getD .null)]

def parse (json : Json) : Option Target := do
  let ns ← RecordField.readOptional ValueCodec.string.toCodec (json.get? "namespace")
  let edge ← RecordField.readOptional EdgeTarget.codec (json.get? "edge")
  return { ns, edge }

def codec : Codec Target where
  write := toJson
  read := parse
  writable _ := True
  read_write target _ := by
    obtain ⟨ns, edge⟩ := target
    cases ns <;> cases edge <;> rfl

end Target

namespace ExperimentRef

def properties : List (String × Schema) := [("name", .text), ("namespace", .nullable .text)]

def schema : Schema := .object properties ["name"]

def toJson (reference : ExperimentRef) : Json :=
  .object (Json.recordFields [("name", some (.string reference.name)),
    ("namespace", reference.ns.map Json.string)])

def parse (json : Json) : Option ExperimentRef := do
  let name ← readRequired ValueCodec.string.toCodec json "name"
  let ns ← RecordField.readOptional ValueCodec.string.toCodec (json.get? "namespace")
  return { name, ns }

def codec : Codec ExperimentRef where
  write := toJson
  read := parse
  writable _ := True
  read_write reference _ := by
    obtain ⟨name, ns⟩ := reference
    cases ns <;> rfl

end ExperimentRef

namespace PrometheusConfig

def properties : List (String × Schema) := [("baselineWindow", .text), ("url", .text)]

def schema : Schema := .object properties ["baselineWindow", "url"]

def toJson (config : PrometheusConfig) : Json :=
  .object [("baselineWindow", .string config.baselineWindow), ("url", .string config.url)]

def parse (json : Json) : Option PrometheusConfig := do
  let url ← readRequired ValueCodec.string.toCodec json "url"
  let baselineWindow ← readRequired ValueCodec.string.toCodec json "baselineWindow"
  return { url, baselineWindow }

def codec : Codec PrometheusConfig where
  write := toJson
  read := parse
  writable _ := True
  read_write _ _ := rfl

end PrometheusConfig

namespace SuccessCriteria

def properties : List (String × Schema) := [("maxImpact", .natural)]

def schema : Schema := .object properties ["maxImpact"]

def toJson (maxImpact : UInt32) : Json :=
  .object [("maxImpact", ValueCodec.u32.write maxImpact)]

def parse (json : Json) : Option UInt32 :=
  readRequired ValueCodec.u32.toCodec json "maxImpact"

/-- The criteria are the greatest impact. -/
def codec : Codec UInt32 where
  write := toJson
  read := parse
  writable _ := True
  read_write value _ := ValueCodec.u32.read_write value trivial

end SuccessCriteria

namespace ImpactMapScope

def properties : List (String × Schema) := [("namespaces", .array .text)]

def schema : Schema := .object properties []

def namespacesField : RecordField (List String) := .list ValueCodec.string.toCodec

def toJson (scope : ImpactMapScope) : Json :=
  .object (Json.recordFields [("namespaces", namespacesField.write scope.namespaces)])

def parse (json : Json) : Option ImpactMapScope := do
  let namespaces ← namespacesField.read (json.get? "namespaces")
  return { namespaces }

def codec : Codec ImpactMapScope where
  write := toJson
  read := parse
  writable _ := True
  read_write scope _ := by
    obtain ⟨namespaces⟩ := scope
    have read : parse (toJson ⟨namespaces⟩) =
        (namespacesField.read (namespacesField.write namespaces)).bind fun namespaces =>
          some ⟨namespaces⟩ := by
      cases namespaces <;> rfl
    rw [read, namespacesField.read_write namespaces fun _ _ => trivial]
    rfl

end ImpactMapScope

/-! ### The specs -/

namespace ChaosExperimentSpec

def properties : List (String × Schema) :=
  [("duration", .natural), ("parameters", .anyObject),
    ("scenario", .enumeration ["PodKiller", "CpuStress", "NetworkDelay", "EdgeDelay", "EdgeAbort"]),
    ("target", .nullable Target.schema), ("targetNamespace", .nullable .text)]

def schema : Schema := .object properties ["duration", "parameters", "scenario"]

def entries (spec : ChaosExperimentSpec) : List (String × Option Json) :=
  [("duration", some (u64Codec.write spec.duration)), ("parameters", spec.parameters),
    ("scenario", some (scenarioCodec.write spec.scenario)),
    ("target", spec.target.map Target.toJson),
    ("targetNamespace", spec.targetNamespace.map Json.string)]

def toJson (spec : ChaosExperimentSpec) : Json := .object (Json.recordFields spec.entries)

def parse (json : Json) : Option ChaosExperimentSpec := do
  let scenario ← readRequired scenarioCodec.toCodec json "scenario"
  let duration ← readRequired u64Codec json "duration"
  let targetNamespace ←
    RecordField.readOptional ValueCodec.string.toCodec (json.get? "targetNamespace")
  let target ← RecordField.readOptional Target.codec (json.get? "target")
  let parameters ← RecordField.readOptional anyCodec (json.get? "parameters")
  return { scenario, duration, targetNamespace, target, parameters }

end ChaosExperimentSpec

namespace ChaosAnalysisSpec

def properties : List (String × Schema) :=
  [("degradationDirection", .enumeration ["up", "down"]), ("experimentRef", ExperimentRef.schema),
    ("prometheus", PrometheusConfig.schema), ("query", .text),
    ("successCriteria", SuccessCriteria.schema)]

def schema : Schema := .object properties
  ["degradationDirection", "experimentRef", "prometheus", "query", "successCriteria"]

def toJson (spec : ChaosAnalysisSpec) : Json :=
  .object [("degradationDirection", directionCodec.write spec.degradationDirection),
    ("experimentRef", spec.experimentRef.toJson), ("prometheus", spec.prometheus.toJson),
    ("query", .string spec.query), ("successCriteria", SuccessCriteria.toJson spec.maxImpact)]

def parse (json : Json) : Option ChaosAnalysisSpec := do
  let experimentRef ← readRequired ExperimentRef.codec json "experimentRef"
  let prometheus ← readRequired PrometheusConfig.codec json "prometheus"
  let query ← readRequired ValueCodec.string.toCodec json "query"
  let degradationDirection ← readRequired directionCodec.toCodec json "degradationDirection"
  let maxImpact ← readRequired SuccessCriteria.codec json "successCriteria"
  return { experimentRef, prometheus, query, degradationDirection, maxImpact }

end ChaosAnalysisSpec

def defaultMinImpact : UInt32 := 5

structure ChaosImpactMapSpec where
  experimentRef : ExperimentRef
  prometheus : PrometheusConfig
  scope : Option ImpactMapScope
  minImpact : UInt32
  deriving DecidableEq, Repr

namespace ChaosImpactMapSpec

def properties : List (String × Schema) :=
  [("experimentRef", ExperimentRef.schema), ("minImpact", .natural),
    ("prometheus", PrometheusConfig.schema), ("scope", .nullable ImpactMapScope.schema)]

def schema : Schema := .object properties ["experimentRef", "prometheus"]

def minImpactField : RecordField UInt32 := .plain .u32 (some defaultMinImpact)

def entries (spec : ChaosImpactMapSpec) : List (String × Option Json) :=
  [("experimentRef", some spec.experimentRef.toJson),
    ("minImpact", minImpactField.write spec.minImpact),
    ("prometheus", some spec.prometheus.toJson), ("scope", spec.scope.map ImpactMapScope.toJson)]

def toJson (spec : ChaosImpactMapSpec) : Json := .object (Json.recordFields spec.entries)

def parse (json : Json) : Option ChaosImpactMapSpec := do
  let experimentRef ← readRequired ExperimentRef.codec json "experimentRef"
  let prometheus ← readRequired PrometheusConfig.codec json "prometheus"
  let scope ← RecordField.readOptional ImpactMapScope.codec (json.get? "scope")
  let minImpact ← minImpactField.read (json.get? "minImpact")
  return { experimentRef, prometheus, scope, minImpact }

end ChaosImpactMapSpec

/-! ### The statuses -/

namespace ChaosExperimentStatus

def properties : List (String × Schema) :=
  [("cleanupDone", .boolean), ("completedAt", .nullable .text), ("experimentId", .nullable .text),
    ("message", .nullable .text),
    ("phase", .enumeration ["Pending", "Running", "Succeeded", "Failed"]),
    ("runnerJobs", .array .text), ("startedAt", .nullable .text)]

def schema : Schema := .object properties []

end ChaosExperimentStatus

namespace ChaosAnalysisStatus

def properties : List (String × Schema) :=
  [("baselineValue", .nullable .number), ("degradationPercent", .nullable .number),
    ("duringValue", .nullable .number), ("impactScore", .nullable .natural),
    ("message", .nullable .text), ("phase", .enumeration ["Pending", "Completed", "Failed"]),
    ("verdict", .nullable (.enumeration ["Pass", "Fail"]))]

def schema : Schema := .object properties []

end ChaosAnalysisStatus

namespace MetricImpact

def properties : List (String × Schema) :=
  [("baseline", .number), ("during", .number), ("impactScore", .natural)]

def schema : Schema := .object properties ["baseline", "during", "impactScore"]

end MetricImpact

namespace ServiceMetrics

def properties : List (String × Schema) :=
  [("errorRate", MetricImpact.schema), ("latencyP99", MetricImpact.schema),
    ("throughput", MetricImpact.schema)]

def schema : Schema := .object properties ["errorRate", "latencyP99", "throughput"]

end ServiceMetrics

namespace AffectedService

def properties : List (String × Schema) :=
  [("impactScore", .natural), ("impactType", .nullable (.enumeration ["Direct", "Indirect"])),
    ("metrics", ServiceMetrics.schema), ("namespace", .text), ("workload", .text)]

def schema : Schema := .object properties ["impactScore", "metrics", "namespace", "workload"]

end AffectedService

namespace ImpactMapSummary

def properties : List (String × Schema) :=
  [("message", .nullable .text), ("totalAffected", .natural), ("totalScanned", .natural)]

def schema : Schema := .object properties ["totalAffected", "totalScanned"]

end ImpactMapSummary

namespace ChaosImpactMapStatus

def properties : List (String × Schema) :=
  [("affectedServices", .array AffectedService.schema), ("message", .nullable .text),
    ("phase", .enumeration ["Pending", "Completed", "Failed"]),
    ("summary", .nullable ImpactMapSummary.schema)]

def schema : Schema := .object properties []

end ChaosImpactMapStatus

end ChimpChaos
