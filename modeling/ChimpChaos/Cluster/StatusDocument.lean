/-
This file puts the two reconcilers that only report into the cluster: each keeps one status
document up to date.

The document is null when there is no status. A status write is stored as the merge patch of
the serialized status; it may fail, with or without having taken effect. Everything a pass
reads may be answered by anything, and differently in every pass. `reread` is the number a
reader makes of the printed text of a float.
-/

import ChimpChaos.Cluster.Pass
import ChimpChaos.Library.Controller
import ChimpChaos.Operator.ImpactReport

namespace ChimpChaos

open Library

/-- The document after a merge patch that is addressed to some object. -/
def patchedDocument (key target : ObjectKey) (document patch : Json) : Json :=
  if target = key then Json.mergePatch document patch else document

/-- How a status write is answered. -/
def PatchAnswered (key target : ObjectKey) (patch before : Json)
    (answer : Except OperatorError Unit) (after : Json) : Prop :=
  (answer = .ok () ∧ after = patchedDocument key target before patch) ∨
    ∃ error, answer = .error error ∧
      (after = before ∨ after = patchedDocument key target before patch)

theorem PatchAnswered.after_eq {key target : ObjectKey} {patch before after : Json}
    {answer : Except OperatorError Unit}
    (answered : PatchAnswered key target patch before answer after) :
    after = before ∨ after = patchedDocument key target before patch := by
  rcases answered with ⟨-, written⟩ | ⟨error, -, same⟩
  · exact Or.inr written
  · exact same

/-- Read the status of an object. A null is no status. -/
def readStatus {Status : Type} (parse : Json → Option Status) (document : Json) :
    Option (Option Status) :=
  if document.isNull then some none else (parse document).map some

theorem parse_of_readStatus {Status : Type} [Inhabited Status] {parse : Json → Option Status}
    {document : Json} {status : Option Status} (unset : parse .null = some default)
    (read : readStatus parse document = some status) :
    parse document = some (status.getD default) := by
  unfold readStatus at read
  split_ifs at read with absent
  · obtain rfl := Option.some.inj read
    cases document <;> first | exact unset | cases absent
  · obtain ⟨content, parsed, rfl⟩ := Option.map_eq_some_iff.mp read
    exact parsed

/-! ### The analysis -/

/-- The analysis a reader decodes from a status document. -/
def analysisSnapshot (reread : Rat → Rat) (key : ObjectKey) (spec : ChaosAnalysisSpec)
    (document : Json) : Option ChaosAnalysis :=
  (readStatus (ChaosAnalysisStatus.parse reread) document).map fun status =>
    { metadata := { name := some key.2, ns := some key.1 }, spec, status }

/-- How the calls of an analysis are answered. A query that does not fail gives a number. -/
def AnalysisAnswers (key : ObjectKey) : (request : AnalysisCall) → Json →
    AnalysisAnswer request → Json → Prop
  | .getExperimentStatus .., before, _, after => after = before
  | .queryAt .., before, answer, after =>
    after = before ∧ ∀ value, answer = .ok value → value.isFinite = true
  | .patchAnalysisStatus ns name status, before, answer, after =>
    PatchAnswered key (ns, name) status.toJson before answer after

def analysisController (crates : TimeCrate) (reread : Rat → Rat) (key : ObjectKey)
    (spec : ChaosAnalysisSpec) :
    Controller Json ChaosAnalysis AnalysisCall AnalysisAnswer OperatorError Unit where
  snapshot := analysisSnapshot reread key spec
  pass := reconcileAnalysis crates
  answers := AnalysisAnswers key

/-- What the snapshot of an analysis has from the document. -/
theorem analysisSnapshot_eq_some {reread : Rat → Rat} {key : ObjectKey} {spec : ChaosAnalysisSpec}
    {document : Json} {analysis : ChaosAnalysis}
    (decoded : analysisSnapshot reread key spec document = some analysis) :
    analysisName analysis = key.2 ∧ analysisNamespace analysis = key.1 ∧ analysis.spec = spec ∧
      ChaosAnalysisStatus.parse reread document = some (analysis.status.getD default) := by
  obtain ⟨status, read, rfl⟩ := Option.map_eq_some_iff.mp decoded
  exact ⟨rfl, rfl, rfl, parse_of_readStatus (ChaosAnalysisStatus.parse_null reread) read⟩

/-! ### The impact map -/

/-- The impact map a reader decodes from a status document, given the rest of the object. -/
def impactMapSnapshot (reread : Rat → Rat) (key : ObjectKey) (spec : ReportedImpactMap)
    (document : Json) : Option ReportedImpactMap :=
  (readStatus (ChaosImpactMapStatus.parse reread) document).map fun status =>
    { spec with metadata := { name := some key.2, ns := some key.1 }, status }

/-- How the calls of an impact map are answered. -/
def ImpactMapAnswers (key : ObjectKey) : (request : ImpactMapCall) → Json →
    ImpactMapAnswer request → Json → Prop
  | .patchImpactMapStatus ns name status, before, answer, after =>
    PatchAnswered key (ns, name) status.toJson before answer after
  | _, before, _, after => after = before

def impactMapController (crates : TimeCrate) (reread : Rat → Rat) (graphClient : Bool)
    (key : ObjectKey) (spec : ReportedImpactMap) :
    Controller Json ReportedImpactMap ImpactMapCall ImpactMapAnswer OperatorError Unit where
  snapshot := impactMapSnapshot reread key spec
  pass := reconcileImpactMap crates graphClient
  answers := ImpactMapAnswers key

/-- What the snapshot of an impact map has from the document and the rest of the object. -/
theorem impactMapSnapshot_eq_some {reread : Rat → Rat} {key : ObjectKey}
    {spec impactMap : ReportedImpactMap} {document : Json}
    (decoded : impactMapSnapshot reread key spec document = some impactMap) :
    impactMapName impactMap = key.2 ∧ impactMapNamespace impactMap.toChaosImpactMap = key.1 ∧
      impactMap.minImpact = spec.minImpact ∧
      ChaosImpactMapStatus.parse reread document = some (impactMap.status.getD default) := by
  obtain ⟨status, read, rfl⟩ := Option.map_eq_some_iff.mp decoded
  exact ⟨rfl, rfl, rfl, parse_of_readStatus (ChaosImpactMapStatus.parse_null reread) read⟩

/-! ### The objects of the examples -/

/-- The time library at the start and the end of an experiment of five minutes, half way
through it, and half of five minutes before it. -/
def sampleTimeCrate : TimeCrate where
  parseFromRfc3339 text :=
    if text = "2026-01-01T10:00:00Z" then .ok ⟨1767261600000000000, 0⟩
    else if text = "2026-01-01T10:05:00Z" then .ok ⟨1767261900000000000, 0⟩
    else .error "input contains invalid characters"
  toRfc3339 time :=
    if time.instant = 1767261450000000000 then "2026-01-01T09:57:30+00:00"
    else if time.instant = 1767261600000000000 then "2026-01-01T10:00:00+00:00"
    else if time.instant = 1767261750000000000 then "2026-01-01T10:02:30+00:00"
    else "2026-01-01T10:05:00+00:00"
  minusSeconds time seconds := some { time with instant := time.instant - seconds * 1000000000 }
  midpoint first second :=
    { first with instant := first.instant + (second.instant - first.instant).tdiv 2 }

/-- The status of that experiment in some phase. -/
def sampleExperimentStatus (phase : Phase) : ChaosExperimentStatus where
  phase := phase
  startedAt := some "2026-01-01T10:00:00Z"
  completedAt := some "2026-01-01T10:05:00Z"

def sampleAnalysisSpec : ChaosAnalysisSpec where
  experimentRef := { name := "demo", ns := none }
  prometheus := { url := "http://prometheus:9090", baselineWindow := "5m" }
  query := "http_latency"
  degradationDirection := .up
  maxImpact := 50

def sampleImpactMap : ReportedImpactMap where
  metadata := {}
  experimentRef := { name := "demo", ns := none }
  prometheus := { url := "http://prometheus:9090", baselineWindow := "5m" }
  scope := none
  minImpact := 5
  status := none

end ChimpChaos
