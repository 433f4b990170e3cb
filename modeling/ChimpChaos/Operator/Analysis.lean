/-
This file models the analysis reconciler: one pass over one snapshot of a ChaosAnalysis, as a
program of calls to the Kubernetes API and to Prometheus, and the score it computes.

A pass waits for the experiment to end, reads the query at two times, one before the experiment
and one in the middle of it, and writes how much worse the second value is. It ends with at
most one status write. The status is written as a merge patch of its serialization, which skips
absent fields.
-/

import ChimpChaos.Library.Program
import ChimpChaos.Library.Record
import ChimpChaos.Library.Text
import ChimpChaos.Operator.Crd

namespace ChimpChaos

open Library

/-! ### The resource -/

structure ExperimentRef where
  name : String
  ns : Option String
  deriving DecidableEq, Repr

structure PrometheusConfig where
  url : String
  baselineWindow : String
  deriving DecidableEq, Repr

structure ChaosAnalysisSpec where
  experimentRef : ExperimentRef
  prometheus : PrometheusConfig
  query : String
  degradationDirection : DegradationDirection
  maxImpact : UInt32
  deriving DecidableEq, Repr

structure ChaosAnalysisStatus where
  phase : AnalysisPhase := .pending
  verdict : Option AnalysisVerdict := none
  impactScore : Option UInt32 := none
  baselineValue : Option F64 := none
  duringValue : Option F64 := none
  degradationPercent : Option F64 := none
  message : Option String := none
  deriving DecidableEq, Repr, Inhabited

structure ChaosAnalysis where
  metadata : ObjectMeta
  spec : ChaosAnalysisSpec
  status : Option ChaosAnalysisStatus
  deriving Repr

/-! ### The status document -/

def analysisPhaseField : RecordField AnalysisPhase :=
  .plain (.named AnalysisPhase.toString AnalysisPhase.ofString? AnalysisPhase.ofString?_toString)
    (some default)

def verdictField : RecordField (Option AnalysisVerdict) :=
  .optional (.named AnalysisVerdict.toString AnalysisVerdict.ofString?
    AnalysisVerdict.ofString?_toString)

def scoreField : RecordField (Option UInt32) := .optional .u32

def valueField (reread : Rat → Rat) : RecordField (Option F64) := .optional (.float reread)

def textField : RecordField (Option String) := .optional .string

/-- A value as it is written, which does not depend on its readers. -/
def writeValue (value : Option F64) : Option Json := value.map ValueCodec.writeFloat

/-- The value a reader finds after `written` is merged over `stored`. A value that is not a number
is written as null, which takes away what was there. -/
def mergeValue (reread : Rat → Rat) (stored : Option F64) : Option F64 → Option F64
  | none => stored
  | some value => value.readBack reread

theorem valueField_read_patched {reread : Rat → Rat} {old : Option Json} {stored : Option F64}
    (parsed : (valueField reread).read old = some stored) (written : Option F64) :
    (valueField reread).read (Json.patchedValue old (writeValue written)) =
      some (mergeValue reread stored written) := by
  cases written with
  | none => exact parsed
  | some value =>
    cases value with
    | finite content =>
      show (valueField reread).read (Json.patchedValue old (some (.number (.float content)))) = _
      rw [Json.patchedValue, Json.mergePatch]
      rfl
    | _ => rfl

namespace ChaosAnalysisStatus

/-- The fields of a serialized status, in key order. -/
def entries (status : ChaosAnalysisStatus) : List (String × Option Json) :=
  [("baselineValue", writeValue status.baselineValue),
    ("degradationPercent", writeValue status.degradationPercent),
    ("duringValue", writeValue status.duringValue),
    ("impactScore", scoreField.write status.impactScore),
    ("message", textField.write status.message),
    ("phase", analysisPhaseField.write status.phase),
    ("verdict", verdictField.write status.verdict)]

def toJson (status : ChaosAnalysisStatus) : Json := .object (Json.recordFields status.entries)

/-- Parse the fields of a status. Unknown fields are ignored. -/
def parse (reread : Rat → Rat) (value : Json) : Option ChaosAnalysisStatus := do
  let phase ← analysisPhaseField.read (value.get? "phase")
  let verdict ← verdictField.read (value.get? "verdict")
  let impactScore ← scoreField.read (value.get? "impactScore")
  let baselineValue ← (valueField reread).read (value.get? "baselineValue")
  let duringValue ← (valueField reread).read (value.get? "duringValue")
  let degradationPercent ← (valueField reread).read (value.get? "degradationPercent")
  let message ← textField.read (value.get? "message")
  return { phase, verdict, impactScore, baselineValue, duringValue, degradationPercent, message }

/-- The status a reader finds after `written` is merged into `stored`. -/
def merge (reread : Rat → Rat) (stored written : ChaosAnalysisStatus) : ChaosAnalysisStatus where
  phase := written.phase
  verdict := written.verdict.or stored.verdict
  impactScore := written.impactScore.or stored.impactScore
  baselineValue := mergeValue reread stored.baselineValue written.baselineValue
  duringValue := mergeValue reread stored.duringValue written.duringValue
  degradationPercent := mergeValue reread stored.degradationPercent written.degradationPercent
  message := written.message.or stored.message

theorem entries_distinct (status : ChaosAnalysisStatus) :
    (status.entries.map Prod.fst).Nodup := by
  simp [entries]

/-- Patching a stored document with a serialized status and parsing the result is merging
the two statuses. -/
theorem parse_mergePatch {reread : Rat → Rat} {document : Json} {stored : ChaosAnalysisStatus}
    (parsed : parse reread document = some stored) (written : ChaosAnalysisStatus) :
    parse reread (Json.mergePatch document written.toJson) =
      some (stored.merge reread written) := by
  simp only [parse, Option.bind_eq_bind, Option.bind_eq_some_iff, Option.pure_def,
    Option.some.injEq] at parsed
  obtain ⟨phase, phaseParsed, verdict, verdictParsed, impactScore, scoreParsed, baselineValue,
    baselineParsed, duringValue, duringParsed, degradationPercent, percentParsed, message,
    messageParsed, rfl⟩ := parsed
  have field (key : String) : (Json.mergePatch document written.toJson).get? key =
      Json.patchedValue (document.get? key) (written.entries.lookup key).join :=
    Json.get?_mergePatch_record document written.entries written.entries_distinct key
  have always {Value : Type} {codec : ValueCodec Value} (any : ∀ value, codec.writable value)
      (value : Option Value) : (RecordField.optional codec).writable value :=
    fun content _ => any content
  simp only [parse, field]
  have lookups :
      (written.entries.lookup "phase").join = analysisPhaseField.write written.phase ∧
      (written.entries.lookup "verdict").join = verdictField.write written.verdict ∧
      (written.entries.lookup "impactScore").join = scoreField.write written.impactScore ∧
      (written.entries.lookup "baselineValue").join = writeValue written.baselineValue ∧
      (written.entries.lookup "duringValue").join = writeValue written.duringValue ∧
      (written.entries.lookup "degradationPercent").join =
        writeValue written.degradationPercent ∧
      (written.entries.lookup "message").join = textField.write written.message :=
    ⟨rfl, rfl, rfl, rfl, rfl, rfl, rfl⟩
  obtain ⟨phaseLookup, verdictLookup, scoreLookup, baselineLookup, duringLookup, percentLookup,
    messageLookup⟩ := lookups
  rw [phaseLookup, verdictLookup, scoreLookup, baselineLookup, duringLookup, percentLookup,
    messageLookup, analysisPhaseField.read_patched _ _ _ trivial phaseParsed,
    verdictField.read_patched _ _ _ (always (fun _ => trivial) _) verdictParsed,
    scoreField.read_patched _ _ _ (always (fun _ => trivial) _) scoreParsed,
    valueField_read_patched baselineParsed, valueField_read_patched duringParsed,
    valueField_read_patched percentParsed,
    textField.read_patched _ _ _ (always (fun _ => trivial) _) messageParsed]
  rfl

/-- A document without a status parses as the default one. -/
@[simp] theorem parse_null (reread : Rat → Rat) : parse reread .null = some default := rfl

end ChaosAnalysisStatus

/-! ### Settings and scores -/

/-- The seconds a duration text stands for. Products wrap around. -/
def parseDurationStr (text : String) : Option UInt64 :=
  let trimmed := trim text
  match stripSuffix 'm' trimmed with
  | some number => (parseU64 number).map fun value => value * 60
  | none =>
    match stripSuffix 'h' trimmed with
    | some number => (parseU64 number).map fun value => value * 3600
    | none =>
      match stripSuffix 's' trimmed with
      | some number => parseU64 number
      | none => parseU64 trimmed

example : parseDurationStr " 5m\n" = some 300 := by decide +kernel

/-- By how many percent a value is worse than the baseline. -/
def degradation (baseline during : F64) (direction : DegradationDirection) : F64 :=
  if baseline = .zero then
    if during = .zero then .zero else .finite 100
  else
    let raw :=
      match direction with
      | .up => ((during.subtract baseline).divide baseline).multiply (.finite 100)
      | .down => ((baseline.subtract during).divide baseline).multiply (.finite 100)
    raw.maximum .zero

def calculateImpact (baseline during : F64) (direction : DegradationDirection)
    (maxImpact : UInt32) : UInt32 × AnalysisVerdict × F64 :=
  let degradationPercent := degradation baseline during direction
  let impactScore := min degradationPercent.roundToU32 100
  let verdict := if impactScore ≤ maxImpact then .pass else .fail
  (impactScore, verdict, degradationPercent)

/-! ### The calls of a pass -/

/-- A time in nanoseconds since the epoch, with its offset from UTC in seconds. -/
structure DateTime where
  instant : Int
  offsetSecs : Int
  deriving DecidableEq, Repr

/-- The functions of the time library that an analysis uses: parsing, which may be refused with
a text, printing, going back by some seconds, which panics outside the range of times, and the
time half way between two times. -/
structure TimeCrate where
  parseFromRfc3339 : String → Except String DateTime
  toRfc3339 : DateTime → String
  minusSeconds : DateTime → Int → Option DateTime
  midpoint : DateTime → DateTime → DateTime

/-- The calls of an analysis: the Kubernetes client and Prometheus. -/
inductive AnalysisCall where
  | getExperimentStatus (ns name : String)
  | queryAt (promql time : String)
  | patchAnalysisStatus (ns name : String) (status : ChaosAnalysisStatus)
  deriving Repr

@[reducible] def AnalysisAnswer : AnalysisCall → Type
  | .getExperimentStatus .. => Except OperatorError ChaosExperimentStatus
  | .queryAt .. => Except OperatorError F64
  | .patchAnalysisStatus .. => Except OperatorError Unit

abbrev AnalysisHandler (Value : Type) : Type :=
  Program AnalysisCall AnalysisAnswer OperatorError Value

def analysisCall (request : AnalysisCall) : AnalysisHandler (AnalysisAnswer request) :=
  Program.request request

/-! ### The pass -/

def analysisName (analysis : ChaosAnalysis) : String := analysis.metadata.name.getD "unknown"

def analysisNamespace (analysis : ChaosAnalysis) : String := analysis.metadata.ns.getD "default"

def patchAnalysisStatus (ns name : String) (status : ChaosAnalysisStatus) :
    AnalysisHandler Unit := do
  Program.ofExcept (← analysisCall (.patchAnalysisStatus ns name status))

def patchAnalysisFailed (ns name message : String) : AnalysisHandler Unit :=
  patchAnalysisStatus ns name { phase := .failed, message := some message }

/-- The status of an analysis whose experiment has not ended. -/
def waitingStatus (expName : String) (phase : Phase) : ChaosAnalysisStatus where
  phase := .pending
  message := some ("Waiting for experiment '" ++ expName ++ "' to complete (phase: " ++
    phase.toString ++ ")")

/-- The status of an analysis that has read both values. -/
def resultStatus (spec : ChaosAnalysisSpec) (baselineValue duringValue : F64) :
    ChaosAnalysisStatus :=
  let (impactScore, verdict, degradationPercent) :=
    calculateImpact baselineValue duringValue spec.degradationDirection spec.maxImpact
  { phase := .completed
    verdict := some verdict
    impactScore := some impactScore
    baselineValue := some baselineValue
    duringValue := some duringValue
    degradationPercent := some degradationPercent
    message := some ("Impact " ++ toString impactScore ++ "/100. baseline=" ++
      baselineValue.toFixed 4 ++ " -> during=" ++ duringValue.toFixed 4 ++ " (" ++
      degradationPercent.toFixed 1 ++ "%), threshold=" ++ toString spec.maxImpact) }

/-- A missing value is an error of the analysis. -/
def required {Value : Type} (message : String) : Option Value → Except OperatorError Value
  | some value => .ok value
  | none => .error (.analysis message)

/-- A text that is not a time is an error of the analysis. -/
def parseTime (crates : TimeCrate) (field text : String) : Except OperatorError DateTime :=
  (crates.parseFromRfc3339 text).mapError fun error =>
    .analysis ("invalid " ++ field ++ ": " ++ error)

/-- The baseline window in seconds, the start and the end of the experiment. -/
def analysisWindow (crates : TimeCrate) (spec : ChaosAnalysisSpec)
    (expStatus : ChaosExperimentStatus) : Except OperatorError (UInt64 × DateTime × DateTime) := do
  let startedAt ← required "experiment has no startedAt" expStatus.startedAt
  let completedAt ← required "experiment has no completedAt" expStatus.completedAt
  let baselineSecs ← required ("invalid baselineWindow: " ++ spec.prometheus.baselineWindow)
    (parseDurationStr spec.prometheus.baselineWindow)
  let started ← parseTime crates "startedAt" startedAt
  let completed ← parseTime crates "completedAt" completedAt
  return (baselineSecs, started, completed)

/-- Half of the baseline window before the start, and half way through the experiment. -/
def queryTimes (crates : TimeCrate) (spec : ChaosAnalysisSpec)
    (expStatus : ChaosExperimentStatus) : AnalysisHandler (DateTime × DateTime) := do
  let (baselineSecs, started, completed) ←
    Program.ofExcept (analysisWindow crates spec expStatus)
  -- the seconds are halved as a signed 64-bit integer
  let baselineTime ←
    Program.ofOption (crates.minusSeconds started (baselineSecs.toInt64.toInt.tdiv 2))
  return (baselineTime, crates.midpoint started completed)

/-- Read the query at the two times and write what comes of it. -/
def measure (crates : TimeCrate) (analysis : ChaosAnalysis)
    (expStatus : ChaosExperimentStatus) : AnalysisHandler Unit := do
  let name := analysisName analysis
  let ns := analysisNamespace analysis
  let (baselineTime, chaosTime) ← queryTimes crates analysis.spec expStatus
  match ← analysisCall (.queryAt analysis.spec.query (crates.toRfc3339 baselineTime)) with
  | .error error => patchAnalysisFailed ns name ("baseline query failed: " ++ error.toString)
  | .ok baselineValue =>
    match ← analysisCall (.queryAt analysis.spec.query (crates.toRfc3339 chaosTime)) with
    | .error error => patchAnalysisFailed ns name ("chaos window query failed: " ++ error.toString)
    | .ok duringValue =>
      patchAnalysisStatus ns name (resultStatus analysis.spec baselineValue duringValue)

def reconcileAnalysis (crates : TimeCrate) (analysis : ChaosAnalysis) : AnalysisHandler Unit := do
  let name := analysisName analysis
  let ns := analysisNamespace analysis
  let status := analysis.status.getD default
  if status.phase = .completed then return ()
  else
    let expName := analysis.spec.experimentRef.name
    match ← analysisCall
        (.getExperimentStatus (analysis.spec.experimentRef.ns.getD ns) expName) with
    | .error error =>
      patchAnalysisFailed ns name
        ("cannot get experiment '" ++ expName ++ "': " ++ error.toString)
    | .ok expStatus =>
      if expStatus.phase.isTerminal then measure crates analysis expStatus
      else patchAnalysisStatus ns name (waitingStatus expName expStatus.phase)

end ChimpChaos
