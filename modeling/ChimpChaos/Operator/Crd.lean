/-
This file models the ChaosExperiment resource: its spec, its status, and how a status is
serialized, parsed back and merged into the stored one.

The status is written as a merge patch of its serialization, which skips absent fields and
an empty job list. What a reader of the patched object then parses is `merge`: a written
field replaces the stored one, and a skipped field keeps it.
-/

import ChimpChaos.Library.Json
import ChimpChaos.Operator.Objects

namespace ChimpChaos

open Library

structure ChaosExperimentSpec where
  scenario : ScenarioType
  duration : UInt64
  targetNamespace : Option String
  target : Option Target
  parameters : Option Json
  deriving Repr

structure ChaosExperimentStatus where
  phase : Phase := .pending
  message : Option String := none
  startedAt : Option String := none
  completedAt : Option String := none
  experimentId : Option String := none
  runnerJobs : List String := []
  cleanupDone : Bool := false
  deriving DecidableEq, Repr, Inhabited

structure ChaosExperiment where
  metadata : ObjectMeta
  spec : ChaosExperimentSpec
  status : Option ChaosExperimentStatus
  deriving Repr

namespace ChaosExperimentStatus

/-! ### Serialization -/

/-- The fields of a serialized status, in key order. Absent fields and an empty job list are
skipped. -/
def entries (status : ChaosExperimentStatus) : List (String × Option Json) :=
  [("cleanupDone", some (.bool status.cleanupDone)),
    ("completedAt", status.completedAt.map .string),
    ("experimentId", status.experimentId.map .string),
    ("message", status.message.map .string),
    ("phase", some (.string status.phase.toString)),
    ("runnerJobs",
      if status.runnerJobs.isEmpty then none else some (.array (status.runnerJobs.map .string))),
    ("startedAt", status.startedAt.map .string)]

def toJson (status : ChaosExperimentStatus) : Json := .object (Json.recordFields status.entries)

/-- Parse an optional string field. An absent field and a null are both no string. -/
def parseString : Option Json → Option (Option String)
  | none | some .null => some none
  | some value => value.asStr?.map some

def parsePhase : Option Json → Option Phase
  | none => some default
  | some value => value.asStr?.bind Phase.ofString?

def parseJobs : Option Json → Option (List String)
  | none => some []
  | some value => value.asArray?.bind fun items => items.mapM Json.asStr?

def parseFlag : Option Json → Option Bool
  | none => some false
  | some (.bool value) => some value
  | some _ => none

/-- Parse the fields of a status. Unknown fields are ignored. -/
def parse (value : Json) : Option ChaosExperimentStatus := do
  let phase ← parsePhase (value.get? "phase")
  let message ← parseString (value.get? "message")
  let startedAt ← parseString (value.get? "startedAt")
  let completedAt ← parseString (value.get? "completedAt")
  let experimentId ← parseString (value.get? "experimentId")
  let runnerJobs ← parseJobs (value.get? "runnerJobs")
  let cleanupDone ← parseFlag (value.get? "cleanupDone")
  return { phase, message, startedAt, completedAt, experimentId, runnerJobs, cleanupDone }

/-! ### The merge patch of a status -/

/-- The status a reader finds after `written` is merged into `stored`. -/
def merge (stored written : ChaosExperimentStatus) : ChaosExperimentStatus where
  phase := written.phase
  message := written.message.or stored.message
  startedAt := written.startedAt.or stored.startedAt
  completedAt := written.completedAt.or stored.completedAt
  experimentId := written.experimentId.or stored.experimentId
  runnerJobs := if written.runnerJobs.isEmpty then stored.runnerJobs else written.runnerJobs
  cleanupDone := written.cleanupDone

theorem entries_distinct (status : ChaosExperimentStatus) :
    (status.entries.map Prod.fst).Nodup := by
  simp [entries]

theorem parseString_patchedValue (old : Option Json) (stored written : Option String)
    (parsed : parseString old = some stored) :
    parseString (Json.patchedValue old (written.map .string)) = some (written.or stored) := by
  cases written with
  | none => exact parsed
  | some text => rfl

theorem parseJobs_patchedValue (old : Option Json) (stored written : List String)
    (parsed : parseJobs old = some stored) :
    parseJobs (Json.patchedValue old
      (if written.isEmpty then none else some (.array (written.map .string)))) =
      some (if written.isEmpty then stored else written) := by
  cases written with
  | nil => exact parsed
  | cons job rest =>
    have strings : ((job :: rest).map Json.string).mapM Json.asStr? = some (job :: rest) := by
      generalize job :: rest = jobs
      induction jobs with
      | nil => rfl
      | cons job rest inductionHypothesis =>
        rw [List.map_cons, List.mapM_cons, inductionHypothesis]
        rfl
    exact strings

theorem parsePhase_patchedValue (old : Option Json) (phase : Phase) :
    parsePhase (Json.patchedValue old (some (.string phase.toString))) = some phase :=
  Phase.ofString?_toString phase

theorem parseFlag_patchedValue (old : Option Json) (flag : Bool) :
    parseFlag (Json.patchedValue old (some (.bool flag))) = some flag := rfl

/-- Patching a stored document with a serialized status and parsing the result is merging
the two statuses. -/
theorem parse_mergePatch (document : Json) (stored written : ChaosExperimentStatus)
    (parsed : parse document = some stored) :
    parse (Json.mergePatch document written.toJson) = some (stored.merge written) := by
  simp only [parse, Option.bind_eq_bind, Option.bind_eq_some_iff, Option.pure_def,
    Option.some.injEq] at parsed
  obtain ⟨phase, phaseParsed, message, messageParsed, startedAt, startedParsed, completedAt,
    completedParsed, experimentId, idParsed, runnerJobs, jobsParsed, cleanupDone, flagParsed,
    rfl⟩ := parsed
  have field (key : String) : (Json.mergePatch document written.toJson).get? key =
      Json.patchedValue (document.get? key) (written.entries.lookup key).join :=
    Json.get?_mergePatch_record document written.entries written.entries_distinct key
  simp only [parse, field]
  have lookups : (written.entries.lookup "phase").join = some (.string written.phase.toString) ∧
      (written.entries.lookup "message").join = written.message.map .string ∧
      (written.entries.lookup "startedAt").join = written.startedAt.map .string ∧
      (written.entries.lookup "completedAt").join = written.completedAt.map .string ∧
      (written.entries.lookup "experimentId").join = written.experimentId.map .string ∧
      (written.entries.lookup "runnerJobs").join =
        (if written.runnerJobs.isEmpty then none
          else some (.array (written.runnerJobs.map .string))) ∧
      (written.entries.lookup "cleanupDone").join = some (.bool written.cleanupDone) :=
    ⟨rfl, rfl, rfl, rfl, rfl, rfl, rfl⟩
  obtain ⟨phaseLookup, messageLookup, startedLookup, completedLookup, idLookup, jobsLookup,
    flagLookup⟩ := lookups
  rw [phaseLookup, messageLookup, startedLookup, completedLookup, idLookup, jobsLookup,
    flagLookup, parsePhase_patchedValue, parseString_patchedValue _ _ _ messageParsed,
    parseString_patchedValue _ _ _ startedParsed, parseString_patchedValue _ _ _ completedParsed,
    parseString_patchedValue _ _ _ idParsed, parseJobs_patchedValue _ _ _ jobsParsed,
    parseFlag_patchedValue]
  rfl

/-- A status made from the stored one replaces it: it drops none of the stored fields. -/
theorem merge_of_extends {stored written : ChaosExperimentStatus}
    (message : written.message.or stored.message = written.message)
    (startedAt : written.startedAt = stored.startedAt)
    (completedAt : written.completedAt.or stored.completedAt = written.completedAt)
    (experimentId : written.experimentId = stored.experimentId)
    (runnerJobs : written.runnerJobs = stored.runnerJobs) : stored.merge written = written := by
  obtain ⟨phase, message', startedAt', completedAt', experimentId', runnerJobs', cleanupDone⟩ :=
    written
  simp only at message startedAt completedAt experimentId runnerJobs
  subst startedAt experimentId runnerJobs
  simp [merge, message, completedAt]

theorem merge_runnerJobs_of_nil {stored : ChaosExperimentStatus} (none : stored.runnerJobs = [])
    (written : ChaosExperimentStatus) : (stored.merge written).runnerJobs = written.runnerJobs := by
  cases jobs : written.runnerJobs <;> simp [merge, none, jobs]

/-- A document without a status parses as the default one. -/
@[simp] theorem parse_null : parse .null = some default := rfl

theorem merge_default (status : ChaosExperimentStatus) : merge default status = status := by
  obtain ⟨phase, message, startedAt, completedAt, experimentId, runnerJobs, cleanupDone⟩ := status
  show merge {} _ = _
  simp [merge]

/-- The first status written to a document without one is read back as it was written. -/
theorem parse_mergePatch_null (status : ChaosExperimentStatus) :
    parse (Json.mergePatch .null status.toJson) = some status := by
  rw [parse_mergePatch .null default status parse_null, merge_default]

end ChaosExperimentStatus

end ChimpChaos
