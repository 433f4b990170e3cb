/-
This file settles how long a fault on an edge lasts.

A pass on a running edge experiment reads the clock and compares the whole seconds since the
start with the duration, cast to a signed integer. Below `2 ^ 63` seconds this is the same as
comparing the exact times. A longer duration counts as negative and is over at once.
-/

import ChimpChaos.Proof.OwnJobs

namespace ChimpChaos

open Library Program Relation

/-! ### The test -/

/-- The clock is read as some time. -/
def clockReads (now : Int) : (request : ApiCall) → Unit → Answer request → Unit → Prop
  | .now, _, time, _ => time = now
  | _, _, _, _ => True

/-- The answer of a test at a time. -/
def Answers (now : Int) (test : Handler Bool) (answer : Bool) : Prop :=
  ∃ trace, Reaches (clockReads now) test () trace (.done answer) ()

section Test

variable {crates : Crates} {startedAt : String} {start now : Int} {durationSecs : UInt64}

theorem isDurationElapsed_of_parsed (parsed : crates.parseFromRfc3339 startedAt = some start) :
    isDurationElapsed crates startedAt durationSecs =
      .call .now fun now => .done (durationTest durationSecs start now) := by
  rw [isDurationElapsed, parsed]
  rfl

/-- The test has one answer at each time. -/
theorem answers_iff (parsed : crates.parseFromRfc3339 startedAt = some start) {answer : Bool} :
    Answers now (isDurationElapsed crates startedAt durationSecs) answer ↔
      durationTest durationSecs start now = answer := by
  rw [isDurationElapsed_of_parsed parsed]
  constructor
  · rintro ⟨trace, reaches⟩
    obtain ⟨time, _, _, -, read, reaches⟩ := reaches.of_call trivial
    obtain rfl : time = now := read
    exact (Program.done.inj (reaches.of_ended trivial).2.1).symm
  · rintro rfl
    exact ⟨_, .call rfl (.stop _ _)⟩

/-- A duration that does not fit a signed integer is over at the start. -/
theorem durationTest_of_large (large : 2 ^ 63 ≤ durationSecs.toNat) :
    durationTest durationSecs start start = true := by
  have negative := toInt64_neg large
  rw [durationTest, decide_eq_true_eq, Int.sub_self]
  show (0 : Int) ≥ _
  omega

end Test

/-! ### Passes on a running edge experiment -/

/-- The experiment injects a fault on an edge, runs, and says when it was started. -/
structure RunningEdge (crates : Crates) (experiment : ChaosExperiment) (startedAt : String)
    (start : Int) : Prop where
  active : Active experiment
  running : (statusOf experiment).phase = .running
  edgeChaos : experiment.spec.scenario.isEdgeChaos = true
  hasStart : (statusOf experiment).startedAt = some startedAt
  parsed : crates.parseFromRfc3339 startedAt = some start

/-- What a pass does after it has read the clock. -/
def afterReadingClock (crates : Crates) (experiment : ChaosExperiment) (start now : Int) :
    Handler ReconcileResult :=
  if durationTest experiment.spec.duration start now = true then
    complete crates (expNamespace experiment) (expName experiment) (statusOf experiment) .succeeded
      "Edge chaos duration elapsed" >>= fun _ => .done (.requeue (requeueDuration .running))
  else .done (.requeue (requeueDuration .running))

/-- A whole pass on a stored experiment that finds the clock at a time. Others may act before each
of its calls. -/
structure ReconciledAt (deployment : Deployment) (key : ObjectKey) (object : ExperimentObject)
    (experiment : ChaosExperiment) (now : Int) (before : Cluster)
    (rest : Handler ReconcileResult) (after : Cluster) : Prop where
  stored : before.experiments.lookup key = some object
  decoded : object.snapshot key = some experiment
  run : ∃ later, Reaches (Interfered apiServer experiment) (deployment.pass experiment) before
    (⟨.now, now⟩ :: later) rest after
  ended : rest.Ended

section Passes

variable {deployment : Deployment} {key : ObjectKey} {object object' : ExperimentObject}
  {experiment : ChaosExperiment} {startedAt : String} {start now : Int} {before after : Cluster}
  {rest : Handler ReconcileResult}

theorem pass_runningEdge (runs : RunningEdge deployment.crates experiment startedAt start) :
    deployment.pass experiment =
      .call .now fun now => afterReadingClock deployment.crates experiment start now := by
  rw [Deployment.pass_running runs.active runs.running, handleRunning, if_pos runs.edgeChaos,
    handleRunningEdge, completeIfElapsed, runs.hasStart]
  dsimp only
  rw [isDurationElapsed_of_parsed runs.parsed]
  refine congrArg (Program.call ApiCall.now) (funext fun now => ?_)
  unfold afterReadingClock
  cases tested : durationTest experiment.spec.duration start now with
  | true =>
    simp only [tested]
    rfl
  | false =>
    simp only [tested]
    rfl

/-- A reading of the clock leaves the stored document. -/
theorem status_of_reading {time : Answer .now}
    (answered : Interfered apiServer experiment .now before time after)
    (found : after.experiments.lookup key = some object') :
    ∃ object, before.experiments.lookup key = some object ∧ object'.status = object.status := by
  obtain ⟨middle, steps, permitted⟩ := answered
  obtain ⟨-, rfl⟩ := permitted.any.now
  obtain ⟨object, timestamp, stored, -, rfl⟩ := (drift_of_outside steps).object key object' found
  exact ⟨object, stored, rfl⟩

/-- A status write that is accepted is on the stored document. -/
theorem status_of_accepted {status : ChaosExperimentStatus}
    (answered : Interfered apiServer experiment (.patchExperimentStatus key.1 key.2 status) before
      (.ok ()) after) (found : after.experiments.lookup key = some object') :
    ∃ object, before.experiments.lookup key = some object ∧
      object'.status = Json.mergePatch object.status status.toJson := by
  obtain ⟨middle, steps, surroundings, ⟨-, rfl⟩ | ⟨error, refused, -, -⟩⟩ := answered
  · change (middle.experiments.update (key.1, key.2) _).lookup key = some object' at found
    rw [Store.lookup_update, if_pos rfl] at found
    obtain ⟨patched, stored, rfl⟩ := Option.map_eq_some_iff.mp found
    obtain ⟨object, timestamp, foundObject, -, rfl⟩ :=
      (drift_of_outside steps).object key patched stored
    exact ⟨object, foundObject, rfl⟩
  · cases refused

/-- After the first reading the stored document is the same. -/
theorem ReconciledAt.continues (runs : RunningEdge deployment.crates experiment startedAt start)
    (reconciled : ReconciledAt deployment key object experiment now before rest after) :
    ∃ middle later, (∀ object', middle.experiments.lookup key = some object' →
        object'.status = object.status) ∧
      Reaches (Interfered apiServer experiment)
        (afterReadingClock deployment.crates experiment start now) middle later rest after := by
  obtain ⟨stored, -, ⟨trace, reaches⟩, ended⟩ := reconciled
  rw [pass_runningEdge runs] at reaches
  obtain ⟨time, middle, later, same, answered, reaches⟩ := reaches.of_call ended
  cases same
  refine ⟨middle, _, fun object' found => ?_, reaches⟩
  obtain ⟨origin, storedOrigin, kept⟩ := status_of_reading answered found
  rw [stored] at storedOrigin
  obtain rfl := Option.some.inj storedOrigin
  exact kept

/-- A pass for which the duration has not elapsed leaves the stored status. -/
theorem ReconciledAt.unchanged (runs : RunningEdge deployment.crates experiment startedAt start)
    (reconciled : ReconciledAt deployment key object experiment now before rest after)
    (early : durationTest experiment.spec.duration start now ≠ true)
    (found : after.experiments.lookup key = some object') : object'.status = object.status := by
  obtain ⟨middle, later, kept, reaches⟩ := reconciled.continues runs
  rw [afterReadingClock, if_neg early] at reaches
  obtain ⟨-, -, rfl⟩ := reaches.of_ended trivial
  exact kept object' found

/-- A pass for which the duration has elapsed leaves the experiment `Succeeded`, unless its write
is refused. -/
theorem ReconciledAt.succeeded (runs : RunningEdge deployment.crates experiment startedAt start)
    (reconciled : ReconciledAt deployment key object experiment now before rest after)
    (late : durationTest experiment.spec.duration start now = true) {result : ReconcileResult}
    (returned : rest = .done result) (found : after.experiments.lookup key = some object') :
    ∃ status, ChaosExperimentStatus.parse object'.status = some status ∧
      status.phase = .succeeded := by
  have snapshot := isSnapshot_of_snapshot reconciled.decoded
  obtain ⟨middle, _, kept, reaches⟩ := reconciled.continues runs
  rw [afterReadingClock, if_pos late] at reaches
  obtain ⟨time, second, _, -, read, reaches⟩ := reaches.of_call reconciled.ended
  obtain ⟨answer, third, _, -, patched, reaches⟩ := reaches.of_call reconciled.ended
  rw [snapshot.expNamespace_eq, snapshot.expName_eq] at patched
  cases answer with
  | error error =>
    obtain ⟨-, failed, -⟩ := reaches.of_ended trivial
    rw [returned] at failed
    cases failed
  | ok =>
    obtain ⟨-, -, rfl⟩ := reaches.of_ended trivial
    obtain ⟨read', stored', written⟩ := status_of_accepted patched found
    obtain ⟨first, stored, same⟩ := status_of_reading read stored'
    rw [written, same, kept first stored,
      ChaosExperimentStatus.parse_mergePatch _ _ _ snapshot.status]
    exact ⟨_, rfl, rfl⟩

end Passes

/-! ### How long a fault lasts -/

/-- The test is true from the end of the duration on and not before, and then it stays true. A
pass before the end leaves the stored status, and a pass from then on whose write is accepted
leaves the experiment `Succeeded`. -/
structure LastsAsAsked (deployment : Deployment) (key : ObjectKey) (experiment : ChaosExperiment)
    (startedAt : String) (start : Int) : Prop where
  answer : ∀ now, start ≤ now →
    (Answers now (isDurationElapsed deployment.crates startedAt experiment.spec.duration) true ↔
      start + experiment.spec.duration.toNat * 1000000000 ≤ now)
  lasting : ∀ now later, start ≤ now → now ≤ later →
    Answers now (isDurationElapsed deployment.crates startedAt experiment.spec.duration) true →
    Answers later (isDurationElapsed deployment.crates startedAt experiment.spec.duration) true
  early : ∀ object now before rest after,
    ReconciledAt deployment key object experiment now before rest after →
    start ≤ now → now < start + experiment.spec.duration.toNat * 1000000000 →
    ∀ object', after.experiments.lookup key = some object' → object'.status = object.status
  late : ∀ object now before rest after,
    ReconciledAt deployment key object experiment now before rest after →
    start ≤ now → start + experiment.spec.duration.toNat * 1000000000 ≤ now →
    ∀ result, rest = .done result → ∀ object', after.experiments.lookup key = some object' →
      ∃ status, ChaosExperimentStatus.parse object'.status = some status ∧
        status.phase = .succeeded

theorem lastsAsAsked_of_fits {deployment : Deployment} {experiment : ChaosExperiment}
    {startedAt : String} {start : Int} (key : ObjectKey)
    (runs : RunningEdge deployment.crates experiment startedAt start)
    (positive : 1 ≤ experiment.spec.duration.toNat)
    (fits : experiment.spec.duration.toNat < 2 ^ 63) :
    LastsAsAsked deployment key experiment startedAt start := by
  have tests (now : Int) := durationTest_iff positive fits start now
  have answers (now : Int) :
      Answers now (isDurationElapsed deployment.crates startedAt experiment.spec.duration) true ↔
        start + experiment.spec.duration.toNat * 1000000000 ≤ now :=
    (answers_iff runs.parsed).trans (tests now)
  refine ⟨fun now _ => answers now, ?_, ?_, ?_⟩
  · intro now later _ ordered elapsed
    exact (answers later).mpr (((answers now).mp elapsed).trans ordered)
  · intro object now before rest after reconciled _ before object' found
    exact reconciled.unchanged runs (mt (tests now).mp (not_le.mpr before)) found
  · intro object now before rest after reconciled _ elapsed result returned object' found
    exact reconciled.succeeded runs ((tests now).mpr elapsed) returned found

/-- A test that is right at the start is right because the duration fits. -/
theorem fits_of_lastsAsAsked {deployment : Deployment} {key : ObjectKey}
    {experiment : ChaosExperiment} {startedAt : String} {start : Int}
    (runs : RunningEdge deployment.crates experiment startedAt start)
    (lasts : LastsAsAsked deployment key experiment startedAt start) :
    experiment.spec.duration.toNat < 2 ^ 63 := by
  by_contra large
  have elapsed := (lasts.answer start (le_refl _)).mp
    ((answers_iff runs.parsed).mpr (durationTest_of_large (by omega)))
  omega

/-- A fault on an edge lasts as long as asked if and only if its duration fits a signed
integer. -/
theorem lastsAsAsked_iff (deployment : Deployment) (key : ObjectKey) (experiment : ChaosExperiment)
    (startedAt : String) (start : Int)
    (runs : RunningEdge deployment.crates experiment startedAt start)
    (positive : 1 ≤ experiment.spec.duration.toNat) :
    LastsAsAsked deployment key experiment startedAt start ↔
      experiment.spec.duration.toNat < 2 ^ 63 := by
  constructor
  · intro lasts
    exact fits_of_lastsAsAsked runs lasts
  · intro fits
    exact lastsAsAsked_of_fits key runs positive fits

/-- An edge experiment of some seconds that was started at time 0. -/
def startedEdge (duration : UInt64) : ChaosExperiment :=
  { freshSnapshot sampleKey { sampleEdge with spec := { sampleEdge.spec with duration } } with
    status := some {
      phase := .running
      startedAt := some "1970-01-01T00:00:00+00:00"
      experimentId := some sampleUid } }

theorem runningEdge_startedEdge (duration : UInt64) :
    RunningEdge sampleCrates (startedEdge duration) "1970-01-01T00:00:00+00:00" 0 where
  active := ⟨needsFinalizer_eq_false_iff.mpr List.mem_cons_self, rfl⟩
  running := rfl
  edgeChaos := rfl
  hasStart := rfl
  parsed := rfl

/-- Five seconds are five seconds. -/
theorem lastsAsAsked_sample :
    LastsAsAsked sampleDeployment sampleKey (startedEdge 5) "1970-01-01T00:00:00+00:00" 0 :=
  (lastsAsAsked_iff sampleDeployment sampleKey (startedEdge 5) _ 0 (runningEdge_startedEdge 5)
    (by decide)).mpr (by decide)

/-- A fault that is to last for `2 ^ 63` seconds is over when it starts. -/
theorem longFault_overAtOnce : ¬ ∀ (deployment : Deployment) (key : ObjectKey)
    (experiment : ChaosExperiment) (startedAt : String) (start : Int),
    RunningEdge deployment.crates experiment startedAt start →
    1 ≤ experiment.spec.duration.toNat →
    LastsAsAsked deployment key experiment startedAt start := by
  intro claim
  have runs := runningEdge_startedEdge 9223372036854775808
  have fits := fits_of_lastsAsAsked runs
    (claim sampleDeployment sampleKey _ _ 0 runs (by decide))
  exact absurd fits (by decide)

end ChimpChaos
