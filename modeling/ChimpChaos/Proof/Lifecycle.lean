/-
This file proves the life of an experiment: the stages it goes through and what its stored
status says in each of them.

`Stage` is the abstract life. A stage carries the data that is fixed when it is entered, and
its proof of order, so that an experiment that completes before it starts cannot be built.
The stored status of an experiment is the rendering of its stage, and each turn of a run is
matched by one move of the life or by none, whatever the API server answers.
-/

import ChimpChaos.Cluster.Pass
import ChimpChaos.Library.Simulation

namespace ChimpChaos

open Library Relation

/-! ### The abstract life -/

/-- What is fixed when an experiment is put into effect. -/
structure Execution where
  startedAt : Int
  experimentId : String
  runnerJobs : List String

/-- Where an experiment is in its life. An experiment is refused when it fails before it
runs. -/
inductive Stage where
  | pending
  | running (execution : Execution)
  | refused (clean : Bool)
  | finished (execution : Execution) (success : Bool) (completedAt : Int)
      (ordered : execution.startedAt ≤ completedAt) (clean : Bool)

namespace Stage

/-- The moves of a life. -/
inductive Moves : Stage → Stage → Prop
  | start (execution : Execution) : Moves .pending (.running execution)
  | refuse : Moves .pending (.refused false)
  | finish (execution : Execution) (success : Bool) (completedAt : Int)
      (ordered : execution.startedAt ≤ completedAt) :
      Moves (.running execution) (.finished execution success completedAt ordered false)
  | cleanRefused : Moves (.refused false) (.refused true)
  | cleanFinished (execution : Execution) (success : Bool) (completedAt : Int)
      (ordered : execution.startedAt ≤ completedAt) :
      Moves (.finished execution success completedAt ordered false)
        (.finished execution success completedAt ordered true)

/-- The status that renders a stage. The message is free. -/
def status (crates : Crates) (message : Option String) : Stage → ChaosExperimentStatus
  | .pending => { message }
  | .running execution =>
    { phase := .running
      message
      startedAt := some (crates.toRfc3339 execution.startedAt)
      experimentId := some execution.experimentId
      runnerJobs := execution.runnerJobs }
  | .refused clean => { phase := .failed, message, cleanupDone := clean }
  | .finished execution success completedAt _ clean =>
    { phase := if success then .succeeded else .failed
      message
      startedAt := some (crates.toRfc3339 execution.startedAt)
      completedAt := some (crates.toRfc3339 completedAt)
      experimentId := some execution.experimentId
      runnerJobs := execution.runnerJobs
      cleanupDone := clean }

/-- What holds besides while an experiment runs: it has started, and outside the edge
scenarios it has a Job. -/
def Sound (scenario : ScenarioType) (clock : Int) : Stage → Prop
  | .running execution => execution.startedAt ≤ clock ∧
      (scenario.isEdgeChaos = false → execution.runnerJobs ≠ [])
  | _ => True

theorem Sound.later {scenario : ScenarioType} {clock later : Int} {stage : Stage}
    (sound : stage.Sound scenario clock) (time : clock ≤ later) : stage.Sound scenario later := by
  cases stage with
  | running execution => exact ⟨sound.1.trans time, sound.2⟩
  | _ => trivial

theorem eq_pending {crates : Crates} {message : Option String} {stage : Stage}
    (phase : (stage.status crates message).phase = .pending) : stage = .pending := by
  cases stage with
  | pending => rfl
  | finished _ success => cases success <;> cases phase
  | _ => cases phase

/-- A status that renders a stage and is pending has recorded nothing. -/
theorem pending_unrecorded {crates : Crates} {message : Option String} {stage : Stage}
    {status : ChaosExperimentStatus} (rendered : status = stage.status crates message)
    (phase : status.phase = .pending) : status.experimentId = none ∧ status.runnerJobs = [] := by
  subst rendered
  obtain rfl := eq_pending phase
  exact ⟨rfl, rfl⟩

theorem eq_running {crates : Crates} {message : Option String} {stage : Stage}
    (phase : (stage.status crates message).phase = .running) :
    ∃ execution, stage = .running execution := by
  cases stage with
  | running execution => exact ⟨execution, rfl⟩
  | finished _ success => cases success <;> cases phase
  | _ => cases phase

theorem eq_terminal {crates : Crates} {message : Option String} {stage : Stage}
    (terminal : (stage.status crates message).phase.isTerminal = true)
    (unclean : (stage.status crates message).cleanupDone = false) :
    stage = .refused false ∨
      ∃ execution success completedAt ordered,
        stage = .finished execution success completedAt ordered false := by
  cases stage with
  | refused clean =>
    cases unclean
    exact Or.inl rfl
  | finished execution success completedAt ordered clean =>
    cases unclean
    exact Or.inr ⟨execution, success, completedAt, ordered, rfl⟩
  | _ => cases terminal

end Stage

/-! ### What a status says of its phase -/

/-- What the fields of a stored status have to be in each phase. -/
structure WellFormed (crates : Crates) (scenario : ScenarioType)
    (status : ChaosExperimentStatus) : Prop where
  pending : status.phase = .pending → status.startedAt = none ∧ status.completedAt = none ∧
    status.experimentId = none ∧ status.runnerJobs = [] ∧ status.cleanupDone = false
  running : status.phase = .running → status.startedAt.isSome = true ∧
    status.experimentId.isSome = true ∧ status.completedAt = none ∧ status.cleanupDone = false ∧
    (scenario.isEdgeChaos = false → status.runnerJobs ≠ [])
  succeeded : status.phase = .succeeded → ∃ startedAt completedAt : Int,
    status.startedAt = some (crates.toRfc3339 startedAt) ∧
      status.completedAt = some (crates.toRfc3339 completedAt) ∧ startedAt ≤ completedAt
  failed : status.phase = .failed → (status.startedAt.isSome = status.completedAt.isSome)

/-- The ways the phase goes, when it goes. -/
inductive PhaseMoves : Phase → Phase → Prop
  | start : PhaseMoves .pending .running
  | refuse : PhaseMoves .pending .failed
  | succeed : PhaseMoves .running .succeeded
  | fail : PhaseMoves .running .failed

/-- What one turn can change in a stored status. -/
structure Progress (before after : ChaosExperimentStatus) : Prop where
  phase : after.phase = before.phase ∨ PhaseMoves before.phase after.phase
  startedAt : ∀ time, before.startedAt = some time → after.startedAt = some time
  completedAt : ∀ time, before.completedAt = some time → after.completedAt = some time
  experimentId : ∀ id, before.experimentId = some id → after.experimentId = some id
  runnerJobs : before.runnerJobs ≠ [] → after.runnerJobs = before.runnerJobs
  cleanupDone : before.cleanupDone = true → after.cleanupDone = true

theorem Stage.wellFormed {crates : Crates} {scenario : ScenarioType} {clock : Int}
    (stage : Stage) (sound : stage.Sound scenario clock) (message : Option String) :
    WellFormed crates scenario (stage.status crates message) := by
  cases stage with
  | pending => exact ⟨fun _ => ⟨rfl, rfl, rfl, rfl, rfl⟩, nofun, nofun, nofun⟩
  | running execution => exact ⟨nofun, fun _ => ⟨rfl, rfl, rfl, rfl, sound.2⟩, nofun, nofun⟩
  | refused clean => exact ⟨nofun, nofun, nofun, fun _ => rfl⟩
  | finished execution success completedAt ordered clean =>
    have ended : ∃ startedAt completedAt' : Int,
        some (crates.toRfc3339 execution.startedAt) = some (crates.toRfc3339 startedAt) ∧
          some (crates.toRfc3339 completedAt) = some (crates.toRfc3339 completedAt') ∧
          startedAt ≤ completedAt' := ⟨execution.startedAt, completedAt, rfl, rfl, ordered⟩
    cases success with
    | true => exact ⟨nofun, nofun, fun _ => ended, nofun⟩
    | false => exact ⟨nofun, nofun, nofun, fun _ => rfl⟩

theorem Progress.refl_message (status : ChaosExperimentStatus) (message : Option String) :
    Progress status { status with message } where
  phase := Or.inl rfl
  startedAt := fun _ same => same
  completedAt := fun _ same => same
  experimentId := fun _ same => same
  runnerJobs := fun _ => rfl
  cleanupDone := fun same => same

theorem Stage.progress {crates : Crates} {first second : Stage}
    (moved : ReflGen Stage.Moves first second) (message message' : Option String) :
    Progress (first.status crates message) (second.status crates message') := by
  cases moved with
  | refl => cases first <;> exact Progress.refl_message (Stage.status crates message _) message'
  | single move =>
    cases move with
    | start execution =>
      exact ⟨Or.inr .start, nofun, nofun, nofun, fun absent => absurd rfl absent, nofun⟩
    | refuse => exact ⟨Or.inr .refuse, nofun, nofun, nofun, fun absent => absurd rfl absent, nofun⟩
    | finish execution success completedAt ordered =>
      refine ⟨Or.inr ?_, fun _ same => same, nofun, fun _ same => same, fun _ => rfl, nofun⟩
      cases success with
      | true => exact .succeed
      | false => exact .fail
    | cleanRefused =>
      exact ⟨Or.inl rfl, nofun, nofun, nofun, fun absent => absurd rfl absent, nofun⟩
    | cleanFinished execution success completedAt ordered =>
      exact ⟨Or.inl rfl, fun _ same => same, fun _ same => same, fun _ same => same,
        fun _ => rfl, nofun⟩

/-! ### The operator follows the life -/

section Follows

variable {deployment : Deployment} {key : ObjectKey} {service : Service}
  {accepts : PassCondition} {experiment : ChaosExperiment} {history : History}

/-- The status stored for an experiment renders a stage of its life. -/
def Renders (crates : Crates) (key : ObjectKey) (cluster : Cluster) (stage : Stage) : Prop :=
  ∀ object, cluster.experiments.lookup key = some object → ∃ message,
    ChaosExperimentStatus.parse object.status = some (stage.status crates message) ∧
      stage.Sound object.spec.scenario cluster.clock

theorem renders_fresh (crates : Crates) {cluster : Cluster} {object : ExperimentObject}
    (stored : cluster.experiments.lookup key = some object) (fresh : object.status = .null) :
    Renders crates key cluster .pending := by
  intro other found
  rw [stored] at found
  obtain rfl := Option.some.inj found
  exact ⟨none, by rw [fresh]; rfl, trivial⟩

theorem merge_completed (status : ChaosExperimentStatus) (phase : Phase)
    (message completedAt : String) :
    status.merge (completedStatus status phase message completedAt) =
      completedStatus status phase message completedAt :=
  ChaosExperimentStatus.merge_of_extends rfl rfl rfl rfl rfl

theorem merge_cleaned (status : ChaosExperimentStatus) :
    status.merge { status with cleanupDone := true } = { status with cleanupDone := true } :=
  ChaosExperimentStatus.merge_of_extends Option.or_self rfl Option.or_self rfl rfl

/-- Each write of a pass is one move of the life its snapshot renders. -/
theorem writes_moves {written : ChaosExperimentStatus} {stage : Stage} {message : Option String}
    {low high : Int} (writes : deployment.Writes experiment history written)
    (rendered : statusOf experiment = stage.status deployment.crates message)
    (sound : stage.Sound experiment.spec.scenario low)
    (readings : ∀ time, ⟨.now, time⟩ ∈ history → low ≤ time ∧ time ≤ high) :
    ∃ stage', Stage.Moves stage stage' ∧
      (∃ message', (statusOf experiment).merge written =
        stage'.status deployment.crates message') ∧
      stage'.Sound experiment.spec.scenario high := by
  cases writes with
  | failed pending message' reason =>
    have phase := pending.2
    rw [rendered] at phase
    obtain rfl := Stage.eq_pending phase
    exact ⟨_, .refuse, ⟨some message', by rw [rendered]; rfl⟩, trivial⟩
  | runningPod starting pod id identified nodes jobNames listed nonempty created time read =>
    have phase := starting.1.2
    rw [rendered] at phase
    obtain rfl := Stage.eq_pending phase
    have named : jobNames ≠ [] := by
      rintro rfl
      cases created
      exact nonempty rfl
    refine ⟨.running ⟨time, id, jobNames⟩, .start _, ?_, (readings time read).2, fun _ => named⟩
    rw [rendered]
    cases jobNames with
    | nil => exact absurd rfl named
    | cons job rest => exact ⟨some _, rfl⟩
  | runningEdge starting edgeChaos id identified edge sourceLabels checked document built answer
      requested created time read =>
    have phase := starting.1.2
    rw [rendered] at phase
    obtain rfl := Stage.eq_pending phase
    refine ⟨.running ⟨time, id, []⟩, .start _, ?_, (readings time read).2, ?_⟩
    · rw [rendered]
      exact ⟨some _, rfl⟩
    · intro pod
      rw [edgeChaos] at pod
      cases pod
  | completed active running phase terminal message' time read =>
    rw [rendered] at running
    obtain ⟨execution, rfl⟩ := Stage.eq_running running
    have ordered := sound.1.trans (readings time read).1
    refine ⟨.finished execution (phase == .succeeded) time ordered false, .finish _ _ _ _,
      ⟨some message', ?_⟩, trivial⟩
    rw [merge_completed, rendered]
    cases phase <;> first | rfl | cases terminal
  | cleaned active terminal unclean jobs services =>
    rw [rendered] at terminal unclean
    rcases Stage.eq_terminal terminal unclean with
      rfl | ⟨execution, success, completedAt, ordered, rfl⟩
    · exact ⟨_, .cleanRefused, ⟨message, by rw [merge_cleaned, rendered]; rfl⟩, trivial⟩
    · exact ⟨_, .cleanFinished execution success completedAt ordered,
        ⟨message, by rw [merge_cleaned, rendered]; rfl⟩, trivial⟩

/-- Every turn is matched by one move of the life or by none. -/
theorem turn_simulates (within : service.Within) :
    Simulates (Turn deployment service key accepts) Stage.Moves
      (Renders deployment.crates key) := by
  intro before after stage turn rendered
  rcases turn with outside | ⟨experiment, history, pass, -⟩
  · refine ⟨stage, .refl, fun object' found => ?_⟩
    obtain ⟨object, timestamp, stored, -, rfl⟩ := outside.drift.object key object' found
    obtain ⟨message, parsed, sound⟩ := rendered object stored
    exact ⟨message, parsed, sound.later outside.drift.clock⟩
  · have handled := pass.handled within
    obtain ⟨object, stored, snapshot⟩ := pass.snapshot
    obtain ⟨message, parsed, sound⟩ := rendered object stored
    have status : statusOf experiment = stage.status deployment.crates message :=
      Option.some.inj (snapshot.status.symm.trans parsed)
    by_cases untouched : ∀ object', after.experiments.lookup key = some object' →
        object'.status = object.status
    · refine ⟨stage, .refl, fun object' found => ?_⟩
      obtain ⟨origin, storedOrigin, -, sameSpec, -⟩ := handled.object object' found
      rw [stored] at storedOrigin
      obtain rfl := Option.some.inj storedOrigin
      rw [untouched object' found, sameSpec]
      exact ⟨message, parsed, sound.later handled.clock⟩
    · push Not at untouched
      obtain ⟨object', found, changed⟩ := untouched
      obtain ⟨origin, storedOrigin, -, sameSpec, moves⟩ := handled.object object' found
      rw [stored] at storedOrigin
      obtain rfl := Option.some.inj storedOrigin
      generalize document : object'.status = status' at moves
      cases moves with
      | kept => exact absurd document changed
      | written earlier subset written writes =>
        rw [← snapshot.spec] at sound
        obtain ⟨stage', moved, ⟨message', merged⟩, sound'⟩ := writes_moves writes status sound
          fun time read => handled.reading time (subset read)
        refine ⟨stage', .single moved, fun other foundOther => ?_⟩
        rw [found] at foundOther
        obtain rfl := Option.some.inj foundOther
        refine ⟨message', ?_, by rw [sameSpec, ← snapshot.spec]; exact sound'⟩
        rw [document, ChaosExperimentStatus.parse_mergePatch _ _ _ snapshot.status, merged]

end Follows

/-! ### The life of a stored experiment -/

/-- In every state a run reaches, the stored status is what its phase demands, and the next
turn changes it only as a life may go on. The run begins with an experiment without a
status; every call may fail and every listing may be answered by anything. -/
theorem lifecycle (deployment : Deployment) (key : ObjectKey) (initial final : Cluster)
    (object : ExperimentObject) (stored : initial.experiments.lookup key = some object)
    (fresh : object.status = .null)
    (run : ReflTransGen (Turn deployment anyListings key anyPass) initial final) :
    (∀ object', final.experiments.lookup key = some object' →
      ∃ status, ChaosExperimentStatus.parse object'.status = some status ∧
        WellFormed deployment.crates object'.spec.scenario status) ∧
    ∀ next, Turn deployment anyListings key anyPass final next →
      ∀ object' object'', final.experiments.lookup key = some object' →
        next.experiments.lookup key = some object'' →
        ∃ before after, ChaosExperimentStatus.parse object'.status = some before ∧
          ChaosExperimentStatus.parse object''.status = some after ∧ Progress before after := by
  have simulates : Simulates (Turn deployment anyListings key anyPass) Stage.Moves
      (Renders deployment.crates key) := turn_simulates anyListings_within
  obtain ⟨stage, -, rendered⟩ := simulates.run run (renders_fresh deployment.crates stored fresh)
  refine ⟨fun object' found => ?_, fun next turn object' object'' found found' => ?_⟩
  · obtain ⟨message, parsed, sound⟩ := rendered object' found
    exact ⟨_, parsed, stage.wellFormed sound message⟩
  · obtain ⟨stage', moved, rendered'⟩ := simulates _ _ _ turn rendered
    obtain ⟨message, parsed, -⟩ := rendered object' found
    obtain ⟨message', parsed', -⟩ := rendered' object'' found'
    exact ⟨_, _, parsed, parsed', Stage.progress moved message message'⟩

/-- The three passes of an edge experiment end with a clean success. -/
theorem lifecycle_sample :
    (storedStatus sampleKey (runPasses sampleDeployment sampleKey
      (sampleCluster [(sampleKey, sampleEdge)])
      [sampleServer 0, sampleServer 10000000000, sampleServer 0])).map
        (fun status => (status.phase, status.cleanupDone)) = some (.succeeded, true) ∧
    ∀ object', (runPasses sampleDeployment sampleKey (sampleCluster [(sampleKey, sampleEdge)])
        [sampleServer 0, sampleServer 10000000000, sampleServer 0]).experiments.lookup sampleKey =
          some object' →
      ∃ status, ChaosExperimentStatus.parse object'.status = some status ∧
        WellFormed sampleCrates object'.spec.scenario status := by
  refine ⟨by decide +kernel, ?_⟩
  refine (lifecycle sampleDeployment sampleKey (sampleCluster [(sampleKey, sampleEdge)]) _
    sampleEdge rfl rfl (run_runPasses ?_ (fun _ _ _ _ => trivial) _)).1
  intro server member
  simp only [List.mem_cons, List.not_mem_nil, or_false] at member
  rcases member with rfl | rfl | rfl <;> exact (sampleServer_serves _).any

end ChimpChaos
