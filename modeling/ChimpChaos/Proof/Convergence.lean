/-
This file proves that an experiment which is due is cleaned up within two passes.

The run up to then is any run: every call may have failed and every listing may have been
wrong. What it leaves behind is that a running experiment carries a start that can be parsed.
From then on the API server answers from the cluster and others create nothing; they may still
take Jobs and VirtualServices away. A pass on a due experiment makes it terminal, the next one
clears away what is left and marks the experiment clean, and every further pass does nothing.
-/

import ChimpChaos.Library.Triple
import ChimpChaos.Proof.CleanupGuarantee
import ChimpChaos.Proof.Lifecycle
import ChimpChaos.Proof.OwnJobs

namespace ChimpChaos

open Library Program Relation

/-! ### The start of a running experiment -/

section Since

variable {deployment : Deployment} {key : ObjectKey} {service : Service}
  {accepts : PassCondition} {before after : Cluster}

/-- A running experiment was started at a reading of the clock that is not before a given
time. -/
def RunningSince (crates : Crates) (key : ObjectKey) (earliest : Int) (cluster : Cluster) : Prop :=
  ∀ object status, cluster.experiments.lookup key = some object →
    ChaosExperimentStatus.parse object.status = some status → status.phase = .running →
    ∃ time, earliest ≤ time ∧ time ≤ cluster.clock ∧
      status.startedAt = some (crates.toRfc3339 time)

theorem runningSince_fresh {crates : Crates} {earliest : Int} {cluster : Cluster}
    {object : ExperimentObject} (stored : cluster.experiments.lookup key = some object)
    (fresh : object.status = .null) : RunningSince crates key earliest cluster := by
  intro other status found parsed running
  rw [stored] at found
  obtain rfl := Option.some.inj found
  rw [fresh] at parsed
  obtain rfl := Option.some.inj parsed
  cases running

/-- The only statuses a pass writes for a running experiment carry a reading of its clock. -/
theorem Deployment.Writes.startedAt {experiment : ChaosExperiment} {history : History}
    {status : ChaosExperimentStatus} (writes : deployment.Writes experiment history status)
    (running : status.phase = .running) : ∃ time, ⟨.now, time⟩ ∈ history ∧
      status.startedAt = some (deployment.crates.toRfc3339 time) := by
  cases writes with
  | failed => cases running
  | runningPod _ _ _ _ _ _ _ _ _ time read => exact ⟨time, read, rfl⟩
  | runningEdge _ _ _ _ _ _ _ _ _ _ _ _ time read => exact ⟨time, read, rfl⟩
  | completed _ _ phase terminal =>
    change phase = .running at running
    rw [running] at terminal
    cases terminal
  | cleaned _ terminal =>
    change (statusOf experiment).phase = .running at running
    rw [running] at terminal
    cases terminal

theorem runningSince_turn (within : service.Within) {earliest : Int}
    (turn : Turn deployment service key accepts before after) (late : earliest ≤ before.clock)
    (since : RunningSince deployment.crates key earliest before) :
    before.clock ≤ after.clock ∧ RunningSince deployment.crates key earliest after := by
  rcases turn with outside | ⟨experiment, history, pass, -⟩
  · have drift := outside.drift
    refine ⟨drift.clock, fun object' status found parsed running => ?_⟩
    obtain ⟨object, timestamp, stored, -, rfl⟩ := drift.object key object' found
    obtain ⟨time, notBefore, past, started⟩ := since object status stored parsed running
    exact ⟨time, notBefore, past.trans drift.clock, started⟩
  · have handled := pass.handled within
    obtain ⟨object, stored, snapshot⟩ := pass.snapshot
    refine ⟨handled.clock, fun object' status found parsed running => ?_⟩
    obtain ⟨origin, storedOrigin, -, -, moves⟩ := handled.object object' found
    rw [stored] at storedOrigin
    obtain rfl := Option.some.inj storedOrigin
    generalize document : object'.status = status' at moves
    rw [document] at parsed
    cases moves with
    | kept =>
      obtain ⟨time, notBefore, past, started⟩ := since object status stored parsed running
      exact ⟨time, notBefore, past.trans handled.clock, started⟩
    | written earlier subset written writes =>
      rw [ChaosExperimentStatus.parse_mergePatch _ _ _ snapshot.status] at parsed
      obtain rfl := Option.some.inj parsed
      obtain ⟨time, read, started⟩ := Deployment.Writes.startedAt writes running
      have reading := handled.reading time (subset read)
      refine ⟨time, late.trans reading.1, reading.2, ?_⟩
      rw [ChaosExperimentStatus.merge, started, Option.some_or]

theorem runningSince_run (within : service.Within) {initial final : Cluster}
    (run : ReflTransGen (Turn deployment service key accepts) initial final)
    (since : RunningSince deployment.crates key initial.clock initial) :
    initial.clock ≤ final.clock ∧ RunningSince deployment.crates key initial.clock final := by
  induction run with
  | refl => exact ⟨le_refl _, since⟩
  | tail _ turn inductionHypothesis =>
    obtain ⟨later, since'⟩ :=
      runningSince_turn within turn inductionHypothesis.1 inductionHypothesis.2
    exact ⟨inductionHypothesis.1.trans later, since'⟩

end Since

/-! ### The cluster from then on -/

/-- A step of somebody else that leaves the experiment alone. -/
def Quietly (key : ObjectKey) (before after : Cluster) : Prop :=
  Outside before after ∧ after.experiments.lookup key = before.experiments.lookup key

/-- The API server that answers every call from the cluster, while others leave the experiment
alone. -/
def attentive (key : ObjectKey) : Service := fun experiment request before answer after =>
  ∃ surroundings middle, ReflTransGen (Quietly key) before middle ∧
    (answer, after) = serve surroundings (actorOf experiment) request middle

/-- A pass on the stored experiment that is run to its end. -/
inductive WholePass (deployment : Deployment) (service : Service) (key : ObjectKey)
    (before : Cluster) : History → Handler ReconcileResult → Cluster → Prop
  | run {object : ExperimentObject} {experiment : ChaosExperiment} {trace : History}
      {rest : Handler ReconcileResult} {after : Cluster}
      (stored : before.experiments.lookup key = some object)
      (decoded : object.snapshot key = some experiment)
      (reaches : Reaches (service experiment) (deployment.pass experiment) before trace rest after)
      (ended : rest.Ended) : WholePass deployment service key before trace rest after

/-- The next reconcile: some steps of others, and a whole pass. -/
def Round (deployment : Deployment) (key : ObjectKey) (before after : Cluster) : Prop :=
  ∃ middle trace rest, ReflTransGen (Quietly key) before middle ∧
    WholePass deployment (attentive key) key middle trace rest after

/-- Rounds go on, and however they go, after so many of them a condition holds. -/
def AfterRounds (deployment : Deployment) (key : ObjectKey) (goal : Cluster → Prop) :
    Nat → Cluster → Prop
  | 0, cluster => goal cluster
  | count + 1, cluster => (∃ after, Round deployment key cluster after) ∧
      ∀ after, Round deployment key cluster after → AfterRounds deployment key goal count after

/-- An experiment is due: it runs and its duration has elapsed, as far as its start can be
parsed, or it is terminal and not marked clean. -/
def Due (crates : Crates) (duration : UInt64) (clock : Int) (status : ChaosExperimentStatus) :
    Prop :=
  (status.phase = .running ∧ ∀ text start, status.startedAt = some text →
    crates.parseFromRfc3339 text = some start →
      start + duration.toNat * 1000000000 ≤ clock) ∨
    (status.phase.isTerminal = true ∧ status.cleanupDone = false)

/-- The experiment is terminal and marked clean, nothing of it is left where it was put, and a
pass does nothing, whatever the API server would answer. -/
structure Settled (deployment : Deployment) (key : ObjectKey) (cluster : Cluster) : Prop where
  status : ∃ status, storedStatus key cluster = some status ∧ status.phase.isTerminal = true ∧
    status.cleanupDone = true ∧
    ∀ jobName ∈ status.runnerJobs, cluster.jobs.lookup (key.1, jobName) = none
  services : ∀ object, cluster.experiments.lookup key = some object →
    object.spec.scenario.isEdgeChaos = true →
    ∀ place tracked, cluster.virtualServices.lookup place = some tracked →
      place.1 = servicesNamespace key object.spec →
      isOwnedBy key.2 (documentLabels tracked.value) = false
  idle : ∀ service trace rest after, WholePass deployment service key cluster trace rest after →
    trace = [] ∧ rest = .done .done ∧ after = cluster

/-- The experiment is settled and stays so while rounds and steps of others go on. -/
def SettledForGood (deployment : Deployment) (key : ObjectKey) (cluster : Cluster) : Prop :=
  ∀ later, ReflTransGen (fun before after => Quietly key before after ∨
    Round deployment key before after) cluster later → Settled deployment key later

/-! ### What becomes of the cluster -/

/-- Time passes, and Jobs and VirtualServices only go away. -/
structure Dwindles (before after : Cluster) : Prop where
  clock : before.clock ≤ after.clock
  job : ∀ place, before.jobs.lookup place = none → after.jobs.lookup place = none
  virtualService : ∀ place tracked, after.virtualServices.lookup place = some tracked →
    before.virtualServices.lookup place = some tracked

theorem Drift.dwindles {before after : Cluster} (drift : Drift before after) :
    Dwindles before after where
  clock := drift.clock
  job := fun place absent => by
    cases found : after.jobs.lookup place with
    | none => rfl
    | some tracked =>
      obtain ⟨earlier, stored, -⟩ := drift.job place tracked found
      rw [absent] at stored
      cases stored
  virtualService := drift.virtualService

theorem Dwindles.trans {first second third : Cluster} (left : Dwindles first second)
    (right : Dwindles second third) : Dwindles first third where
  clock := left.clock.trans right.clock
  job := fun place absent => right.job place (left.job place absent)
  virtualService := fun place tracked found =>
    left.virtualService place tracked (right.virtualService place tracked found)

/-- The cluster dwindles, and the experiment stays as it is stored. -/
structure Calm (key : ObjectKey) (before after : Cluster) : Prop extends Dwindles before after where
  experiment : after.experiments.lookup key = before.experiments.lookup key

theorem Calm.refl (key : ObjectKey) (cluster : Cluster) : Calm key cluster cluster :=
  ⟨(Drift.refl cluster).dwindles, rfl⟩

theorem Calm.trans {key : ObjectKey} {first second third : Cluster} (left : Calm key first second)
    (right : Calm key second third) : Calm key first third :=
  ⟨left.toDwindles.trans right.toDwindles, right.experiment.trans left.experiment⟩

theorem calm_of_quietly {key : ObjectKey} {before after : Cluster}
    (quiet : ReflTransGen (Quietly key) before after) : Calm key before after := by
  induction quiet with
  | refl => exact Calm.refl key before
  | tail _ step inductionHypothesis =>
    exact inductionHypothesis.trans ⟨step.1.drift.dwindles, step.2⟩

/-- The calls that neither create anything nor write to an experiment, among those a pass makes
once the experiment is under way. -/
def ApiCall.tidies : ApiCall → Bool
  | .listJobs .. | .deleteJob .. | .listVirtualServicesForHost .. | .deleteVirtualService ..
  | .now => true
  | _ => false

theorem calm_effect {surroundings : Surroundings} {key actor : ObjectKey} {request : ApiCall}
    (tidies : request.tidies = true) (cluster : Cluster) :
    Calm key cluster (effect surroundings actor cluster request) := by
  cases request with
  | deleteJob ns name => exact ⟨(Outside.jobGone cluster (ns, name)).drift.dwindles, rfl⟩
  | deleteVirtualService ns name =>
    exact ⟨(Outside.virtualServiceGone cluster (ns, name)).drift.dwindles, rfl⟩
  | now => exact ⟨(Outside.time cluster surroundings.elapsed).drift.dwindles, rfl⟩
  | listJobs | listVirtualServicesForHost => exact Calm.refl key cluster
  | _ => cases tidies

section Attentive

variable {key : ObjectKey} {experiment : ChaosExperiment} {before : Cluster}
  {Value : Type} {finish : Value → Cluster → Prop}

/-- What an answered call says and does. -/
theorem attentive_cases {request : ApiCall} {answer : Answer request} {after : Cluster}
    (answered : attentive key experiment request before answer after) :
    ∃ surroundings middle, Calm key before middle ∧ answer = reply surroundings middle request ∧
      after = effect surroundings (actorOf experiment) middle request := by
  obtain ⟨surroundings, middle, quiet, served⟩ := answered
  obtain ⟨rfl, rfl⟩ := Prod.mk.inj served
  exact ⟨surroundings, middle, calm_of_quietly quiet, rfl, rfl⟩

theorem attentive_calm {request : ApiCall} {answer : Answer request} {after : Cluster}
    (answered : attentive key experiment request before answer after)
    (tidies : request.tidies = true) : Calm key before after := by
  obtain ⟨surroundings, middle, calm, -, rfl⟩ := attentive_cases answered
  exact calm.trans (calm_effect tidies middle)

/-! ### The handlers -/

theorem deleteJobs_ensures (ns : String) (jobNames : List String) :
    (deleteJobs ns jobNames).Ensures (attentive key experiment) (fun _ after =>
      Calm key before after ∧ ∀ jobName ∈ jobNames, after.jobs.lookup (ns, jobName) = none)
      before := by
  induction jobNames generalizing before with
  | nil => exact ensures_done ⟨Calm.refl key before, by simp⟩
  | cons jobName rest inductionHypothesis =>
    refine ensures_call fun answer middle answered => ?_
    have calm := attentive_calm answered rfl
    have gone : middle.jobs.lookup (ns, jobName) = none := by
      obtain ⟨_, _, -, -, rfl⟩ := attentive_cases answered
      exact AList.lookup_erase _ _
    refine inductionHypothesis.weaken fun _ after done => ⟨calm.trans done.1, ?_⟩
    intro name member
    rcases List.mem_cons.mp member with rfl | member
    · exact done.1.job _ gone
    · exact done.2 name member

/-- A deletion that is answered from the cluster never stops a cleanup. -/
theorem tolerate_presenceAnswer (present : Bool) :
    tolerate isNotFound (presenceAnswer present) = .done () := by
  cases present <;> rfl

theorem deleteOwned_ensures (ns name : String) (services : List VirtualServiceInfo) :
    (deleteOwned ns name services).Ensures (attentive key experiment) (fun _ after =>
      Calm key before after ∧ ∀ vs ∈ services, isOwnedBy name vs.labels = true →
        after.virtualServices.lookup (ns, vs.name) = none) before := by
  induction services generalizing before with
  | nil => exact ensures_done ⟨Calm.refl key before, by simp⟩
  | cons vs rest inductionHypothesis =>
    unfold deleteOwned
    split_ifs with owned
    · refine ensures_call fun answer middle answered => ?_
      have calm := attentive_calm answered rfl
      obtain ⟨_, _, -, rfl, erased⟩ := attentive_cases answered
      have gone : middle.virtualServices.lookup (ns, vs.name) = none := by
        rw [erased]
        exact AList.lookup_erase _ _
      show (tolerate isNotFound (presenceAnswer _) >>= fun _ =>
        deleteOwned ns name rest).Ensures _ _ _
      rw [tolerate_presenceAnswer, done_bind]
      refine inductionHypothesis.weaken fun _ after done => ⟨calm.trans done.1, ?_⟩
      intro other member owned'
      rcases List.mem_cons.mp member with rfl | member
      · cases found : after.virtualServices.lookup (ns, other.name) with
        | none => rfl
        | some tracked =>
          rw [done.1.virtualService _ tracked found] at gone
          cases gone
      · exact done.2 other member owned'
    · refine inductionHypothesis.weaken fun _ after done => ⟨done.1, ?_⟩
      intro other member owned'
      rcases List.mem_cons.mp member with rfl | member
      · exact absurd owned' owned
      · exact done.2 other member owned'

theorem cleanupVirtualServices_ensures (ns name : String) :
    (cleanupVirtualServices ns name).Ensures (attentive key experiment) (fun _ after =>
      Calm key before after ∧ ∀ place tracked,
        after.virtualServices.lookup place = some tracked → place.1 = ns →
        isOwnedBy name (documentLabels tracked.value) = false) before := by
  refine ensures_call fun answer listed answered => ?_
  have calm := attentive_calm answered rfl
  obtain ⟨_, _, -, rfl, rfl⟩ := attentive_cases answered
  refine (deleteOwned_ensures ns name _).weaken fun _ after done => ⟨calm.trans done.1, ?_⟩
  intro place tracked found inside
  by_contra owned
  have member := (Store.mem_listing _ place tracked).mpr (done.1.virtualService _ _ found)
  have gone := done.2 (virtualServiceInfo place.2 tracked.value)
    (List.mem_map.mpr ⟨_, List.mem_filter.mpr ⟨member, by simpa using inside⟩, rfl⟩)
    (Bool.not_eq_false _ ▸ owned)
  rw [← inside] at gone
  change after.virtualServices.lookup place = none at gone
  rw [found] at gone
  cases gone

/-! ### The status writes -/

/-- An experiment is stored with a status. It has the finalizer and is not being deleted. -/
structure Stands (key : ObjectKey) (object : ExperimentObject) (status : ChaosExperimentStatus)
    (cluster : Cluster) : Prop where
  stored : cluster.experiments.lookup key = some object
  held : finalizerName ∈ object.finalizers.getD []
  alive : object.deletionTimestamp = none
  parsed : ChaosExperimentStatus.parse object.status = some status

theorem Stands.calm {object : ExperimentObject} {status : ChaosExperimentStatus}
    {after : Cluster} (stands : Stands key object status before) (calm : Calm key before after) :
    Stands key object status after :=
  { stands with stored := calm.experiment.trans stands.stored }

theorem Stands.exists_snapshot {object : ExperimentObject} {status : ChaosExperimentStatus}
    (stands : Stands key object status before) :
    ∃ snapshot, object.snapshot key = some snapshot := by
  unfold ExperimentObject.snapshot
  split_ifs
  · exact ⟨_, rfl⟩
  · rw [stands.parsed]
    exact ⟨_, rfl⟩

theorem Stands.active {object : ExperimentObject} {status : ChaosExperimentStatus}
    (stands : Stands key object status before)
    (snapshot : IsSnapshot key object experiment) : Active experiment := by
  refine ⟨snapshot.needsFinalizer_eq_false.mpr stands.held, ?_⟩
  rw [isBeingDeleted, snapshot.deletion, stands.alive]
  rfl

theorem Stands.statusOf_eq {object : ExperimentObject} {status : ChaosExperimentStatus}
    (stands : Stands key object status before)
    (snapshot : IsSnapshot key object experiment) : statusOf experiment = status :=
  Option.some.inj (snapshot.status.symm.trans stands.parsed)

/-- A status write is answered with success, and nothing else happens to the experiment. -/
theorem patchStatus_ensures {object : ExperimentObject} {status : ChaosExperimentStatus}
    (stands : Stands key object status before) (written : ChaosExperimentStatus) :
    (patchStatus key.1 key.2 written).Ensures (attentive key experiment) (fun _ after =>
      Dwindles before after ∧
        Stands key (object.patchStatus written) (status.merge written) after) before := by
  refine ensures_call fun answer after answered => ?_
  obtain ⟨_, middle, calm, rfl, rfl⟩ := attentive_cases answered
  have stands' := stands.calm calm
  show (Program.ofExcept (presenceAnswer (middle.experiments.lookup key).isSome) :
    Handler Unit).Ensures _ _ _
  rw [stands'.stored]
  refine ensures_done ⟨⟨calm.clock, calm.job, calm.virtualService⟩, ?_, stands.held, stands.alive,
    ChaosExperimentStatus.parse_mergePatch _ _ _ stands.parsed⟩
  show (middle.experiments.update key _).lookup key = _
  rw [Store.lookup_update, if_pos rfl, stands'.stored]
  rfl

/-- The experiment has been completed: it is terminal and not marked clean. -/
def Completed (key : ObjectKey) (spec : ChaosExperimentSpec) (cluster : Cluster) : Prop :=
  ∃ object status, object.spec = spec ∧ Stands key object status cluster ∧
    status.phase.isTerminal = true ∧ status.cleanupDone = false

theorem complete_ensures (crates : Crates) {object : ExperimentObject}
    {status : ChaosExperimentStatus} (stands : Stands key object status before)
    (unclean : status.cleanupDone = false) {phase : Phase} (terminal : phase.isTerminal = true)
    (message : String) :
    (complete crates key.1 key.2 status phase message).Ensures (attentive key experiment)
      (fun _ after => Completed key object.spec after) before := by
  refine ensures_call fun time middle answered => ?_
  have stands' := stands.calm (attentive_calm answered rfl)
  show (patchStatus _ _ (completedStatus status phase message _)).Ensures _ _ _
  refine (patchStatus_ensures stands' _).weaken fun _ after done => ?_
  refine ⟨_, _, ?_, done.2, ?_⟩
  · rfl
  · rw [merge_completed]
    exact ⟨terminal, unclean⟩

end Attentive

/-! ### The passes -/

section Passes

variable {deployment : Deployment} {key : ObjectKey} {object : ExperimentObject}
  {status : ChaosExperimentStatus} {before : Cluster} {experiment : ChaosExperiment}

theorem completeIfElapsed_ensures (crates : Crates) (stands : Stands key object status before)
    (unclean : status.cleanupDone = false) {text : String} {start : Int}
    (started : status.startedAt = some text) (parsed : crates.parseFromRfc3339 text = some start)
    (fits : object.spec.duration.toNat < 2 ^ 63)
    (elapsed : start + object.spec.duration.toNat * 1000000000 ≤ before.clock) (message : String) :
    (completeIfElapsed crates key.1 key.2 status object.spec.duration message).Ensures
      (attentive key experiment) (fun _ after => Completed key object.spec after) before := by
  unfold completeIfElapsed isDurationElapsed
  rw [started]
  simp only [parsed]
  refine ensures_call fun time middle answered => ?_
  have calm := attentive_calm answered rfl
  have later : before.clock ≤ time := by
    obtain ⟨surroundings, earlier, calm', rfl, -⟩ := attentive_cases answered
    exact calm'.clock.trans (Int.le_add_of_nonneg_right (Int.natCast_nonneg _))
  have tested := durationTest_of_elapsed fits (elapsed.trans later)
  show (if durationTest object.spec.duration start time = true then _ else _ :
    Handler Unit).Ensures _ _ _
  rw [if_pos tested]
  exact complete_ensures crates (stands.calm calm) unclean rfl message

theorem running_ensures (stands : Stands key object status before)
    (running : status.phase = .running) (unclean : status.cleanupDone = false) {text : String}
    {start : Int} (started : status.startedAt = some text)
    (parsed : deployment.crates.parseFromRfc3339 text = some start)
    (fits : object.spec.duration.toNat < 2 ^ 63)
    (elapsed : start + object.spec.duration.toNat * 1000000000 ≤ before.clock)
    (decoded : object.snapshot key = some experiment) :
    (deployment.pass experiment).Ensures (attentive key experiment)
      (fun _ after => Completed key object.spec after) before := by
  have snapshot := isSnapshot_of_snapshot decoded
  have same := stands.statusOf_eq snapshot
  rw [Deployment.pass_running (stands.active snapshot) (by rw [same]; exact running)]
  refine Ensures.bind ?_ fun _ _ done => ensures_done done
  unfold handleRunning
  simp only [same, snapshot.expName_eq, snapshot.expNamespace_eq, snapshot.spec]
  split_ifs with edgeChaos
  · exact completeIfElapsed_ensures _ stands unclean started parsed fits elapsed _
  · refine ensures_call fun answer middle answered => ?_
    have calm := attentive_calm answered rfl
    have stands' := stands.calm calm
    obtain ⟨_, _, -, rfl, -⟩ := attentive_cases answered
    show (if anyJobFailed _ = true then _ else if allJobsSucceeded _ = true then _ else _ :
      Handler Unit).Ensures _ _ _
    split_ifs
    · exact complete_ensures _ stands' unclean rfl _
    · exact complete_ensures _ stands' unclean rfl _
    · exact completeIfElapsed_ensures _ stands' unclean started parsed fits
        (elapsed.trans calm.clock) _

/-- The experiment is terminal and marked clean, and nothing of it is left where it was put. -/
def Clean (key : ObjectKey) (cluster : Cluster) : Prop :=
  ∃ object status, Stands key object status cluster ∧ status.phase.isTerminal = true ∧
    status.cleanupDone = true ∧
    (∀ jobName ∈ status.runnerJobs, cluster.jobs.lookup (key.1, jobName) = none) ∧
    (object.spec.scenario.isEdgeChaos = true →
      ∀ place tracked, cluster.virtualServices.lookup place = some tracked →
        place.1 = servicesNamespace key object.spec →
        isOwnedBy key.2 (documentLabels tracked.value) = false)

theorem Clean.calm {after : Cluster} (clean : Clean key before) (calm : Calm key before after) :
    Clean key after := by
  obtain ⟨object, status, stands, terminal, done, jobs, services⟩ := clean
  exact ⟨object, status, stands.calm calm, terminal, done,
    fun jobName recorded => calm.job _ (jobs jobName recorded), fun edgeChaos place tracked found =>
      services edgeChaos place tracked (calm.virtualService place tracked found)⟩

/-- Marking an experiment clean that has been cleared away. -/
theorem markCleaned_ensures (stands : Stands key object status before)
    (snapshot : IsSnapshot key object experiment) (terminal : status.phase.isTerminal = true)
    (jobs : ∀ jobName ∈ status.runnerJobs, before.jobs.lookup (key.1, jobName) = none)
    (services : object.spec.scenario.isEdgeChaos = true →
      ∀ place tracked, before.virtualServices.lookup place = some tracked →
        place.1 = servicesNamespace key object.spec →
        isOwnedBy key.2 (documentLabels tracked.value) = false) :
    (markCleaned experiment).Ensures (attentive key experiment) (fun _ after => Clean key after)
      before := by
  unfold markCleaned
  rw [stands.statusOf_eq snapshot, snapshot.expName_eq, snapshot.expNamespace_eq]
  refine (patchStatus_ensures stands _).weaken fun _ after done => ?_
  obtain ⟨dwindles, stands'⟩ := done
  rw [merge_cleaned] at stands'
  exact ⟨_, _, stands', terminal, rfl,
    fun jobName recorded => dwindles.job _ (jobs jobName recorded),
    fun edgeChaos place tracked found =>
      services edgeChaos place tracked (dwindles.virtualService place tracked found)⟩

theorem handleTerminal_ensures (stands : Stands key object status before)
    (snapshot : IsSnapshot key object experiment) (terminal : status.phase.isTerminal = true)
    (unclean : status.cleanupDone = false) :
    (handleTerminal experiment).Ensures (attentive key experiment)
      (fun _ after => Clean key after) before := by
  unfold handleTerminal
  simp only [stands.statusOf_eq snapshot, unclean, Bool.false_eq_true, if_false,
    snapshot.expName_eq, snapshot.expNamespace_eq, snapshot.targetNamespace_eq, snapshot.spec]
  refine (deleteJobs_ensures key.1 status.runnerJobs).bind fun _ middle done => ?_
  obtain ⟨calm, jobs⟩ := done
  split_ifs with edgeChaos
  · refine ((cleanupVirtualServices_ensures _ _).attempt).bind fun result later cleaned => ?_
    obtain ⟨_, rfl, calm', services⟩ := cleaned
    exact markCleaned_ensures (stands.calm (calm.trans calm')) snapshot terminal
      (fun jobName recorded => calm'.job _ (jobs jobName recorded)) fun _ => services
  · exact markCleaned_ensures (stands.calm calm) snapshot terminal jobs
      fun edge => absurd edge edgeChaos

theorem pass_terminal (active : Active experiment)
    (terminal : (statusOf experiment).phase.isTerminal = true) :
    deployment.pass experiment = handleTerminal experiment >>= fun _ =>
      if (statusOf experiment).cleanupDone then .done .done
      else .done (.requeue (requeueDuration .running)) := by
  cases phase : (statusOf experiment).phase with
  | succeeded | failed => simp [Deployment.pass, reconcile, active.1, active.2, phase]
  | pending | running =>
    rw [phase] at terminal
    cases terminal

theorem terminal_ensures (stands : Stands key object status before)
    (terminal : status.phase.isTerminal = true) (unclean : status.cleanupDone = false)
    (decoded : object.snapshot key = some experiment) :
    (deployment.pass experiment).Ensures (attentive key experiment)
      (fun _ after => Clean key after) before := by
  have snapshot := isSnapshot_of_snapshot decoded
  have same := stands.statusOf_eq snapshot
  rw [pass_terminal (stands.active snapshot) (by rw [same]; exact terminal), same, unclean]
  exact (handleTerminal_ensures stands snapshot terminal unclean).bind fun _ _ done =>
    ensures_done done

/-- A pass on an experiment that is marked clean is over at once. -/
theorem pass_cleaned (active : Active experiment)
    (terminal : (statusOf experiment).phase.isTerminal = true)
    (clean : (statusOf experiment).cleanupDone = true) :
    deployment.pass experiment = .done .done := by
  rw [pass_terminal active terminal]
  simp [handleTerminal, clean]

end Passes

/-! ### Rounds -/

section Rounds

variable {deployment : Deployment} {key : ObjectKey} {cluster before after : Cluster}

theorem exists_wholePass (deployment : Deployment) {object : ExperimentObject}
    {experiment : ChaosExperiment} (stored : cluster.experiments.lookup key = some object)
    (decoded : object.snapshot key = some experiment) :
    ∃ trace rest after, WholePass deployment (attentive key) key cluster trace rest after := by
  let server := serve sampleSurroundings (actorOf experiment)
  have reaches := reaches_exec server (deployment.pass experiment) cluster
  refine ⟨_, _, _, .run stored decoded (reaches.weaken ?_) (Outcome.remaining_ended _)⟩
  exact fun request state answer later served => ⟨_, state, .refl, served.symm⟩

/-- What every pass on the stored experiment ensures holds after a round. -/
theorem afterRounds_succ {goal : Cluster → Prop} {count : Nat} {object : ExperimentObject}
    {status : ChaosExperimentStatus} (stands : Stands key object status cluster)
    (ensures : ∀ middle experiment, Calm key cluster middle →
      object.snapshot key = some experiment →
      (deployment.pass experiment).Ensures (attentive key experiment)
        (fun _ later => AfterRounds deployment key goal count later) middle) :
    AfterRounds deployment key goal (count + 1) cluster := by
  constructor
  · obtain ⟨experiment, decoded⟩ := stands.exists_snapshot
    obtain ⟨trace, rest, after, pass⟩ := exists_wholePass deployment stands.stored decoded
    exact ⟨after, cluster, trace, rest, .refl, pass⟩
  · rintro after ⟨middle, trace, rest, quiet, pass⟩
    have calm := calm_of_quietly quiet
    cases pass with
    | run stored decoded reaches ended =>
      rw [(stands.calm calm).stored] at stored
      obtain rfl := Option.some.inj stored
      obtain ⟨_, -, done⟩ := (ensures middle _ calm decoded).ended reaches ended
      exact done

/-- A whole pass on a clean experiment does nothing. -/
theorem Clean.idle {service : Service} {trace : History} {rest : Handler ReconcileResult}
    (clean : Clean key before) (pass : WholePass deployment service key before trace rest after) :
    trace = [] ∧ rest = .done .done ∧ after = before := by
  obtain ⟨object, status, stands, terminal, done, -, -⟩ := clean
  cases pass with
  | run stored decoded reaches ended =>
    rw [stands.stored] at stored
    obtain rfl := Option.some.inj stored
    have snapshot := isSnapshot_of_snapshot decoded
    have same := stands.statusOf_eq snapshot
    rw [pass_cleaned (stands.active snapshot) (by rw [same]; exact terminal)
      (by rw [same]; exact done)] at reaches
    exact reaches.of_ended trivial

theorem Clean.settled (clean : Clean key cluster) : Settled deployment key cluster where
  status := by
    obtain ⟨object, status, stands, terminal, done, jobs, -⟩ := clean
    exact ⟨status, storedStatus_eq_some.mpr ⟨object, stands.stored, stands.parsed⟩, terminal, done,
      jobs⟩
  services := fun object stored => by
    obtain ⟨other, status, stands, -, -, -, services⟩ := clean
    rw [stands.stored] at stored
    obtain rfl := Option.some.inj stored
    exact services
  idle := fun _ _ _ _ pass => clean.idle pass

theorem Clean.settledForGood (clean : Clean key cluster) :
    SettledForGood deployment key cluster := by
  intro later steps
  suffices stays : Clean key later from stays.settled
  induction steps with
  | refl => exact clean
  | tail _ step inductionHypothesis =>
    rcases step with quiet | ⟨middle, trace, rest, quiet, pass⟩
    · exact inductionHypothesis.calm (calm_of_quietly (.single quiet))
    · have clean' := inductionHypothesis.calm (calm_of_quietly quiet)
      obtain ⟨-, -, rfl⟩ := clean'.idle pass
      exact clean'

theorem Clean.afterRound (clean : Clean key cluster) :
    AfterRounds deployment key (SettledForGood deployment key) 1 cluster := by
  obtain ⟨object, status, stands, terminal, done, -, -⟩ := id clean
  refine afterRounds_succ stands fun middle experiment calm decoded => ?_
  have snapshot := isSnapshot_of_snapshot decoded
  have same := (stands.calm calm).statusOf_eq snapshot
  rw [pass_cleaned (stands.active snapshot) (by rw [same]; exact terminal)
    (by rw [same]; exact done)]
  exact ensures_done (clean.calm calm).settledForGood

end Rounds

/-- After any run, an experiment that is due is settled by the next two reconciles, for good: it
is terminal and marked clean, nothing of it is left, and reconciling does nothing any more. Of the
time library only the round trip of the clock's readings is used. -/
theorem converges (deployment : Deployment) (key : ObjectKey) (initial reached : Cluster)
    (origin object : ExperimentObject) (status : ChaosExperimentStatus)
    (stored : initial.experiments.lookup key = some origin) (fresh : origin.status = .null)
    (run : ReflTransGen (Turn deployment anyListings key anyPass) initial reached)
    (stands : Stands key object status reached) (fits : object.spec.duration.toNat < 2 ^ 63)
    (roundTrip : ∀ time, initial.clock ≤ time → time ≤ reached.clock →
      deployment.crates.parseFromRfc3339 (deployment.crates.toRfc3339 time) = some time)
    (due : Due deployment.crates object.spec.duration reached.clock status) :
    AfterRounds deployment key (SettledForGood deployment key) 2 reached := by
  rcases due with ⟨running, elapsed⟩ | ⟨terminal, unclean⟩
  · obtain ⟨-, since⟩ :=
      runningSince_run anyListings_within run (runningSince_fresh stored fresh)
    obtain ⟨time, notBefore, past, started⟩ :=
      since object status stands.stored stands.parsed running
    have parsed := roundTrip time notBefore past
    have simulates : Simulates (Turn deployment anyListings key anyPass) Stage.Moves
        (Renders deployment.crates key) := turn_simulates anyListings_within
    obtain ⟨stage, -, rendered⟩ := simulates.run run (renders_fresh deployment.crates stored fresh)
    obtain ⟨message, parsedStage, sound⟩ := rendered object stands.stored
    obtain rfl := Option.some.inj (stands.parsed.symm.trans parsedStage)
    have unclean := ((stage.wellFormed sound message).running running).2.2.2.1
    refine afterRounds_succ stands fun middle experiment calm decoded => ?_
    refine (running_ensures (stands.calm calm) running unclean started parsed fits
      ((elapsed _ time started parsed).trans calm.clock) decoded).weaken fun _ first done => ?_
    obtain ⟨object', status', -, stands', terminal, unclean'⟩ := done
    refine afterRounds_succ stands' fun middle' experiment' calm' decoded' => ?_
    exact (terminal_ensures (stands'.calm calm') terminal unclean' decoded').weaken
      fun _ _ clean => clean.settledForGood
  · refine afterRounds_succ stands fun middle experiment calm decoded => ?_
    exact (terminal_ensures (stands.calm calm) terminal unclean decoded).weaken
      fun _ _ clean => clean.afterRound

/-! ### A run that has come due -/

/-- Crates that agree with the sample crates at the two instants of the example and print every
other instant as a text of that length. -/
def lengthCrates : Crates where
  toRfc3339 time :=
    if time = 0 ∨ time = 10000000000 then sampleCrates.toRfc3339 time
    else String.ofList (List.replicate time.toNat 'x')
  parseFromRfc3339 text := some ((sampleCrates.parseFromRfc3339 text).getD text.length)
  printJson := sampleCrates.printJson

theorem lengthCrates_roundTrip (time : Int) (nonnegative : 0 ≤ time) :
    lengthCrates.parseFromRfc3339 (lengthCrates.toRfc3339 time) = some time := by
  unfold lengthCrates
  simp only [Option.some.injEq]
  split_ifs with sampled
  · rcases sampled with rfl | rfl <;> rfl
  · have unknown (text : String) (digit : '1' ∈ text.toList) :
        String.ofList (List.replicate time.toNat 'x') ≠ text := by
      rintro rfl
      rw [String.toList_ofList] at digit
      exact absurd (List.eq_of_mem_replicate digit) (by decide)
    have absent : sampleCrates.parseFromRfc3339
        (String.ofList (List.replicate time.toNat 'x')) = none := by
      simp only [sampleCrates]
      rw [if_neg (unknown "1970-01-01T00:00:00+00:00" (by decide)),
        if_neg (unknown "1970-01-01T00:00:10+00:00" (by decide))]
    rw [absent, Option.getD_none, String.length_ofList, List.length_replicate]
    exact Int.toNat_of_nonneg nonnegative

def lengthDeployment : Deployment := { sampleDeployment with crates := lengthCrates }

/-- The cluster after the first pass on the edge experiment. -/
def startedCluster : Cluster :=
  runPasses lengthDeployment sampleKey (sampleCluster [(sampleKey, sampleEdge)]) [sampleServer 0]

/-- Ten seconds after the fault was put into place, the experiment of five seconds settles. -/
theorem converges_sample :
    (storedStatus sampleKey startedCluster).map ChaosExperimentStatus.phase = some .running ∧
      AfterRounds lengthDeployment sampleKey (SettledForGood lengthDeployment sampleKey) 2
        { startedCluster with clock := startedCluster.clock + 10000000000 } := by
  have stored : (startedCluster.experiments.lookup sampleKey).map (fun object =>
      ((object.finalizers, object.deletionTimestamp, object.spec.duration),
        ChaosExperimentStatus.parse object.status)) =
      some ((some [finalizerName], none, 5), some (runningEdgeStatus
        (freshSnapshot sampleKey sampleEdge) ⟨"payment", "ledger"⟩ sampleUid
        "1970-01-01T00:00:00+00:00")) := by decide +kernel
  obtain ⟨object, found, same⟩ := Option.map_eq_some_iff.mp stored
  obtain ⟨known, parsed⟩ := Prod.mk.inj same
  obtain ⟨finalizers, rest⟩ := Prod.mk.inj known
  obtain ⟨alive, duration⟩ := Prod.mk.inj rest
  refine ⟨by decide +kernel, converges lengthDeployment sampleKey
    (sampleCluster [(sampleKey, sampleEdge)]) _ sampleEdge object _ rfl rfl ?_
    ⟨found, by rw [finalizers]; exact List.mem_singleton.mpr rfl, alive, parsed⟩
    (by rw [duration]; decide) (fun time nonnegative _ => lengthCrates_roundTrip time nonnegative)
    (Or.inl ⟨rfl, ?_⟩)⟩
  · refine ReflTransGen.tail (run_runPasses ?_ (fun _ _ _ _ => trivial) _)
      (Or.inl (Outside.time _ 10000000000))
    intro server member
    obtain rfl := List.mem_singleton.mp member
    exact (sampleServer_serves _).any
  · intro text start started parsed'
    obtain rfl := Option.some.inj started
    obtain rfl : start = 0 := (Option.some.inj parsed').symm
    rw [duration]
    decide +kernel

end ChimpChaos
