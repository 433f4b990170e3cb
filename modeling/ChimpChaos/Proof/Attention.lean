/-
This file proves what the schedule of an experiment knows of its life.

A pass that is going on has found the experiment at some stage, and what it has been told since
holds: an accepted status write has moved the life on, an accepted removal of the finalizer has
removed the object. From this and from the ways a pass ends it follows that the controller never
forgets an experiment.
-/

import ChimpChaos.Cluster.Timed
import ChimpChaos.Proof.Convergence
import ChimpChaos.Proof.Interleaving

namespace ChimpChaos

open Library Relation

/-! ### How far a status has come -/

/-- How far an experiment has come, as its status says. -/
def ChaosExperimentStatus.rank (status : ChaosExperimentStatus) : Nat :=
  match status.phase with
  | .pending => 0
  | .running => 1
  | .succeeded | .failed => if status.cleanupDone then 3 else 2

@[simp] theorem Stage.rank_status (crates : Crates) (message : Option String) (stage : Stage) :
    (stage.status crates message).rank = stage.rank := by
  cases stage with
  | finished _ success => cases success <;> rfl
  | _ => rfl

theorem rank_eq_three {status : ChaosExperimentStatus} (last : status.rank = 3) :
    status.phase.isTerminal = true ∧ status.cleanupDone = true := by
  unfold ChaosExperimentStatus.rank at last
  cases phase : status.phase <;> cases clean : status.cleanupDone <;> simp [phase, clean] at last
    <;> exact ⟨rfl, rfl⟩

theorem rank_of_clean {status : ChaosExperimentStatus} (terminal : status.phase.isTerminal = true)
    (clean : status.cleanupDone = true) : status.rank = 3 := by
  unfold ChaosExperimentStatus.rank
  cases phase : status.phase with
  | pending | running =>
    rw [phase] at terminal
    cases terminal
  | succeeded | failed => exact if_pos clean

namespace Stage

/-- When an experiment was put into effect, as far as its status can be parsed. -/
def since (crates : Crates) (stage : Stage) : Option Int :=
  (stage.status crates none).startedAt.bind crates.parseFromRfc3339

theorem startedAt_status (crates : Crates) (message : Option String) (stage : Stage) :
    (stage.status crates message).startedAt = (stage.status crates none).startedAt := by
  cases stage <;> rfl

variable {crates : Crates} {stage stage' : Stage}

theorem startedAt_of_goes (goes : ReflGen Moves stage stage') {text : String}
    (started : (stage.status crates none).startedAt = some text) :
    (stage'.status crates none).startedAt = some text :=
  (Stage.progress goes none none).startedAt text started

theorem since_of_goes (goes : ReflGen Moves stage stage') {start : Int}
    (since : stage.since crates = some start) : stage'.since crates = some start := by
  obtain ⟨text, started, parsed⟩ := Option.bind_eq_some_iff.mp since
  exact Option.bind_eq_some_iff.mpr ⟨text, startedAt_of_goes goes started, parsed⟩

/-- Only a pending experiment is put into effect. -/
theorem eq_pending_of_goes (goes : ReflGen Moves stage stage') {start : Int}
    (unknown : stage.since crates = none) (since : stage'.since crates = some start) :
    stage = .pending := by
  cases goes with
  | refl => cases unknown.symm.trans since
  | single moved =>
    cases moved with
    | start | refuse => rfl
    | finish | cleanFinished => cases unknown.symm.trans since
    | cleanRefused => cases since

theorem rank_le_of_goes (goes : ReflGen Moves stage stage') : stage.rank ≤ stage'.rank := by
  cases goes with
  | refl => exact le_refl _
  | single moved => exact moved.rank_lt.le

end Stage

/-! ### What a pass knows -/

/-- The pass on an experiment that began at some time has found the experiment at a stage and has
followed it since. -/
structure Informed (deployment : Deployment) (key : ObjectKey) (cluster : Cluster)
    (stage : Stage) (work : Work) (begun : Int) : Prop where
  began : begun ≤ cluster.clock
  read : ∀ time, ⟨.now, time⟩ ∈ work.history → begun ≤ time
  closes : Closes (Ending deployment.crates work.experiment) work.rest work.history
  behind : (statusOf work.experiment).rank ≤ stage.rank
  started : (statusOf work.experiment).phase = .running → ∃ text,
    (statusOf work.experiment).startedAt = some text ∧
      (stage.status deployment.crates none).startedAt = some text
  early : (statusOf work.experiment).phase = .pending → ∀ object start,
    cluster.experiments.lookup key = some object →
      stage.since deployment.crates = some start → begun ≤ start
  kept : (statusOf work.experiment).phase ≠ .pending → needsFinalizer work.experiment = false
  object : ∀ object, cluster.experiments.lookup key = some object →
    object.spec = work.experiment.spec ∧
      (needsFinalizer work.experiment = false → HasFinalizer object) ∧
      (isBeingDeleted work.experiment = true → MarkedForDeletion object)
  patched : ∀ ns name status, ⟨.patchExperimentStatus ns name status, .ok ()⟩ ∈ work.history →
    ∀ object, cluster.experiments.lookup key = some object →
      (statusOf work.experiment).rank < stage.rank
  marked : ∀ ns name, ⟨.addFinalizer ns name, .ok ()⟩ ∈ work.history →
    ∀ object, cluster.experiments.lookup key = some object → HasFinalizer object
  released : ∀ ns name, ⟨.removeFinalizer ns name, .ok ()⟩ ∈ work.history →
    cluster.experiments.lookup key = none

section Informed

variable {deployment : Deployment} {key : ObjectKey} {cluster cluster' : Cluster}
  {stage stage' : Stage} {work : Work} {begun : Int}

theorem Retains.absent (retains : Retains key cluster cluster')
    (absent : cluster.experiments.lookup key = none) : cluster'.experiments.lookup key = none := by
  cases found : cluster'.experiments.lookup key with
  | none => rfl
  | some object' =>
    obtain ⟨object, stored, -⟩ := retains.object object' found
    cases absent.symm.trans stored

/-- The cluster has changed, and the life has gone on, without a call of the pass. -/
theorem Informed.retains (informed : Informed deployment key cluster stage work begun)
    (retains : Retains key cluster cluster') (goes : ReflGen Stage.Moves stage stage')
    (early : (statusOf work.experiment).phase = .pending → ∀ object start,
      cluster'.experiments.lookup key = some object →
        stage'.since deployment.crates = some start → begun ≤ start) :
    Informed deployment key cluster' stage' work begun where
  began := informed.began.trans retains.clock
  read := informed.read
  closes := informed.closes
  behind := informed.behind.trans (Stage.rank_le_of_goes goes)
  started := fun running => by
    obtain ⟨text, found, same⟩ := informed.started running
    exact ⟨text, found, Stage.startedAt_of_goes goes same⟩
  early := early
  kept := informed.kept
  object := fun object' found => by
    obtain ⟨object, stored, spec, finalizer, marked⟩ := retains.object object' found
    obtain ⟨same, held, deleted⟩ := informed.object object stored
    exact ⟨spec.trans same, fun present => finalizer (held present),
      fun deleting => marked (deleted deleting)⟩
  patched := fun ns name status member object' found => by
    obtain ⟨object, stored, -⟩ := retains.object object' found
    exact (informed.patched ns name status member object stored).trans_le
      (Stage.rank_le_of_goes goes)
  marked := fun ns name member object' found => by
    obtain ⟨object, stored, -, finalizer, -⟩ := retains.object object' found
    exact finalizer (informed.marked ns name member object stored)
  released := fun ns name member => retains.absent (informed.released ns name member)

/-- A pass begins. -/
theorem informed_launch {object : ExperimentObject} {experiment : ChaosExperiment}
    (rendered : Renders deployment.crates key cluster stage)
    (held : stage ≠ .pending → HasFinalizer object)
    (stored : cluster.experiments.lookup key = some object)
    (decoded : object.snapshot key = some experiment) :
    Informed deployment key cluster stage ⟨experiment, [], deployment.pass experiment⟩
      cluster.clock := by
  have snapshot := isSnapshot_of_snapshot decoded
  obtain ⟨message, parsed, -⟩ := rendered object stored
  have status : statusOf experiment = stage.status deployment.crates message :=
    Option.some.inj (snapshot.status.symm.trans parsed)
  have finalizer : needsFinalizer experiment = false ↔ HasFinalizer object := by
    rw [needsFinalizer_eq_false_iff, snapshot.finalizers, HasFinalizer]
  refine ⟨le_refl _, fun _ member => absurd member List.not_mem_nil,
    pass_ending deployment experiment, ?_, fun running => ?_, fun pending _ start _ since => ?_,
    fun active => ?_, fun object' found => ?_, fun _ _ _ member => absurd member List.not_mem_nil,
    fun _ _ member => absurd member List.not_mem_nil,
    fun _ _ member => absurd member List.not_mem_nil⟩
  · rw [status, Stage.rank_status]
  · change (statusOf experiment).phase = .running at running
    rw [status] at running
    obtain ⟨execution, rfl⟩ := Stage.eq_running running
    exact ⟨_, by rw [status]; rfl, rfl⟩
  · change (statusOf experiment).phase = .pending at pending
    rw [status] at pending
    obtain rfl := Stage.eq_pending pending
    cases since
  · change (statusOf experiment).phase ≠ .pending at active
    refine finalizer.mpr (held ?_)
    rintro rfl
    rw [status] at active
    exact active rfl
  · obtain rfl := Option.some.inj (stored.symm.trans found)
    refine ⟨snapshot.spec.symm, finalizer.mp, fun deleted => ?_⟩
    change experiment.metadata.deletionTimestamp.isSome = true at deleted
    rw [snapshot.deletion] at deleted
    exact deleted

/-! ### Accepted writes -/

/-- The finalizer is added to the experiment of the snapshot. -/
theorem Issues.marksOwn {crates : Crates} {edgeResolver : Bool} {config : ReconcilerConfig}
    {experiment : ChaosExperiment} {history : History} {ns name : String}
    (issues : Issues crates edgeResolver config experiment history (.addFinalizer ns name)) :
    ns = expNamespace experiment ∧ name = expName experiment := by
  cases issues with
  | addFinalizer missing => exact ⟨rfl, rfl⟩

/-- A call that changes an experiment and is accepted finds it and takes its effect. -/
theorem accepted_effect {actor : ObjectKey} {request : ApiCall} {answer : Answer request}
    (permitted : PermitsAny actor request cluster answer cluster')
    (writes : request.reads = false) (accepted : ¬ IsRefusal request answer) :
    ∃ surroundings, answer = reply surroundings cluster request ∧
      cluster' = effect surroundings actor cluster request := by
  rcases permitted with ⟨surroundings, answered | ⟨error, refused, -⟩⟩ | ⟨reads, -⟩
  · exact ⟨surroundings, answered⟩
  · exact absurd ⟨error, refused⟩ accepted
  · cases writes.symm.trans reads

/-- An accepted status write of the experiment moves its life on. -/
theorem accepted_patch {history : History} {experiment : ChaosExperiment}
    {status : ChaosExperimentStatus} {rest : Handler ReconcileResult}
    (permitted : PermitsAny (actorOf experiment) (.patchExperimentStatus key.1 key.2 status)
      cluster (.ok ()) cluster')
    (writes : deployment.Writes experiment history status)
    (upToDate : UpToDate deployment.crates key cluster stage ⟨experiment, history, rest⟩)
    (rendered : Renders deployment.crates key cluster' stage') {object' : ExperimentObject}
    (found : cluster'.experiments.lookup key = some object') :
    (statusOf experiment).rank < stage'.rank := by
  obtain ⟨surroundings, -, rfl⟩ := accepted_effect permitted rfl fun ⟨_, refused⟩ =>
    by cases refused
  obtain ⟨message, same⟩ := upToDate.status
  obtain ⟨low, -, sound, read⟩ := upToDate.since
  obtain ⟨stage'', moved, ⟨message'', merged⟩, -⟩ := writes_moves writes same sound read
  obtain ⟨message', parsed, -⟩ := rendered object' found
  change (cluster.experiments.update key fun object => object.patchStatus status).lookup key =
    some object' at found
  rw [Store.lookup_update, if_pos rfl] at found
  obtain ⟨object, stored, rfl⟩ := Option.map_eq_some_iff.mp found
  have patched := ChaosExperimentStatus.parse_mergePatch _ _ status
    (upToDate.stored object stored).2
  have reached : stage''.status deployment.crates message'' =
      stage'.status deployment.crates message' := by
    rw [← merged]
    exact Option.some.inj (patched.symm.trans parsed)
  rw [show statusOf experiment = stage.status deployment.crates message from same,
    Stage.rank_status, ← Stage.rank_status deployment.crates message' stage', ← reached,
    Stage.rank_status]
  exact moved.rank_lt

/-- An accepted addition of the finalizer puts it there. -/
theorem accepted_finalizer {actor : ObjectKey}
    (permitted : PermitsAny actor (.addFinalizer key.1 key.2) cluster (.ok ()) cluster')
    {object' : ExperimentObject} (found : cluster'.experiments.lookup key = some object') :
    HasFinalizer object' := by
  obtain ⟨surroundings, -, rfl⟩ := accepted_effect permitted rfl fun ⟨_, refused⟩ =>
    by cases refused
  change (cluster.experiments.update key fun object =>
    object.setFinalizers [finalizerName]).lookup key = some object' at found
  rw [Store.lookup_update, if_pos rfl] at found
  obtain ⟨object, -, rfl⟩ := Option.map_eq_some_iff.mp found
  exact List.mem_singleton.mpr rfl

/-- An accepted removal of the finalizer removes an object that is marked. -/
theorem accepted_release {actor : ObjectKey}
    (permitted : PermitsAny actor (.removeFinalizer key.1 key.2) cluster (.ok ()) cluster')
    (marked : ∀ object, cluster.experiments.lookup key = some object → MarkedForDeletion object) :
    cluster'.experiments.lookup key = none := by
  obtain ⟨surroundings, -, rfl⟩ := accepted_effect permitted rfl fun ⟨_, refused⟩ =>
    by cases refused
  change (releaseExperiment cluster.experiments key).lookup key = none
  unfold releaseExperiment
  cases stored : cluster.experiments.lookup key with
  | none => exact stored
  | some object =>
    have deleted : object.deletionTimestamp.isSome = true := marked object stored
    dsimp only
    rw [if_pos deleted]
    exact AList.lookup_erase key cluster.experiments

/-- Readings of the clock between two times can be parsed back. -/
def RoundTrip (crates : Crates) (earliest latest : Int) : Prop :=
  ∀ time, earliest ≤ time → time ≤ latest →
    crates.parseFromRfc3339 (crates.toRfc3339 time) = some time

theorem RoundTrip.shorten {crates : Crates} {earliest later latest sooner : Int}
    (roundTrip : RoundTrip crates earliest latest) (above : earliest ≤ later)
    (below : sooner ≤ latest) : RoundTrip crates later sooner :=
  fun time low high => roundTrip time (above.trans low) (high.trans below)

/-- An experiment that was pending is put into effect at a reading of the clock. -/
theorem writes_reading {history : History} {experiment : ChaosExperiment}
    {status : ChaosExperimentStatus} (writes : deployment.Writes experiment history status)
    (pending : (statusOf experiment).phase = .pending) {text : String}
    (started : status.startedAt = some text) :
    ∃ time, ⟨.now, time⟩ ∈ history ∧ text = deployment.crates.toRfc3339 time := by
  cases writes with
  | failed => cases started
  | runningPod _ _ _ _ _ _ _ _ _ time read => exact ⟨time, read, (Option.some.inj started).symm⟩
  | runningEdge _ _ _ _ _ _ _ _ _ _ _ _ time read =>
    exact ⟨time, read, (Option.some.inj started).symm⟩
  | completed _ running => cases pending.symm.trans running
  | cleaned _ terminal =>
    rw [pending] at terminal
    cases terminal

section Call

variable {system : System} {experiment : ChaosExperiment} {history : History}
  {request : ApiCall} {next : Answer request → Handler ReconcileResult} {answer : Answer request}

/-- A call of the pass of a pending experiment leaves it pending or puts it into effect later than
the pass began. -/
theorem early_of_call (tracks : Tracks deployment key system stage)
    (working : system.works key = some ⟨experiment, history, .call request next⟩)
    (answered : PermitsAny (actorOf experiment) request system.cluster answer cluster)
    (informed : Informed deployment key system.cluster stage
      ⟨experiment, history, .call request next⟩ begun)
    (rendered : Renders deployment.crates key cluster stage')
    (roundTrip : RoundTrip deployment.crates begun cluster.clock)
    (pending : (statusOf experiment).phase = .pending) {object' : ExperimentObject} {start : Int}
    (found : cluster.experiments.lookup key = some object')
    (since : stage'.since deployment.crates = some start) : begun ≤ start := by
  have tended := tracks.tended key _ working
  have issued := (tended.called answer).1
  have advance := answered.advance
  obtain ⟨message', parsed', -⟩ := rendered object' found
  obtain ⟨text, started, parsedText⟩ := Option.bind_eq_some_iff.mp since
  rw [← Stage.startedAt_status deployment.crates message'] at started
  obtain ⟨object, timestamp, stored, -, rewrites⟩ := advance.object key object' found
  obtain ⟨message, parsed, -⟩ := tracks.rendered object stored
  have unchanged (same : object'.status = object.status) : begun ≤ start := by
    rw [same] at parsed'
    have status := Option.some.inj (parsed.symm.trans parsed')
    refine informed.early pending object start stored
      (Option.bind_eq_some_iff.mpr ⟨text, ?_, parsedText⟩)
    rw [← Stage.startedAt_status deployment.crates message, status]
    exact started
  cases rewrites with
  | kept | marked | released => exact unchanged rfl
  | patched written =>
    have upToDate := tracks.upToDate _ working issued.quiet
    obtain ⟨-, current⟩ := upToDate.stored object stored
    have patched := ChaosExperimentStatus.parse_mergePatch object.status _ written current
    have merged := Option.some.inj (patched.symm.trans parsed')
    obtain ⟨message₀, same⟩ := upToDate.status
    have fresh : (statusOf experiment).startedAt = none := by
      rw [same] at pending
      rw [same, Stage.eq_pending pending]
      rfl
    rw [← merged] at started
    change written.startedAt.or (statusOf experiment).startedAt = some text at started
    rw [fresh, Option.or_none] at started
    obtain ⟨time, read, rfl⟩ := writes_reading issued.issues.writes pending started
    have reading := informed.read time read
    obtain ⟨low, -, -, within⟩ := upToDate.since
    have parsedBack := roundTrip time reading ((within time read).2.trans advance.clock)
    rw [parsedText] at parsedBack
    obtain rfl := Option.some.inj parsedBack
    exact reading

/-- The finalizer is taken off only by a pass on a marked experiment. -/
theorem retains_of_call (tracks : Tracks deployment key system stage)
    (working : system.works key = some ⟨experiment, history, .call request next⟩)
    (answered : PermitsAny (actorOf experiment) request system.cluster answer cluster)
    (informed : Informed deployment key system.cluster stage
      ⟨experiment, history, .call request next⟩ begun) :
    Retains key system.cluster cluster := by
  refine retains_of_advance answered.advance fun released object stored => ?_
  subst released
  have issued := ((tracks.tended key _ working).called answer).1
  exact (informed.object object stored).2.2 issued.issues.releaseAsked.deleting.2

/-- One call of the pass on an experiment. -/
theorem Informed.call (tracks : Tracks deployment key system stage)
    (working : system.works key = some ⟨experiment, history, .call request next⟩)
    (answered : PermitsAny (actorOf experiment) request system.cluster answer cluster)
    (informed : Informed deployment key system.cluster stage
      ⟨experiment, history, .call request next⟩ begun)
    (rendered : Renders deployment.crates key cluster stage')
    (goes : ReflGen Stage.Moves stage stage')
    (roundTrip : RoundTrip deployment.crates begun cluster.clock) :
    Informed deployment key cluster stage' ⟨experiment, ⟨request, answer⟩ :: history, next answer⟩
      begun := by
  have tended := tracks.tended key _ working
  have issued := (tended.called answer).1
  have retains := retains_of_call tracks working answered informed
  have kept := informed.retains retains goes fun pending object start found since =>
    early_of_call tracks working answered informed rendered roundTrip pending found since
  have named {ns name : String}
      (same : ns = expNamespace experiment ∧ name = expName experiment) : key = (ns, name) := by
    rw [← tended.actor, same.1, same.2]
    rfl
  refine ⟨kept.began, fun time member => ?_, informed.closes.2 answer, kept.behind, kept.started,
    kept.early, kept.kept, kept.object, fun ns name status member object' found => ?_,
    fun ns name member object' found => ?_, fun ns name member => ?_⟩
  · rcases List.mem_cons.mp member with now | member
    · cases now
      exact informed.began.trans answered.now.1
    · exact informed.read time member
  · rcases List.mem_cons.mp member with same | member
    · cases same
      obtain rfl := named issued.issues.patched
      exact accepted_patch answered issued.issues.writes (tracks.upToDate _ working issued.quiet)
        rendered found
    · exact kept.patched ns name status member object' found
  · rcases List.mem_cons.mp member with same | member
    · cases same
      obtain rfl := named issued.issues.marksOwn
      exact accepted_finalizer answered found
    · exact kept.marked ns name member object' found
  · rcases List.mem_cons.mp member with same | member
    · cases same
      have asked := issued.issues.releaseAsked
      obtain rfl := named asked.place
      exact accepted_release answered fun object stored =>
        (informed.object object stored).2.2 asked.deleting.2
    · exact kept.released ns name member

end Call

end Informed

/-! ### What the schedule knows -/

/-- What is known while a pass is going on. A deletion mark it has not seen was noticed. -/
structure Attends (deployment : Deployment) (key : ObjectKey) (earliest : Int)
    (scheduled : Scheduled) (stage : Stage) (work : Work) (begun : Int) : Prop where
  busy : scheduled.rounds.begun = some begun
  after : earliest ≤ begun
  informed : Informed deployment key scheduled.system.cluster stage work begun
  noticed : ∀ object, scheduled.stored key = some object → MarkedForDeletion object →
    isBeingDeleted work.experiment = true ∨ scheduled.rounds.noticed = true

/-- The schedule of an experiment and the stage of its life belong together. -/
structure Attended (deployment : Deployment) (pace : Pace) (key : ObjectKey) (earliest : Int)
    (scheduled : Scheduled) (stage : Stage) : Prop where
  tracks : Tracks deployment key scheduled.system stage
  later : earliest ≤ scheduled.clock
  inPace : InPace pace key scheduled
  idle : scheduled.system.works key = none → scheduled.rounds.begun = none
  busy : ∀ work, scheduled.system.works key = some work →
    ∃ begun, Attends deployment key earliest scheduled stage work begun
  held : stage ≠ .pending → ∀ object, scheduled.stored key = some object → HasFinalizer object
  awake : scheduled.system.works key = none → ∀ object, scheduled.stored key = some object →
    (∃ due, scheduled.rounds.due = some due ∧ due ≤ scheduled.clock + pace.pause) ∨
      scheduled.rounds.due = none ∧ stage.rank = 3 ∧ ¬ MarkedForDeletion object

section Attended

variable {deployment : Deployment} {pace : Pace} {key : ObjectKey} {earliest : Int}
  {before : Scheduled} {stage : Stage}

theorem attended_start {cluster : Cluster} {object : ExperimentObject}
    (stored : cluster.experiments.lookup key = some object) (fresh : object.status = .null) :
    Attended deployment pace key cluster.clock (.start cluster) .pending where
  tracks := tracks_idle (renders_fresh deployment.crates stored fresh)
  later := le_refl _
  inPace := fun _ _ => Rounds.onTime_fresh pace cluster.clock
  idle := fun _ => rfl
  busy := fun _ absent => nomatch absent
  held := fun moved => absurd rfl moved
  awake := fun _ _ _ =>
    Or.inl ⟨_, rfl, Int.le_add_of_nonneg_right (Int.natCast_nonneg _)⟩

/-- What was noticed stays noticed, and a new deletion mark is noticed. -/
theorem Notices.marks {cluster cluster' : Cluster} {rounds rounds' : Rounds} {begun : Int}
    {deleted : Prop} (notices : Notices key cluster cluster' rounds rounds')
    (busy : rounds.begun = some begun)
    (noticed : ∀ object, cluster.experiments.lookup key = some object →
      MarkedForDeletion object → deleted ∨ rounds.noticed = true)
    {object' : ExperimentObject} (found : cluster'.experiments.lookup key = some object')
    (marked : MarkedForDeletion object') : deleted ∨ rounds'.noticed = true := by
  by_cases same : cluster'.experiments.lookup key = cluster.experiments.lookup key
  · rw [notices.same same]
    exact noticed object' (same.symm.trans found) marked
  · rw [notices.changed same]
    exact Or.inr (Rounds.noticed_notice busy)

theorem Notices.begun {cluster cluster' : Cluster} {rounds rounds' : Rounds}
    (notices : Notices key cluster cluster' rounds rounds') : rounds'.begun = rounds.begun := by
  by_cases same : cluster'.experiments.lookup key = cluster.experiments.lookup key
  · rw [notices.same same]
  · rw [notices.changed same, Rounds.begun_notice]

/-- What others do leaves the stage of an experiment and what is known of it. -/
theorem elsewhere_retains {system : System} (tracks : Tracks deployment key before.system stage)
    (step : Operates deployment anyListings before.system system)
    (others : system.works key = before.system.works key) :
    Retains key before.system.cluster system.cluster ∧ Tracks deployment key system stage := by
  cases step with
  | outside moved => exact ⟨retains_of_outside moved, tracks.outside moved⟩
  | launch idle stored decoded => exact ⟨retains_refl key _, tracks.launch stored decoded⟩
  | leave place => exact ⟨retains_refl key _, tracks.leave place⟩
  | @call place experiment history request next answer cluster working answered =>
    have elsewhere : place ≠ key := by
      rintro rfl
      rw [System.works_setWork, if_pos rfl] at others
      have same := congrArg (Option.map fun work => work.history.length) (others.trans working)
      simp at same
    have tended := tracks.tended place _ working
    have issued := (tended.called answer).1
    refine ⟨retains_of_advance answered.advance fun released => ?_,
      tracks.call_unmoved anyListings_within working answered fun status write => ?_⟩
    · subst released
      obtain ⟨inside, named⟩ := issued.issues.releaseAsked.place
      exact absurd (tended.actor.symm.trans (Prod.ext inside.symm named.symm)) elsewhere
    · subst write
      exact elsewhere (tended.writer issued)

theorem Attended.elsewhere (attended : Attended deployment pace key earliest before stage)
    {system : System} {rounds : Rounds}
    (step : Operates deployment anyListings before.system system)
    (others : system.works key = before.system.works key)
    (notices : Notices key before.system.cluster system.cluster before.rounds rounds)
    (inPace : InPace pace key ⟨system, rounds⟩) :
    Attended deployment pace key earliest ⟨system, rounds⟩ stage := by
  obtain ⟨retains, tracks⟩ := elsewhere_retains attended.tracks step others
  refine ⟨tracks, attended.later.trans retains.clock, inPace, fun idle => ?_,
    fun work working => ?_, fun moved object' found => ?_, fun idle object' found => ?_⟩
  · exact notices.begun.trans (attended.idle (others.symm.trans idle))
  · obtain ⟨begun, attends⟩ := attended.busy work (others.symm.trans working)
    refine ⟨begun, notices.begun.trans attends.busy, attends.after,
      attends.informed.retains retains .refl fun pending object' start found since => ?_,
      fun object' found marked => notices.marks attends.busy attends.noticed found marked⟩
    obtain ⟨object, stored, -⟩ := retains.object object' found
    exact attends.informed.early pending object start stored since
  · obtain ⟨object, stored, -, finalizer, -⟩ := retains.object object' found
    exact finalizer (attended.held moved object stored)
  · have idle' := others.symm.trans idle
    by_cases same : system.cluster.experiments.lookup key =
        before.system.cluster.experiments.lookup key
    · obtain rfl := notices.same same
      rcases attended.awake idle' object' (same.symm.trans found) with
        ⟨due, scheduled, soon⟩ | settled
      · exact Or.inl ⟨due, scheduled, soon.trans (Int.add_le_add_right retains.clock _)⟩
      · exact Or.inr settled
    · obtain rfl := notices.changed same
      refine Or.inl ⟨_, Rounds.due_notice (attended.idle idle'), ?_⟩
      exact (Rounds.earliest_le _ _).trans (Int.le_add_of_nonneg_right (Int.natCast_nonneg _))

theorem Attended.launch (attended : Attended deployment pace key earliest before stage)
    {object : ExperimentObject} {experiment : ChaosExperiment}
    (stored : before.stored key = some object)
    (decoded : object.snapshot key = some experiment) :
    Attended deployment pace key earliest
      ⟨before.system.setWork key (some ⟨experiment, [], deployment.pass experiment⟩),
        before.rounds.begin before.clock⟩ stage := by
  have working : (before.system.setWork key
      (some ⟨experiment, [], deployment.pass experiment⟩)).works key =
        some ⟨experiment, [], deployment.pass experiment⟩ := by
    rw [System.works_setWork, if_pos rfl]
  refine ⟨attended.tracks.launch stored decoded, attended.later,
    fun _ _ => Rounds.onTime_begin _ _ _, fun idle => ?_, fun work found => ?_, attended.held,
    fun idle => ?_⟩
  · cases working.symm.trans idle
  · obtain rfl := Option.some.inj (working.symm.trans found)
    have informed := informed_launch attended.tracks.rendered
      (fun moved => attended.held moved object stored) stored decoded
    refine ⟨before.clock, rfl, attended.later, informed, fun object' found' marked => ?_⟩
    obtain rfl := Option.some.inj (stored.symm.trans found')
    have snapshot := isSnapshot_of_snapshot decoded
    refine Or.inl ?_
    change experiment.metadata.deletionTimestamp.isSome = true
    rw [snapshot.deletion]
    exact marked
  · cases working.symm.trans idle

/-- A status is written only by a pass on an experiment that holds the finalizer. -/
theorem writes_held {experiment : ChaosExperiment} {history : History}
    {status : ChaosExperimentStatus} (writes : deployment.Writes experiment history status) :
    needsFinalizer experiment = false := by
  cases writes with
  | failed pending => exact pending.1.1
  | runningPod starting | runningEdge starting => exact starting.1.1.1
  | completed active | cleaned active => exact active.1

section Call

variable {experiment : ChaosExperiment} {history : History} {request : ApiCall}
  {next : Answer request → Handler ReconcileResult} {answer : Answer request} {cluster : Cluster}
  {rounds : Rounds}

theorem Attended.call_to (attended : Attended deployment pace key earliest before stage)
    (working : before.system.works key = some ⟨experiment, history, .call request next⟩)
    (answered : anyListings experiment request before.system.cluster answer cluster)
    (notices : Notices key before.system.cluster cluster before.rounds rounds)
    (inPace : InPace pace key ⟨{ before.system with cluster }.setWork key
      (some ⟨experiment, ⟨request, answer⟩ :: history, next answer⟩), rounds⟩)
    (roundTrip : RoundTrip deployment.crates earliest cluster.clock) {stage' : Stage}
    (goes : ReflGen Stage.Moves stage stage')
    (tracks : Tracks deployment key ({ before.system with cluster }.setWork key
      (some ⟨experiment, ⟨request, answer⟩ :: history, next answer⟩)) stage')
    (held : stage' ≠ .pending → stage ≠ .pending ∨ needsFinalizer experiment = false) :
    Attended deployment pace key earliest ⟨{ before.system with cluster }.setWork key
      (some ⟨experiment, ⟨request, answer⟩ :: history, next answer⟩), rounds⟩ stage' := by
  obtain ⟨begun, attends⟩ := attended.busy _ working
  have retains := retains_of_call attended.tracks working answered attends.informed
  have informed := Informed.call attended.tracks working answered attends.informed tracks.rendered
    goes (roundTrip.shorten attends.after (le_refl _))
  refine ⟨tracks, attended.later.trans retains.clock, inPace, fun idle => ?_,
    fun work working' => ?_, fun moved object' found => ?_, fun idle => ?_⟩
  · rw [System.works_setWork, if_pos rfl] at idle
    cases idle
  · rw [System.works_setWork, if_pos rfl] at working'
    obtain rfl := Option.some.inj working'
    exact ⟨begun, notices.begun.trans attends.busy, attends.after, informed,
      fun object' found marked => notices.marks attends.busy attends.noticed found marked⟩
  · rcases held moved with moved | present
    · obtain ⟨object, stored, -, finalizer, -⟩ := retains.object object' found
      exact finalizer (attended.held moved object stored)
    · exact (informed.object object' found).2.1 present
  · rw [System.works_setWork, if_pos rfl] at idle
    cases idle

/-- A call of the pass leaves the stage of the experiment, or it is a status write. -/
theorem Attended.call (attended : Attended deployment pace key earliest before stage)
    (working : before.system.works key = some ⟨experiment, history, .call request next⟩)
    (answered : anyListings experiment request before.system.cluster answer cluster)
    (notices : Notices key before.system.cluster cluster before.rounds rounds)
    (inPace : InPace pace key ⟨{ before.system with cluster }.setWork key
      (some ⟨experiment, ⟨request, answer⟩ :: history, next answer⟩), rounds⟩)
    (roundTrip : RoundTrip deployment.crates earliest cluster.clock) :
    ∃ stage', ReflGen Stage.Moves stage stage' ∧
      Attended deployment pace key earliest ⟨{ before.system with cluster }.setWork key
        (some ⟨experiment, ⟨request, answer⟩ :: history, next answer⟩), rounds⟩ stage' := by
  have step {stage' : Stage} (goes : ReflGen Stage.Moves stage stage') :=
    attended.call_to working answered notices inPace roundTrip goes
  by_cases write : ∃ status, request = .patchExperimentStatus key.1 key.2 status
  · obtain ⟨status, rfl⟩ := write
    have issued := ((attended.tracks.tended key _ working).called answer).1
    obtain ⟨stage', goes, tracks⟩ :=
      attended.tracks.call_write anyListings_within working answered rfl
    exact ⟨stage', goes.reflGen, step goes.reflGen tracks fun _ =>
      Or.inr (writes_held issued.issues.writes)⟩
  · push Not at write
    have tracks := attended.tracks.call_unmoved anyListings_within working answered write
    exact ⟨stage, .refl, step .refl tracks Or.inl⟩

end Call

/-- A pass comes to its end. -/
theorem Attended.finish {late longest : Nat}
    (attended : Attended deployment (controllerPace late longest) key earliest before stage)
    {experiment : ChaosExperiment} {history : History} {rest : Handler ReconcileResult}
    {action : Action}
    (working : before.system.works key = some ⟨experiment, history, rest⟩)
    (ended : actionAfter rest = some action) :
    Attended deployment (controllerPace late longest) key earliest
      ⟨before.system.setWork key none,
        before.rounds.finish before.clock action.pause (disturbed history)⟩ stage := by
  refine ⟨attended.tracks.leave key, attended.later, fun _ _ => Rounds.onTime_finish _ _ _ _ _,
    fun _ => rfl, fun work working' => ?_, attended.held, fun _ object stored => ?_⟩
  · rw [System.works_setWork, if_pos rfl] at working'
    cases working'
  · obtain ⟨begun, attends⟩ := attended.busy _ working
    obtain ⟨result, ending, rfl⟩ := ending_of_ended attends.informed.closes ended
    cases noticed : before.rounds.noticed with
    | true =>
      refine Or.inl ⟨before.clock, by simp [Rounds.finish, noticed], ?_⟩
      exact Int.le_add_of_nonneg_right (Int.natCast_nonneg _)
    | false =>
      cases paused : (actionOf result).pause with
      | some time =>
        refine Or.inl ⟨before.clock + time, by simp [Rounds.finish, noticed], ?_⟩
        exact Int.add_le_add_left (Int.ofNat_le.mpr (ending.pause_le paused)) _
      | none =>
        rcases ending.of_waits paused with ⟨ns, name, accepted⟩ | ⟨active, terminal, clean⟩
        · cases (attends.informed.released ns name accepted).symm.trans stored
        · refine Or.inr ⟨by simp [Rounds.finish, noticed], ?_, fun marked => ?_⟩
          · have behind := attends.informed.behind
            rw [rank_of_clean terminal clean] at behind
            exact le_antisymm stage.rank_le behind
          · rcases attends.noticed object stored marked with deleted | seen
            · cases active.2.symm.trans deleted
            · cases noticed.symm.trans seen

theorem Attended.restart (attended : Attended deployment pace key earliest before stage) :
    Attended deployment pace key earliest
      ⟨before.system.setWork key none, before.rounds.restart before.clock⟩ stage := by
  refine ⟨attended.tracks.leave key, attended.later, fun _ _ => Rounds.onTime_restart _ _ _,
    fun _ => rfl, fun work working' => ?_, attended.held, fun _ _ _ =>
      Or.inl ⟨_, rfl, Int.le_add_of_nonneg_right (Int.natCast_nonneg _)⟩⟩
  rw [System.works_setWork, if_pos rfl] at working'
  cases working'

/-- Every step leaves the stage, or the pass that is going on moves the life on; and the schedule
keeps up with it. -/
theorem Attended.step {late longest : Nat}
    (attended : Attended deployment (controllerPace late longest) key earliest before stage)
    {after : Scheduled}
    (ticks : Ticks deployment anyListings (controllerPace late longest) key before after)
    (roundTrip : RoundTrip deployment.crates earliest after.clock) :
    ∃ stage', ReflGen Stage.Moves stage stage' ∧
      Attended deployment (controllerPace late longest) key earliest after stage' ∧
      (stage' = stage ∨ ∃ work, after.system.works key = some work ∧
        (statusOf work.experiment).rank ≤ stage.rank) := by
  cases ticks with
  | elsewhere step others notices inPace =>
    exact ⟨stage, .refl, attended.elsewhere step others notices inPace, Or.inl rfl⟩
  | launch idle stored decoded => exact ⟨stage, .refl, attended.launch stored decoded, Or.inl rfl⟩
  | call working answered notices inPace =>
    obtain ⟨stage', goes, attended'⟩ := attended.call working answered notices inPace roundTrip
    obtain ⟨begun, attends⟩ := attended.busy _ working
    exact ⟨stage', goes, attended', Or.inr
      ⟨_, (System.works_setWork _ _ _ _).trans (if_pos rfl), attends.informed.behind⟩⟩
  | finish working ended => exact ⟨stage, .refl, attended.finish working ended, Or.inl rfl⟩
  | restart => exact ⟨stage, .refl, attended.restart, Or.inl rfl⟩

/-- No step sets the clock back. -/
theorem Ticks.clock_le {pace : Pace} {after : Scheduled}
    (ticks : Ticks deployment anyListings pace key before after) :
    before.clock ≤ after.clock := by
  cases ticks with
  | elsewhere step others =>
    cases step with
    | outside moved => exact moved.drift.clock
    | launch | leave => exact le_refl _
    | call working answered => exact answered.advance.clock
  | call working answered => exact answered.advance.clock
  | launch | finish | restart => exact le_refl _

/-- Every run. -/
theorem attended_of_run {late longest : Nat} {initial final : Scheduled} {origin : Stage}
    (start : Attended deployment (controllerPace late longest) key earliest initial origin)
    (run : ReflTransGen (Ticks deployment anyListings (controllerPace late longest) key) initial
      final) (roundTrip : RoundTrip deployment.crates earliest final.clock) :
    ∃ stage, Attended deployment (controllerPace late longest) key earliest final stage := by
  induction run with
  | refl => exact ⟨origin, start⟩
  | tail _ ticks inductionHypothesis =>
    obtain ⟨stage, attended⟩ :=
      inductionHypothesis (roundTrip.shorten (le_refl _) ticks.clock_le)
    obtain ⟨stage', -, attended', -⟩ := attended.step ticks roundTrip
    exact ⟨stage', attended'⟩

/-- No step sets an experiment back. -/
theorem Attended.retains (attended : Attended deployment pace key earliest before stage)
    {after : Scheduled} (ticks : Ticks deployment anyListings pace key before after) :
    Retains key before.system.cluster after.system.cluster := by
  cases ticks with
  | elsewhere step others => exact (elsewhere_retains attended.tracks step others).1
  | call working answered =>
    obtain ⟨begun, attends⟩ := attended.busy _ working
    exact retains_of_call attended.tracks working answered attends.informed
  | launch | finish | restart => exact retains_refl _ _

end Attended

/-! ### No experiment is forgotten -/

/-- Whenever no pass on an experiment is going on, one is due in at most 30 seconds; or the
experiment is terminal, marked clean and not marked for deletion, and only then the controller
waits for a change. This holds in every run of the interleaved controller, whatever is refused and
however often it is restarted. -/
theorem neverForgotten (deployment : Deployment) (late longest : Nat) (key : ObjectKey)
    (initial : Cluster) (object : ExperimentObject)
    (stored : initial.experiments.lookup key = some object) (fresh : object.status = .null)
    (final : Scheduled)
    (run : ReflTransGen (Ticks deployment anyListings (controllerPace late longest) key)
      (.start initial) final)
    (roundTrip : RoundTrip deployment.crates initial.clock final.clock)
    (idle : final.system.works key = none) (object' : ExperimentObject)
    (found : final.stored key = some object') :
    (∃ due, final.rounds.due = some due ∧ due ≤ final.clock + 30000000000) ∨
      final.rounds.due = none ∧ ¬ MarkedForDeletion object' ∧
        ∃ status, ChaosExperimentStatus.parse object'.status = some status ∧
          status.phase.isTerminal = true ∧ status.cleanupDone = true := by
  obtain ⟨stage, attended⟩ := attended_of_run (attended_start stored fresh) run roundTrip
  rcases attended.awake idle object' found with due | ⟨waits, last, alive⟩
  · exact Or.inl due
  · obtain ⟨message, parsed, -⟩ := attended.tracks.rendered object' found
    refine Or.inr ⟨waits, alive, _, parsed, rank_eq_three ?_⟩
    rw [Stage.rank_status, last]

/-! ### A life that keeps the pace -/

/-- Can the experiment stored under a key be decoded? -/
def isDecoded (key : ObjectKey) (cluster : Cluster) : Bool :=
  ((cluster.experiments.lookup key).bind fun object => object.snapshot key).isSome

/-- A life whose passes are over in time is one the controller may have, and few rounds are
missed. -/
theorem ticks_lifetime {deployment : Deployment} {server : Server}
    (serves : server.Serves anyListings) {late longest between : Nat} (afterwards : Nat)
    {key : ObjectKey} (initial first second third : Cluster) (start : isDecoded key initial = true)
    (same₁ : runPass deployment server key initial = first)
    (running : isDecoded key first = true)
    (inTime₁ : first.clock ≤ initial.clock + longest) (short : between ≤ late)
    (same₂ : runPass deployment server key { first with clock := first.clock + between } = second)
    (inTime₂ : second.clock ≤ first.clock + between + longest)
    (ended : isDecoded key second = true)
    (same₃ : runPass deployment server key second = third)
    (inTime₃ : third.clock ≤ second.clock + longest)
    {object : ExperimentObject} {experiment : ChaosExperiment}
    (stored : third.experiments.lookup key = some object)
    (decoded : object.snapshot key = some experiment)
    (nothing : deployment.pass experiment = .done .done) :
    ∃ rounds, ReflTransGen (Ticks deployment anyListings (controllerPace late longest) key)
        (.start initial) ⟨.idle { third with clock := third.clock + afterwards }, rounds⟩ ∧
      rounds.begun = none ∧ rounds.due = none ∧ rounds.missed.length ≤ 3 := by
  obtain ⟨rounds₁, run₁, resting₁⟩ := ticks_runPass deployment (controllerPace late longest) serves
    start (show (Rounds.fresh initial.clock).missed.length ≤ 0 from le_refl _)
    (by rw [same₁]; exact inTime₁)
  rw [same₁] at run₁ resting₁
  have waited := ticks_time deployment (controllerPace late longest) key first resting₁.idle between
    fun _ _ due scheduled => by
      have soon := resting₁.due due scheduled
      show _ ≤ due + (late : Int)
      omega
  have running' : isDecoded key { first with clock := first.clock + between } = true := running
  obtain ⟨rounds₂, run₂, resting₂⟩ := ticks_runPass deployment (controllerPace late longest) serves
    running' resting₁.missed (by rw [same₂]; exact inTime₂)
  rw [same₂] at run₂ resting₂
  obtain ⟨rounds₃, run₃, resting₃⟩ := ticks_runPass deployment (controllerPace late longest) serves
    ended resting₂.missed (by rw [same₃]; exact inTime₃)
  rw [same₃] at run₃ resting₃
  have last := ticks_waits (controllerPace late longest) rounds₃ stored decoded nothing
  have nothingDue : (⟨none, none, false, rounds₃.missed⟩ : Rounds).begun = none := rfl
  have passed := ticks_time deployment (controllerPace late longest) key third nothingDue afterwards
    fun _ _ _ scheduled => nomatch scheduled
  exact ⟨_, (((run₁.tail waited).trans run₂).trans (run₃.trans last)).tail passed, rfl, rfl,
    resting₃.missed⟩

/-! ### The small cluster in time -/

/-- The edge experiment runs. -/
def runningEdge : Cluster :=
  runPass lengthDeployment (sampleServer 0) sampleKey (sampleCluster [(sampleKey, sampleEdge)])

/-- Ten seconds later it has ended. -/
def elapsedEdge : Cluster :=
  runPass lengthDeployment (sampleServer 0) sampleKey
    { runningEdge with clock := runningEdge.clock + (10000000000 : Nat) }

/-- It is cleaned up. -/
def cleanedEdge : Cluster := runPass lengthDeployment (sampleServer 0) sampleKey elapsedEdge

theorem cleanedEdge_decoded :
    ((cleanedEdge.experiments.lookup sampleKey).bind fun object =>
      object.snapshot sampleKey).map (fun experiment =>
        ((needsFinalizer experiment, isBeingDeleted experiment),
          (statusOf experiment).phase.isTerminal, (statusOf experiment).cleanupDone)) =
      some ((false, false), true, true) := by
  decide +kernel

/-- A controller that is at most 100 seconds late and whose passes take at most one second may
have this life. -/
theorem ticks_cleanedEdge (afterwards : Nat) :
    ∃ rounds, ReflTransGen (Ticks lengthDeployment anyListings
        (controllerPace 100000000000 1000000000) sampleKey)
        (.start (sampleCluster [(sampleKey, sampleEdge)]))
        ⟨.idle { cleanedEdge with clock := cleanedEdge.clock + afterwards }, rounds⟩ ∧
      rounds.begun = none ∧ rounds.due = none ∧ rounds.missed.length ≤ 3 := by
  obtain ⟨experiment, decoded, facts⟩ := Option.map_eq_some_iff.mp cleanedEdge_decoded
  obtain ⟨object, stored, snapshot⟩ := Option.bind_eq_some_iff.mp decoded
  obtain ⟨active, ended⟩ := Prod.mk.inj facts
  obtain ⟨present, alive⟩ := Prod.mk.inj active
  obtain ⟨terminal, clean⟩ := Prod.mk.inj ended
  have nothing : lengthDeployment.pass experiment = .done .done :=
    pass_cleaned ⟨present, alive⟩ terminal clean
  have same₁ : runPass lengthDeployment (sampleServer 0) sampleKey
      (sampleCluster [(sampleKey, sampleEdge)]) = runningEdge := by rw [runningEdge]
  have same₂ : runPass lengthDeployment (sampleServer 0) sampleKey
      { runningEdge with clock := runningEdge.clock + (10000000000 : Nat) } = elapsedEdge := by
    rw [elapsedEdge]
  have same₃ : runPass lengthDeployment (sampleServer 0) sampleKey elapsedEdge = cleanedEdge := by
    rw [cleanedEdge]
  have clock₁ : runningEdge.clock = (sampleCluster [(sampleKey, sampleEdge)]).clock := by
    decide +kernel
  have clock₂ : elapsedEdge.clock = runningEdge.clock + (10000000000 : Nat) := by decide +kernel
  have clock₃ : cleanedEdge.clock = elapsedEdge.clock := by decide +kernel
  have start : isDecoded sampleKey (sampleCluster [(sampleKey, sampleEdge)]) = true := by
    decide +kernel
  have running : isDecoded sampleKey runningEdge = true := by decide +kernel
  have ended : isDecoded sampleKey elapsedEdge = true := by decide +kernel
  refine ticks_lifetime (sampleServer_serves 0).any afterwards _ runningEdge elapsedEdge cleanedEdge
    start same₁ running ?_ (by decide) same₂ ?_ ended same₃ ?_ stored snapshot nothing
  · rw [clock₁]
    exact Int.le_add_of_nonneg_right (Int.natCast_nonneg _)
  · rw [clock₂]
    exact Int.le_add_of_nonneg_right (Int.natCast_nonneg _)
  · rw [clock₃]
    exact Int.le_add_of_nonneg_right (Int.natCast_nonneg _)

/-- Time does not change what is stored. -/
theorem stored_later {key : ObjectKey} {cluster : Cluster} {object : ExperimentObject}
    (stored : cluster.experiments.lookup key = some object) (clock : Int) (rounds : Rounds) :
    (⟨.idle { cluster with clock }, rounds⟩ : Scheduled).stored key = some object := stored

/-- After its life the experiment waits for a change. -/
theorem neverForgotten_sample :
    ∃ (final : Scheduled) (object : ExperimentObject), final.stored sampleKey = some object ∧
      final.rounds.due = none ∧ ¬ MarkedForDeletion object := by
  obtain ⟨rounds, run, -, waits, -⟩ := ticks_cleanedEdge 0
  obtain ⟨experiment, decoded, -⟩ := Option.map_eq_some_iff.mp cleanedEdge_decoded
  obtain ⟨object, stored, -⟩ := Option.bind_eq_some_iff.mp decoded
  have found := stored_later stored (cleanedEdge.clock + (0 : Nat)) rounds
  have known := neverForgotten lengthDeployment 100000000000 1000000000 sampleKey
    (sampleCluster [(sampleKey, sampleEdge)]) sampleEdge rfl rfl _ run
    (fun time nonnegative _ => lengthCrates_roundTrip time nonnegative) rfl object found
  rcases known with ⟨due, scheduled, -⟩ | ⟨-, alive, -⟩
  · cases waits.symm.trans scheduled
  · exact ⟨_, object, found, waits, alive⟩

end ChimpChaos
