/-
This file proves two deadlines of the experiment controller.

A fault that has lasted as long as asked is over in time: the experiment is terminal and marked
clean after two rounds, and one more for each round that was refused or cut short and for each
restart. An experiment that is marked for deletion is gone after as many. Both count in cycles of
the controller's pace, and add the length of the last round.
-/

import ChimpChaos.Proof.Attention

namespace ChimpChaos

open Library Relation

section Deadlines

variable {deployment : Deployment} {late longest : Nat} {key : ObjectKey} {earliest : Int}
  {before after : Scheduled} {stage stage' : Stage}

/-- What the pass that is going on has found, as far as a measure tells. -/
def foundBy (key : ObjectKey) (measure : ChaosExperiment → Nat) (scheduled : Scheduled) : Nat :=
  ((scheduled.system.works key).map fun work => measure work.experiment).getD 0

theorem foundBy_of_works {measure : ChaosExperiment → Nat} {scheduled : Scheduled} {work : Work}
    (working : scheduled.system.works key = some work) :
    foundBy key measure scheduled = measure work.experiment := by
  rw [foundBy, working]
  rfl

/-- One step of the controller, for a rank that no step lowers and that every pass raises unless
it is refused something. -/
theorem Attended.punctual
    (attended : Attended deployment (controllerPace late longest) key earliest before stage)
    (ticks : Ticks deployment anyListings (controllerPace late longest) key before after)
    {object : ExperimentObject} (stored : before.stored key = some object) {start : Int}
    {goal rank rank' : Nat} {measure : ChaosExperiment → Nat}
    (punctual : before.rounds.Punctual (controllerPace late longest) start goal rank
      (foundBy key measure before))
    (grown : rank ≤ rank')
    (launched : ∀ experiment, object.snapshot key = some experiment → measure experiment = rank)
    (behind : ∀ work, before.system.works key = some work → measure work.experiment ≤ rank)
    (progress : ∀ work begun result, before.system.works key = some work →
      Attends deployment key earliest before stage work begun →
      Ending deployment.crates work.experiment work.history result → start < begun →
      measure work.experiment < goal →
      disturbed work.history = true ∨ measure work.experiment < rank)
    (waits : ∀ work begun result, before.system.works key = some work →
      Attends deployment key earliest before stage work begun →
      Ending deployment.crates work.experiment work.history result →
      (actionOf result).pause = none → before.rounds.noticed = false → goal ≤ rank) :
    after.rounds.Punctual (controllerPace late longest) start goal rank'
      (foundBy key measure after) := by
  have onTime := attended.inPace object stored
  have foundLe : foundBy key measure before ≤ rank := by
    cases working : before.system.works key with
    | none =>
      rw [foundBy, working]
      exact Nat.zero_le _
    | some work =>
      rw [foundBy_of_works working]
      exact behind work working
  have noticing {cluster : Cluster} {rounds : Rounds}
      (notices : Notices key before.system.cluster cluster before.rounds rounds) :
      rounds.Punctual (controllerPace late longest) start goal rank'
        (foundBy key measure before) := by
    by_cases same : cluster.experiments.lookup key = before.system.cluster.experiments.lookup key
    · rw [notices.same same]
      exact punctual.raise grown
    · rw [notices.changed same]
      exact (punctual.raise grown).notice
  cases ticks with
  | elsewhere step others notices =>
    rw [foundBy, others]
    exact noticing notices
  | @call experiment history request next answer cluster rounds working answered notices =>
    have found : foundBy key measure before = measure experiment := foundBy_of_works working
    rw [foundBy_of_works ((System.works_setWork _ _ _ _).trans (if_pos rfl)), ← found]
    exact noticing notices
  | @launch object' experiment idle stored' decoded =>
    obtain rfl := Option.some.inj (stored.symm.trans stored')
    rw [foundBy_of_works ((System.works_setWork _ _ _ _).trans (if_pos rfl))]
    rw [launched experiment decoded]
    exact (punctual.begin (attended.idle idle) onTime).raise grown
  | finish working ended =>
    obtain ⟨begun, attends⟩ := attended.busy _ working
    obtain ⟨result, ending, rfl⟩ := ending_of_ended attends.informed.closes ended
    rw [foundBy_of_works working] at punctual foundLe
    exact (punctual.finish attends.busy onTime foundLe
      (progress _ begun result working attends ending)
      (fun time paused => ending.pause_le paused)
      (waits _ begun result working attends ending)).raise grown
  | restart => exact (punctual.restart onTime foundLe).raise grown

/-! ### A fault is over in time -/

/-- When a fault is to be over. -/
def deadline (start : Int) (object : ExperimentObject) : Int :=
  start + object.spec.duration.toNat * 1000000000

/-- How far an experiment that was put into effect has come. -/
def headway (experiment : ChaosExperiment) : Nat := (statusOf experiment).rank - 1

/-- The schedule of an experiment that was put into effect is not behind its deadline. -/
def Overseen (crates : Crates) (pace : Pace) (key : ObjectKey) (scheduled : Scheduled)
    (stage : Stage) : Prop :=
  ∀ object start, scheduled.stored key = some object → stage.since crates = some start →
    scheduled.rounds.Punctual pace (deadline start object) 2 (stage.rank - 1)
      (foundBy key headway scheduled)

theorem rank_pos {status : ChaosExperimentStatus} (moved : status.phase ≠ .pending) :
    1 ≤ status.rank := by
  unfold ChaosExperimentStatus.rank
  split
  · exact absurd ‹_› moved
  · exact le_refl _
  all_goals split_ifs <;> omega

theorem phase_of_rank {status : ChaosExperimentStatus} (low : status.rank ≤ 0) :
    status.phase = .pending := by
  by_contra moved
  have high := rank_pos moved
  omega

/-- At its deadline a fault of any duration counts as elapsed. -/
theorem durationTest_of_deadline {duration : UInt64} {start time : Int}
    (elapsed : start + duration.toNat * 1000000000 ≤ time) :
    durationTest duration start time = true := by
  by_cases fits : duration.toNat < 2 ^ 63
  · exact durationTest_of_elapsed fits elapsed
  · -- the signed duration is negative
    have negative : duration.toInt64.toInt < 0 := toInt64_neg (by omega)
    have whole : 0 ≤ numSeconds (time - start) := Int.tdiv_nonneg (by omega) (by decide)
    rw [durationTest, decide_eq_true_eq]
    omega

/-- A round that begins after the deadline gets on, unless it is refused something. -/
theorem headway_grows {object : ExperimentObject} (stored : before.stored key = some object)
    {start : Int} (since : stage.since deployment.crates = some start) {work : Work} {begun : Int}
    (attends : Attends deployment key earliest before stage work begun)
    {result : Except OperatorError ReconcileResult}
    (ending : Ending deployment.crates work.experiment work.history result)
    (overdue : deadline start object < begun) (short : headway work.experiment < 2) :
    disturbed work.history = true ∨ headway work.experiment < stage.rank - 1 := by
  have informed := attends.informed
  have moved : (statusOf work.experiment).phase ≠ .pending := fun pending => by
    have early := informed.early pending object start stored since
    unfold deadline at overdue
    omega
  cases ending with
  | refused error disturbed => exact Or.inl disturbed
  | unclean active disturbed => exact Or.inl disturbed
  | marked missing => cases (informed.kept moved).symm.trans missing
  | released deleting ns name accepted =>
    cases (informed.released ns name accepted).symm.trans stored
  | pending pending => exact absurd pending.2 moved
  | pendingFails pending => exact absurd pending.2 moved
  | written active ns name status accepted =>
    have raised := informed.patched ns name status accepted object stored
    have high := rank_pos moved
    unfold headway
    exact Or.inr (by omega)
  | clean active terminal clean =>
    rw [headway, rank_of_clean terminal clean] at short
    omega
  | notDue active running early =>
    obtain ⟨text, started, same⟩ := informed.started running
    obtain ⟨text', started', parsed⟩ := Option.bind_eq_some_iff.mp since
    obtain rfl := Option.some.inj (same.symm.trans started')
    obtain ⟨time, read, untested⟩ := early start <| by
      rw [startOf, started, Option.bind_some, parsed]
    have reading := informed.read time read
    rw [← (informed.object object stored).1] at untested
    unfold deadline at overdue
    rw [durationTest_of_deadline (by omega)] at untested
    cases untested

theorem Overseen.step
    (attended : Attended deployment (controllerPace late longest) key earliest before stage)
    (ticks : Ticks deployment anyListings (controllerPace late longest) key before after)
    (roundTrip : RoundTrip deployment.crates earliest after.clock)
    (overseen : Overseen deployment.crates (controllerPace late longest) key before stage) :
    ∃ stage', Attended deployment (controllerPace late longest) key earliest after stage' ∧
      Overseen deployment.crates (controllerPace late longest) key after stage' := by
  obtain ⟨stage', goes, attended', origin⟩ := attended.step ticks roundTrip
  refine ⟨stage', attended', fun object' start found since => ?_⟩
  obtain ⟨object, stored, spec, -⟩ := (attended.retains ticks).object object' found
  have same : deadline start object' = deadline start object := by rw [deadline, spec, deadline]
  cases known : stage.since deployment.crates with
  | none =>
    -- the experiment has just been put into effect, by the pass that is going on
    obtain rfl := Stage.eq_pending_of_goes goes known since
    rcases origin with rfl | ⟨work, working, low⟩
    · cases known.symm.trans since
    · obtain ⟨begun, attends⟩ := attended'.busy work working
      refine Rounds.punctual_start (fun time busy => ?_) fun idle => ?_
      · obtain rfl := Option.some.inj (attends.busy.symm.trans busy)
        have early := attends.informed.early (phase_of_rank low) object' start found since
        unfold deadline
        omega
      · cases idle.symm.trans attends.busy
  | some start' =>
    obtain rfl := Option.some.inj ((Stage.since_of_goes goes known).symm.trans since)
    rw [same]
    have raised := Stage.rank_le_of_goes goes
    refine attended.punctual ticks stored (overseen object start' stored known) (by omega)
      (fun experiment decoded => ?_) (fun work working => ?_)
      (fun work begun result working attends ending overdue short =>
        headway_grows stored known attends ending overdue short)
      fun work begun result working attends ending waits noticed => ?_
    · obtain ⟨message, parsed, -⟩ := attended.tracks.rendered object stored
      have status := Option.some.inj
        ((isSnapshot_of_snapshot decoded).status.symm.trans parsed)
      rw [headway, status, Stage.rank_status]
    · obtain ⟨begun, attends⟩ := attended.busy work working
      have behind := attends.informed.behind
      unfold headway
      omega
    · rcases ending.of_waits waits with ⟨ns, name, accepted⟩ | ⟨active, terminal, clean⟩
      · cases (attends.informed.released ns name accepted).symm.trans stored
      · have behind := attends.informed.behind
        rw [rank_of_clean terminal clean] at behind
        omega

theorem overseen_of_run {initial final : Scheduled} {origin : Stage}
    (start : Attended deployment (controllerPace late longest) key earliest initial origin)
    (overseen : Overseen deployment.crates (controllerPace late longest) key initial origin)
    (run : ReflTransGen (Ticks deployment anyListings (controllerPace late longest) key) initial
      final) (roundTrip : RoundTrip deployment.crates earliest final.clock) :
    ∃ stage, Attended deployment (controllerPace late longest) key earliest final stage ∧
      Overseen deployment.crates (controllerPace late longest) key final stage := by
  induction run with
  | refl => exact ⟨origin, start, overseen⟩
  | tail _ ticks inductionHypothesis =>
    obtain ⟨stage, attended, overseen⟩ :=
      inductionHypothesis (roundTrip.shorten (le_refl _) ticks.clock_le)
    exact overseen.step attended ticks roundTrip

end Deadlines

/-- The longest time something takes that needs so many rounds of the controller, from a time on:
the rounds, as many again as have been missed since, and the last round itself. -/
def completionTime (late longest : Nat) (scheduled : Scheduled) (start : Int) (count : Nat) :
    Int :=
  Rounds.limit (controllerPace late longest) start (scheduled.rounds.missedSince start + count) +
    longest

theorem completionTime_le (late longest count : Nat) {limit : Nat} (scheduled : Scheduled)
    (start : Int) (few : scheduled.rounds.missed.length ≤ limit) :
    completionTime late longest scheduled start count ≤
      Rounds.limit (controllerPace late longest) start (limit + count) + longest :=
  Int.add_le_add_right (Rounds.limit_mono _ _
    (Nat.add_le_add_right (Rounds.missedSince_le.trans few) count)) _

/-- A fault is over in time. Two cycles and the length of a round after its duration has elapsed,
and one cycle more for each round begun since then that was refused something or cut short and
for each other restart since then, the experiment is terminal and marked clean, unless it is
gone. -/
theorem overInTime (deployment : Deployment) (late longest : Nat) (key : ObjectKey)
    (initial : Cluster) (object : ExperimentObject)
    (stored : initial.experiments.lookup key = some object) (fresh : object.status = .null)
    (final : Scheduled)
    (run : ReflTransGen (Ticks deployment anyListings (controllerPace late longest) key)
      (.start initial) final)
    (roundTrip : RoundTrip deployment.crates initial.clock final.clock)
    (object' : ExperimentObject) (found : final.stored key = some object')
    (status : ChaosExperimentStatus)
    (parsed : ChaosExperimentStatus.parse object'.status = some status)
    (text : String) (start : Int) (started : status.startedAt = some text)
    (known : deployment.crates.parseFromRfc3339 text = some start)
    (overdue : completionTime late longest final (deadline start object') 2 < final.clock) :
    status.phase.isTerminal = true ∧ status.cleanupDone = true := by
  have origin : Overseen deployment.crates (controllerPace late longest) key (.start initial)
      .pending := fun _ _ _ since => nomatch since
  obtain ⟨stage, attended, overseen⟩ :=
    overseen_of_run (attended_start stored fresh) origin run roundTrip
  obtain ⟨message, parsed', -⟩ := attended.tracks.rendered object' found
  obtain rfl := Option.some.inj (parsed.symm.trans parsed')
  rw [Stage.startedAt_status] at started
  have punctual := overseen object' start found
    (Option.bind_eq_some_iff.mpr ⟨text, started, known⟩)
  have behind : foundBy key headway final ≤ stage.rank - 1 := by
    cases working : final.system.works key with
    | none =>
      rw [foundBy, working]
      exact Nat.zero_le _
    | some work =>
      obtain ⟨begun, attends⟩ := attended.busy work working
      have behind := attends.informed.behind
      rw [foundBy_of_works working, headway]
      omega
  refine rank_eq_three ?_
  rw [Stage.rank_status]
  by_contra short
  have high := stage.rank_le
  have bound := punctual.bound (attended.inPace object' found) behind (by omega)
  unfold completionTime at overdue
  simp only [controllerPace] at bound overdue
  omega

/-- The fault of five seconds is over, whatever the three rounds were refused. -/
theorem overInTime_sample :
    ∃ (final : Scheduled) (object : ExperimentObject) (status : ChaosExperimentStatus),
      final.stored sampleKey = some object ∧
        ChaosExperimentStatus.parse object.status = some status ∧
        status.startedAt = some "1970-01-01T00:00:00+00:00" ∧
        status.phase.isTerminal = true ∧ status.cleanupDone = true := by
  obtain ⟨rounds, run, -, -, few⟩ := ticks_cleanedEdge 1000000000000
  have facts : (cleanedEdge.experiments.lookup sampleKey).bind (fun object =>
      (ChaosExperimentStatus.parse object.status).map fun status =>
        (object.spec.duration, status.startedAt)) =
      some (5, some "1970-01-01T00:00:00+00:00") := by
    decide +kernel
  have clock : cleanedEdge.clock = 10000000000 := by decide +kernel
  obtain ⟨object, stored, known⟩ := Option.bind_eq_some_iff.mp facts
  obtain ⟨status, parsed, same⟩ := Option.map_eq_some_iff.mp known
  obtain ⟨duration, started⟩ := Prod.mk.inj same
  have found := stored_later stored (cleanedEdge.clock + (1000000000000 : Nat)) rounds
  have overdue : completionTime 100000000000 1000000000
      ⟨.idle { cleanedEdge with clock := cleanedEdge.clock + (1000000000000 : Nat) }, rounds⟩
      (deadline 0 object) 2 < cleanedEdge.clock + (1000000000000 : Nat) := by
    refine (completionTime_le _ _ 2 _ (deadline 0 object) few).trans_lt ?_
    rw [clock, deadline, duration]
    decide
  obtain ⟨terminal, clean⟩ := overInTime lengthDeployment 100000000000 1000000000 sampleKey
    (sampleCluster [(sampleKey, sampleEdge)]) sampleEdge rfl rfl _ run
    (fun time nonnegative _ => lengthCrates_roundTrip time nonnegative) object found status parsed
    _ 0 started (by decide +kernel) overdue
  exact ⟨_, object, status, found, parsed, started, terminal, clean⟩

/-! ### A deletion is over in time -/

section Leaving

variable {deployment : Deployment} {late longest : Nat} {key : ObjectKey} {earliest : Int}
  {before after : Scheduled} {stage stage' : Stage}

instance (object : ExperimentObject) : Decidable (HasFinalizer object) :=
  inferInstanceAs (Decidable (_ ∈ _))

/-- How far a marked object has come on its way out. -/
def leave (object : ExperimentObject) : Nat := if HasFinalizer object then 1 else 0

/-- What of it a pass has found. -/
def leaveFound (experiment : ChaosExperiment) : Nat :=
  if needsFinalizer experiment then 0 else 1

/-- A stored experiment is marked, the pass that began since then knows it, and the schedule is
not behind. -/
structure Leaving (pace : Pace) (key : ObjectKey) (start : Int) (scheduled : Scheduled) : Prop where
  marked : ∀ object, scheduled.stored key = some object → MarkedForDeletion object
  known : ∀ work begun, scheduled.system.works key = some work →
    scheduled.rounds.begun = some begun → start < begun → isBeingDeleted work.experiment = true
  punctual : ∀ object, scheduled.stored key = some object →
    scheduled.rounds.Punctual pace start 2 (leave object) (foundBy key leaveFound scheduled)

/-- A pass that began on a marked experiment knows the mark. -/
theorem Leaving.known_step {start : Int} {pace : Pace} (leaving : Leaving pace key start before)
    (ticks : Ticks deployment anyListings pace key before after) {work : Work} {begun : Int}
    (working : after.system.works key = some work) (busy : after.rounds.begun = some begun)
    (new : start < begun) : isBeingDeleted work.experiment = true := by
  cases ticks with
  | elsewhere step others notices =>
    exact leaving.known work begun (others.symm.trans working) (notices.begun.symm.trans busy) new
  | call working' answered notices =>
    rw [System.works_setWork, if_pos rfl] at working
    obtain rfl := Option.some.inj working
    have known := leaving.known _ begun working' (notices.begun.symm.trans busy) new
    exact known
  | @launch object experiment idle stored decoded =>
    rw [System.works_setWork, if_pos rfl] at working
    obtain rfl := Option.some.inj working
    have marked := leaving.marked object stored
    show experiment.metadata.deletionTimestamp.isSome = true
    rw [(isSnapshot_of_snapshot decoded).deletion]
    exact marked
  | finish | restart =>
    rw [System.works_setWork, if_pos rfl] at working
    cases working

theorem leave_mono {object object' : ExperimentObject}
    (kept : HasFinalizer object → HasFinalizer object') : leave object ≤ leave object' := by
  unfold leave
  split_ifs with held held'
  · exact le_refl _
  · exact absurd (kept held) held'
  all_goals omega

theorem leaveFound_le {cluster : Cluster} {work : Work} {begun : Int} {object : ExperimentObject}
    (informed : Informed deployment key cluster stage work begun)
    (stored : cluster.experiments.lookup key = some object) :
    leaveFound work.experiment ≤ leave object := by
  unfold leaveFound leave
  cases missing : needsFinalizer work.experiment with
  | true => exact Nat.zero_le _
  | false => rw [if_pos ((informed.object object stored).2.1 missing), if_neg Bool.false_ne_true]

/-- A round that begins on a marked experiment gets on, unless it is refused something. -/
theorem leave_grows {object : ExperimentObject} (stored : before.stored key = some object)
    {work : Work} {begun : Int} (attends : Attends deployment key earliest before stage work begun)
    {result : Except OperatorError ReconcileResult}
    (ending : Ending deployment.crates work.experiment work.history result)
    (known : isBeingDeleted work.experiment = true) :
    disturbed work.history = true ∨ leaveFound work.experiment < leave object := by
  have informed := attends.informed
  have inactive (active : Active work.experiment) : False := by
    cases active.2.symm.trans known
  cases ending with
  | refused error disturbed => exact Or.inl disturbed
  | marked missing ns name accepted =>
    refine Or.inr ?_
    rw [leaveFound, missing, if_pos rfl, leave,
      if_pos (informed.marked ns name accepted object stored)]
    exact Nat.zero_lt_one
  | released deleting ns name accepted =>
    cases (informed.released ns name accepted).symm.trans stored
  | pending pending => exact (inactive pending.1).elim
  | pendingFails pending => exact (inactive pending.1).elim
  | written active | notDue active | unclean active | clean active => exact (inactive active).elim

theorem Leaving.step {start : Int}
    (attended : Attended deployment (controllerPace late longest) key earliest before stage)
    (ticks : Ticks deployment anyListings (controllerPace late longest) key before after)
    (leaving : Leaving (controllerPace late longest) key start before) :
    Leaving (controllerPace late longest) key start after where
  marked := fun object' found => by
    obtain ⟨object, stored, -, -, marked⟩ := (attended.retains ticks).object object' found
    exact marked (leaving.marked object stored)
  known := fun _ _ working busy new => leaving.known_step ticks working busy new
  punctual := fun object' found => by
    obtain ⟨object, stored, -, finalizer, -⟩ := (attended.retains ticks).object object' found
    refine attended.punctual ticks stored (leaving.punctual object stored) (leave_mono finalizer)
      (fun experiment decoded => ?_) (fun work working => ?_)
      (fun work begun result working attends ending new _ =>
        leave_grows stored attends ending (leaving.known work begun working attends.busy new))
      fun work begun result working attends ending waits noticed => ?_
    · have same : needsFinalizer experiment = false ↔ HasFinalizer object := by
        rw [needsFinalizer_eq_false_iff, (isSnapshot_of_snapshot decoded).finalizers, HasFinalizer]
      unfold leaveFound leave
      cases missing : needsFinalizer experiment with
      | true =>
        have absent : ¬ HasFinalizer object := fun held => by
          cases (same.mpr held).symm.trans missing
        rw [if_pos rfl, if_neg absent]
      | false => rw [if_pos (same.mp missing), if_neg Bool.false_ne_true]
    · obtain ⟨begun, attends⟩ := attended.busy work working
      exact leaveFound_le attends.informed stored
    · rcases ending.of_waits waits with ⟨ns, name, accepted⟩ | ⟨active, -⟩
      · cases (attends.informed.released ns name accepted).symm.trans stored
      · rcases attends.noticed object stored (leaving.marked object stored) with deleted | seen
        · cases active.2.symm.trans deleted
        · cases noticed.symm.trans seen

/-- When an experiment is marked, the schedule is not behind. -/
theorem leaving_start
    (attended : Attended deployment (controllerPace late longest) key earliest before stage)
    {object : ExperimentObject} (stored : before.stored key = some object)
    (marked : MarkedForDeletion object) :
    Leaving (controllerPace late longest) key before.clock before where
  marked := fun object' found => by
    obtain rfl := Option.some.inj (stored.symm.trans found)
    exact marked
  known := fun work begun working busy new => by
    obtain ⟨begun', attends⟩ := attended.busy work working
    obtain rfl := Option.some.inj (attends.busy.symm.trans busy)
    exact absurd attends.informed.began (not_le_of_gt new)
  punctual := fun object' found => by
    obtain rfl := Option.some.inj (stored.symm.trans found)
    refine Rounds.punctual_start (fun begun busy => ?_) fun idle _ => ?_
    · cases working : before.system.works key with
      | none => cases (attended.idle working).symm.trans busy
      | some work =>
        obtain ⟨begun', attends⟩ := attended.busy work working
        obtain rfl := Option.some.inj (attends.busy.symm.trans busy)
        exact attends.informed.began
    · cases working : before.system.works key with
      | none =>
        rcases attended.awake working object stored with due | ⟨-, -, alive⟩
        · exact due
        · exact absurd marked alive
      | some work =>
        obtain ⟨begun, attends⟩ := attended.busy work working
        cases idle.symm.trans attends.busy

theorem leaving_of_run {initial final : Scheduled} {start : Int}
    (attended : Attended deployment (controllerPace late longest) key earliest initial stage)
    (leaving : Leaving (controllerPace late longest) key start initial)
    (run : ReflTransGen (Ticks deployment anyListings (controllerPace late longest) key) initial
      final) (roundTrip : RoundTrip deployment.crates earliest final.clock) :
    ∃ stage', Attended deployment (controllerPace late longest) key earliest final stage' ∧
      Leaving (controllerPace late longest) key start final := by
  induction run with
  | refl => exact ⟨stage, attended, leaving⟩
  | tail _ ticks inductionHypothesis =>
    obtain ⟨middle, attended, leaving⟩ :=
      inductionHypothesis (roundTrip.shorten (le_refl _) ticks.clock_le)
    obtain ⟨stage', -, attended', -⟩ := attended.step ticks roundTrip
    exact ⟨stage', attended', leaving.step attended ticks⟩

end Leaving

/-- A deletion is over in time. Two cycles and the length of a round after an experiment is marked
for deletion, and one cycle more for each round begun since then that was refused something or
cut short and for each other restart since then, it is gone. -/
theorem goneInTime (deployment : Deployment) (late longest : Nat) (key : ObjectKey)
    (initial : Cluster) (object : ExperimentObject)
    (stored : initial.experiments.lookup key = some object) (fresh : object.status = .null)
    (middle final : Scheduled)
    (run : ReflTransGen (Ticks deployment anyListings (controllerPace late longest) key)
      (.start initial) middle)
    (object' : ExperimentObject) (found : middle.stored key = some object')
    (marked : MarkedForDeletion object')
    (goesOn : ReflTransGen (Ticks deployment anyListings (controllerPace late longest) key) middle
      final)
    (roundTrip : RoundTrip deployment.crates initial.clock final.clock)
    (overdue : completionTime late longest final middle.clock 2 < final.clock) :
    final.stored key = none := by
  have later : middle.clock ≤ final.clock := by
    clear overdue roundTrip
    induction goesOn with
    | refl => exact le_refl _
    | tail _ ticks inductionHypothesis => exact inductionHypothesis.trans ticks.clock_le
  obtain ⟨stage, attended⟩ := attended_of_run (attended_start stored fresh) run
    (roundTrip.shorten (le_refl _) later)
  obtain ⟨stage', attended', leaving⟩ :=
    leaving_of_run attended (leaving_start attended found marked) goesOn roundTrip
  cases left : final.stored key with
  | none => rfl
  | some object'' =>
    have punctual := leaving.punctual object'' left
    have low : leave object'' < 2 := by
      unfold leave
      split_ifs <;> omega
    have behind : foundBy key leaveFound final ≤ leave object'' := by
      cases working : final.system.works key with
      | none =>
        rw [foundBy, working]
        exact Nat.zero_le _
      | some work =>
        obtain ⟨begun, attends⟩ := attended'.busy work working
        rw [foundBy_of_works working]
        exact leaveFound_le attends.informed left
    have bound := punctual.bound (attended'.inPace object'' left) behind low
    unfold completionTime at overdue
    simp only [controllerPace] at bound overdue
    omega

/-- The edge experiment is marked for deletion before anything has happened. -/
def markedEdge : Cluster := markDeleted sampleKey (sampleCluster [(sampleKey, sampleEdge)])

/-- Its deletion. -/
def removedEdge : Cluster := runPass lengthDeployment (sampleServer 0) sampleKey markedEdge

/-- A user asks for a deletion when the operator has just started. -/
theorem ticks_marked (deployment : Deployment) (pace : Pace) (key : ObjectKey) (cluster : Cluster) :
    ∃ rounds, Ticks deployment anyListings pace key (.start cluster)
        ⟨.idle (markDeleted key cluster), rounds⟩ ∧ rounds.missed.length ≤ 0 := by
  obtain ⟨rounds, notices, begun, missed⟩ :=
    exists_notices key cluster (markDeleted key cluster) (.fresh cluster.clock)
  refine ⟨rounds, .elsewhere (.outside (.deletion cluster key _)) rfl notices fun _ _ => ?_,
    by rw [missed]; exact le_refl _⟩
  refine ⟨fun time busy => ?_, fun _ due scheduled => ?_⟩
  · cases begun.symm.trans busy
  have soon : cluster.clock ≤ due := by
    by_cases same : (markDeleted key cluster).experiments.lookup key =
        cluster.experiments.lookup key
    · rw [notices.same same] at scheduled
      exact le_of_eq (Option.some.inj scheduled)
    · rw [notices.changed same, Rounds.due_notice rfl] at scheduled
      rw [← Option.some.inj scheduled]
      exact le_min (le_refl _) (le_refl _)
  exact soon.trans (Int.le_add_of_nonneg_right (Int.natCast_nonneg _))

/-- The marked experiment is gone. -/
theorem goneInTime_sample :
    ∃ final : Scheduled, (∃ object, markedEdge.experiments.lookup sampleKey = some object ∧
        MarkedForDeletion object) ∧ final.stored sampleKey = none := by
  obtain ⟨rounds, marks, few⟩ := ticks_marked lengthDeployment
    (controllerPace 100000000000 1000000000) sampleKey (sampleCluster [(sampleKey, sampleEdge)])
  have same : markDeleted sampleKey (sampleCluster [(sampleKey, sampleEdge)]) = markedEdge := by
    rw [markedEdge]
  have same' : runPass lengthDeployment (sampleServer 0) sampleKey markedEdge = removedEdge := by
    rw [removedEdge]
  rw [same] at marks
  have clock : markedEdge.clock = 0 := by decide +kernel
  have clock' : removedEdge.clock = 0 := by decide +kernel
  have start : isDecoded sampleKey markedEdge = true := by decide +kernel
  have absent : removedEdge.experiments.lookup sampleKey = none := by
    have missing : (removedEdge.experiments.lookup sampleKey).isNone = true := by decide +kernel
    exact Option.isNone_iff_eq_none.mp missing
  have marked : ((markedEdge.experiments.lookup sampleKey).map fun object =>
      object.deletionTimestamp.isSome) = some true := by decide +kernel
  obtain ⟨object, stored, mark⟩ := Option.map_eq_some_iff.mp marked
  obtain ⟨rounds', run, resting⟩ := ticks_runPass lengthDeployment
    (controllerPace 100000000000 1000000000) (sampleServer_serves 0).any start few
    (by rw [same', clock', clock]; decide)
  rw [same'] at run resting
  have passed := ticks_time lengthDeployment (controllerPace 100000000000 1000000000) sampleKey
    removedEdge resting.idle 1000000000000 fun _ found => by cases absent.symm.trans found
  have overdue : completionTime 100000000000 1000000000
      ⟨.idle { removedEdge with clock := removedEdge.clock + (1000000000000 : Nat) }, rounds'⟩
      markedEdge.clock 2 < removedEdge.clock + (1000000000000 : Nat) := by
    refine (completionTime_le _ _ 2 _ _ resting.missed).trans_lt ?_
    rw [clock, clock']
    decide
  exact ⟨_, ⟨object, stored, mark⟩, goneInTime lengthDeployment 100000000000 1000000000 sampleKey
    (sampleCluster [(sampleKey, sampleEdge)]) sampleEdge rfl rfl _ _ (.single marks) object stored
    mark (run.tail passed) (fun time nonnegative _ => lengthCrates_roundTrip time nonnegative)
    overdue⟩

end ChimpChaos
