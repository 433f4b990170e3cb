/-
This file adds the schedule of one experiment to the interleaved controller.

A pass begins when it is due, or earlier when a change of the stored experiment is noticed, and
says at its end when the next one is due. The controller keeps a pace: a due pass begins not too
late, and no pass takes too long. The operator may be restarted at any time; it then looks at
every experiment anew.
-/

import ChimpChaos.Cluster.Interleaved
import ChimpChaos.Library.Rounds
import ChimpChaos.Operator.Controller
import ChimpChaos.Proof.CleanupGuarantee
import ChimpChaos.Proof.PassResults

namespace ChimpChaos

open Library Relation

/-- The controller with the schedule of one experiment. -/
structure Scheduled where
  system : System
  rounds : Rounds

namespace Scheduled

/-- The operator starts: each experiment is looked at. -/
def start (cluster : Cluster) : Scheduled := ⟨.idle cluster, .fresh cluster.clock⟩

abbrev clock (scheduled : Scheduled) : Int := scheduled.system.cluster.clock

/-- What is stored under a key. -/
abbrev stored (scheduled : Scheduled) (key : ObjectKey) : Option ExperimentObject :=
  scheduled.system.cluster.experiments.lookup key

end Scheduled

/-- The pause after a pass, in nanoseconds. -/
def Action.pause : Action → Option Nat
  | .requeue secs => some (secs * 1000000000)
  | .awaitChange => none

/-- How late a pass may begin and how long it may take. No pause is longer than that after an
error. -/
def controllerPace (late longest : Nat) : Pace := ⟨late, longest, 30000000000⟩

/-- A change of the stored experiment is noticed when it happens. -/
structure Notices (key : ObjectKey) (before after : Cluster) (rounds rounds' : Rounds) : Prop where
  same : after.experiments.lookup key = before.experiments.lookup key → rounds' = rounds
  changed : after.experiments.lookup key ≠ before.experiments.lookup key →
    rounds' = rounds.notice after.clock

/-- As long as the experiment is stored, the controller keeps the pace. -/
def InPace (pace : Pace) (key : ObjectKey) (scheduled : Scheduled) : Prop :=
  ∀ object, scheduled.stored key = some object → scheduled.rounds.OnTime pace scheduled.clock

/-- One step of the controller with the schedule of an experiment. -/
inductive Ticks (deployment : Deployment) (service : Service) (pace : Pace) (key : ObjectKey) :
    Scheduled → Scheduled → Prop
  | elsewhere {before : Scheduled} {system : System} {rounds : Rounds}
      (step : Operates deployment service before.system system)
      (others : system.works key = before.system.works key)
      (notices : Notices key before.system.cluster system.cluster before.rounds rounds)
      (inPace : InPace pace key ⟨system, rounds⟩) :
      Ticks deployment service pace key before ⟨system, rounds⟩
  | launch {before : Scheduled} {object : ExperimentObject} {experiment : ChaosExperiment}
      (idle : before.system.works key = none) (stored : before.stored key = some object)
      (decoded : object.snapshot key = some experiment) :
      Ticks deployment service pace key before
        ⟨before.system.setWork key (some ⟨experiment, [], deployment.pass experiment⟩),
          before.rounds.begin before.clock⟩
  | call {before : Scheduled} {experiment : ChaosExperiment} {history : History}
      {request : ApiCall} {next : Answer request → Handler ReconcileResult}
      {answer : Answer request} {cluster : Cluster} {rounds : Rounds}
      (working : before.system.works key = some ⟨experiment, history, .call request next⟩)
      (answered : service experiment request before.system.cluster answer cluster)
      (notices : Notices key before.system.cluster cluster before.rounds rounds)
      (inPace : InPace pace key ⟨{ before.system with cluster }.setWork key
        (some ⟨experiment, ⟨request, answer⟩ :: history, next answer⟩), rounds⟩) :
      Ticks deployment service pace key before ⟨{ before.system with cluster }.setWork key
        (some ⟨experiment, ⟨request, answer⟩ :: history, next answer⟩), rounds⟩
  | finish {before : Scheduled} {experiment : ChaosExperiment} {history : History}
      {rest : Handler ReconcileResult} {action : Action}
      (working : before.system.works key = some ⟨experiment, history, rest⟩)
      (ended : actionAfter rest = some action) :
      Ticks deployment service pace key before ⟨before.system.setWork key none,
        before.rounds.finish before.clock action.pause (disturbed history)⟩
  | restart (before : Scheduled) :
      Ticks deployment service pace key before ⟨before.system.setWork key none,
        before.rounds.restart before.clock⟩

section Ticks

variable {deployment : Deployment} {service : Service} {pace : Pace} {key : ObjectKey}
  {before after : Scheduled}

/-- Without the schedule, the controller takes one of its steps. -/
theorem Ticks.operates (ticks : Ticks deployment service pace key before after) :
    Operates deployment service before.system after.system := by
  cases ticks with
  | elsewhere step => exact step
  | launch idle stored decoded => exact .launch idle stored decoded
  | call working answered => exact .call working answered
  | finish => exact .leave _ _
  | restart => exact .leave _ _

/-- The action after a result. -/
def actionOf : Except OperatorError ReconcileResult → Action
  | .ok result => reconcileHandler result
  | .error _ => errorPolicy

/-- A pass that has ended has ended in one of the ways it may end. -/
theorem ending_of_ended {finish : History → Except OperatorError ReconcileResult → Prop}
    {rest : Handler ReconcileResult} {history : History} {action : Action}
    (closes : Closes finish rest history) (ended : actionAfter rest = some action) :
    ∃ result, finish history result ∧ action = actionOf result := by
  cases rest with
  | done result => exact ⟨.ok result, closes, (Option.some.inj ended).symm⟩
  | fail error => exact ⟨.error error, closes, (Option.some.inj ended).symm⟩
  | panic | call => cases ended

/-- No pause is longer than that after an error. -/
theorem Ending.pause_le {late longest time : Nat} {crates : Crates} {experiment : ChaosExperiment}
    {history : History} {result : Except OperatorError ReconcileResult}
    (ending : Ending crates experiment history result)
    (paused : (actionOf result).pause = some time) :
    time ≤ (controllerPace late longest).pause := by
  have short (secs : Nat) (requeued : actionOf result = .requeue secs) : secs ≤ 30 := by
    cases ending <;> cases requeued <;> decide
  cases action : actionOf result with
  | awaitChange =>
    rw [action] at paused
    cases paused
  | requeue secs =>
    have within := short secs action
    rw [action] at paused
    obtain rfl := Option.some.inj paused
    show secs * 1000000000 ≤ 30000000000
    omega

/-- A pass that waits for a change has removed its experiment or has found it clean. -/
theorem Ending.of_waits {crates : Crates} {experiment : ChaosExperiment} {history : History}
    {result : Except OperatorError ReconcileResult}
    (ending : Ending crates experiment history result)
    (waits : (actionOf result).pause = none) :
    (∃ ns name, ⟨.removeFinalizer ns name, .ok ()⟩ ∈ history) ∨
      Active experiment ∧ (statusOf experiment).phase.isTerminal = true ∧
        (statusOf experiment).cleanupDone = true := by
  cases ending with
  | released deleting ns name accepted => exact Or.inl ⟨ns, name, accepted⟩
  | clean active terminal clean => exact Or.inr ⟨active, terminal, clean⟩
  | _ => cases waits

/-! ### What a step leaves of the stored experiment -/

/-- An object carries the operator's finalizer. -/
def HasFinalizer (object : ExperimentObject) : Prop :=
  finalizerName ∈ object.finalizers.getD []

/-- An object is marked for deletion. -/
def MarkedForDeletion (object : ExperimentObject) : Prop :=
  object.deletionTimestamp.isSome = true

/-- Time goes on, and a stored experiment keeps its spec, the finalizer and its deletion mark. -/
structure Retains (key : ObjectKey) (before after : Cluster) : Prop where
  clock : before.clock ≤ after.clock
  object : ∀ object', after.experiments.lookup key = some object' →
    ∃ object, before.experiments.lookup key = some object ∧ object'.spec = object.spec ∧
      (HasFinalizer object → HasFinalizer object') ∧
      (MarkedForDeletion object → MarkedForDeletion object')

theorem retains_refl (key : ObjectKey) (cluster : Cluster) : Retains key cluster cluster :=
  ⟨le_refl _, fun object stored => ⟨object, stored, rfl, id, id⟩⟩

theorem Marked.keeps {object : ExperimentObject} {timestamp : Option String}
    (marked : Marked object timestamp) (before : MarkedForDeletion object) :
    timestamp.isSome = true := by
  rw [marked before]
  exact before

theorem retains_of_outside {before after : Cluster} (moved : Outside before after) :
    Retains key before after where
  clock := moved.drift.clock
  object := fun object' found => by
    obtain ⟨object, timestamp, stored, marked, rfl⟩ := moved.drift.object key object' found
    exact ⟨object, stored, rfl, id, marked.keeps⟩

/-- A call takes the finalizer only off an object that is not marked. -/
theorem retains_of_advance {actor : ObjectKey} {request : ApiCall} {before after : Cluster}
    (advance : Advance actor request before after)
    (released : request = .removeFinalizer key.1 key.2 → ∀ object,
      before.experiments.lookup key = some object → MarkedForDeletion object) :
    Retains key before after where
  clock := advance.clock
  object := fun object' found => by
    obtain ⟨object, timestamp, stored, marked, rewrites⟩ := advance.object key object' found
    refine ⟨object, stored, ?_⟩
    cases rewrites with
    | kept | patched => exact ⟨rfl, id, marked.keeps⟩
    | marked => exact ⟨rfl, fun _ => List.mem_singleton.mpr rfl, marked.keeps⟩
    | released alive =>
      have kept := marked.keeps (released rfl object stored)
      change timestamp = none at alive
      rw [alive] at kept
      cases kept

end Ticks

/-! ### Whole passes that keep the pace -/

/-- No pass is going on, nothing is overdue, and so many rounds have been missed at most. -/
structure Resting (rounds : Rounds) (clock : Int) (count : Nat) : Prop where
  idle : rounds.begun = none
  due : ∀ due, rounds.due = some due → clock ≤ due
  missed : rounds.missed.length ≤ count

section Script

variable {deployment : Deployment} {pace : Pace} {key : ObjectKey}

/-- What a step does is noticed, or there was nothing to notice. -/
theorem exists_notices (key : ObjectKey) (before after : Cluster) (rounds : Rounds) :
    ∃ rounds', Notices key before after rounds rounds' ∧ rounds'.begun = rounds.begun ∧
      rounds'.missed = rounds.missed := by
  by_cases same : after.experiments.lookup key = before.experiments.lookup key
  · exact ⟨rounds, ⟨fun _ => rfl, fun changed => absurd same changed⟩, rfl, rfl⟩
  · refine ⟨rounds.notice after.clock, ⟨fun kept => absurd kept same, fun _ => rfl⟩,
      Rounds.begun_notice _ _, ?_⟩
    unfold Rounds.notice
    split <;> rfl

theorem clock_le_of_reaches {experiment : ChaosExperiment} {program rest : Handler ReconcileResult}
    {trace : History} {before after : Cluster}
    (reaches : Program.Reaches (anyListings experiment) program before trace rest after) :
    before.clock ≤ after.clock := by
  induction reaches with
  | stop => exact le_refl _
  | call answered _ inductionHypothesis => exact answered.advance.clock.trans inductionHypothesis

/-- The calls of a pass that is over in time. -/
theorem ticks_reaches {experiment : ChaosExperiment} {history trace : History}
    {program rest : Handler ReconcileResult} {system : System} {rounds : Rounds} {final : Cluster}
    {begun : Int}
    (reaches : Program.Reaches (anyListings experiment) program system.cluster trace rest final)
    (working : system.works key = some ⟨experiment, history, program⟩)
    (busy : rounds.begun = some begun) (inTime : final.clock ≤ begun + pace.longest) :
    ∃ after, ReflTransGen (Ticks deployment anyListings pace key) ⟨system, rounds⟩ after ∧
      after.system.cluster = final ∧ (∀ other ≠ key,
        after.system.works other = system.works other) ∧
      after.system.works key = some ⟨experiment, trace.reverse ++ history, rest⟩ ∧
      after.rounds.begun = some begun ∧ after.rounds.missed = rounds.missed := by
  generalize same : system.cluster = cluster at reaches
  induction reaches generalizing system rounds history with
  | stop program state => exact ⟨⟨system, rounds⟩, .refl, same, fun _ _ => rfl, working, busy, rfl⟩
  | @call request next state middle final answer trace rest answered reaches inductionHypothesis =>
    subst same
    obtain ⟨rounds', notices, begunSame, missedSame⟩ :=
      exists_notices key system.cluster middle rounds
    have keeps := clock_le_of_reaches reaches
    have working' : (({ system with cluster := middle } : System).setWork key
        (some ⟨experiment, ⟨request, answer⟩ :: history, next answer⟩)).works key =
          some ⟨experiment, ⟨request, answer⟩ :: history, next answer⟩ := by
      rw [System.works_setWork, if_pos rfl]
    have step : Ticks deployment anyListings pace key ⟨system, rounds⟩ _ :=
      .call working answered notices fun _ _ => ⟨fun time started => by
        obtain rfl := Option.some.inj (busy.symm.trans (begunSame.symm.trans started))
        exact keeps.trans inTime, fun idle => by
        cases busy.symm.trans (begunSame.symm.trans idle)⟩
    obtain ⟨after, run, reached, others, last, busy', missed⟩ :=
      inductionHypothesis working' (begunSame.trans busy) inTime rfl
    refine ⟨after, .head step run, reached, fun other different => ?_, ?_, busy',
      missed.trans missedSame⟩
    · rw [others other different, System.works_setWork, if_neg different]
    · rw [last, List.reverse_cons, List.append_assoc]
      rfl

theorem idle_of_setWork {system : System} {cluster : Cluster}
    (reached : system.cluster = cluster) (others : ∀ other ≠ key, system.works other = none) :
    system.setWork key none = .idle cluster := by
  have works : (system.setWork key none).works = fun _ => none := by
    funext other
    rw [System.works_setWork]
    split_ifs with here
    · rfl
    · exact others other here
  show System.mk system.cluster (system.setWork key none).works = _
  rw [works, reached]
  rfl

variable (deployment pace) in
/-- A whole pass on a stored experiment that is over in time. One that panics takes the operator
down with it. -/
theorem ticks_runPass {server : Server} (serves : server.Serves anyListings) {cluster : Cluster}
    (present : ((cluster.experiments.lookup key).bind fun object =>
      object.snapshot key).isSome = true) {rounds : Rounds} {count : Nat}
    (few : rounds.missed.length ≤ count)
    (inTime : (runPass deployment server key cluster).clock ≤ cluster.clock + pace.longest) :
    ∃ rounds', ReflTransGen (Ticks deployment anyListings pace key) ⟨.idle cluster, rounds⟩
        ⟨.idle (runPass deployment server key cluster), rounds'⟩ ∧
      Resting rounds' (runPass deployment server key cluster).clock (count + 1) := by
  unfold runPass at inTime ⊢
  cases decoded : (cluster.experiments.lookup key).bind fun object => object.snapshot key with
  | none =>
    rw [decoded] at present
    cases present
  | some experiment =>
    rw [decoded] at inTime
    obtain ⟨object, stored, snapshot⟩ := Option.bind_eq_some_iff.mp decoded
    have reaches := Program.reaches_serving (serves experiment) (deployment.pass experiment) cluster
    have launched : Ticks deployment anyListings pace key ⟨.idle cluster, rounds⟩ _ :=
      .launch rfl stored snapshot
    have started : ((System.idle cluster).setWork key
        (some ⟨experiment, [], deployment.pass experiment⟩)).works key =
          some ⟨experiment, [], deployment.pass experiment⟩ := by
      rw [System.works_setWork, if_pos rfl]
    have begun : (rounds.begin cluster.clock).begun = some cluster.clock := rfl
    obtain ⟨after, run, reached, others, working, busy, missed⟩ :
        ∃ after, ReflTransGen (Ticks deployment anyListings pace key) _ after ∧ _ :=
      ticks_reaches reaches started begun inTime
    have left := idle_of_setWork reached fun other different => by
      rw [others other different, System.works_setWork, if_neg different]
      rfl
    have same : after.clock = (clusterAfter deployment server experiment cluster).clock :=
      congrArg Cluster.clock reached
    rw [← left]
    cases ended : actionAfter (Program.exec (server experiment) (deployment.pass experiment)
        cluster).1.remaining with
    | some action =>
      refine ⟨_, .head launched (run.tail (.finish working ended)), rfl,
        fun due scheduled => ?_, ?_⟩
      · have late := (Rounds.onTime_finish after.rounds ⟨0, 0, 0⟩ after.clock action.pause
          _).idle rfl due scheduled
        rw [same] at late
        simpa using late
      · unfold Rounds.finish
        dsimp only
        rw [missed]
        split_ifs
        · exact Nat.succ_le_succ few
        · exact Nat.le_succ_of_le few
    | none =>
      refine ⟨_, .head launched (run.tail (.restart after)), rfl, fun due scheduled => ?_, ?_⟩
      · obtain rfl := Option.some.inj scheduled
        exact le_of_eq same.symm
      · show (_ :: after.rounds.missed).length ≤ _
        rw [missed]
        exact Nat.succ_le_succ few

variable (deployment pace key) in
/-- Time passes. -/
theorem ticks_time (cluster : Cluster) {rounds : Rounds} (idle : rounds.begun = none)
    (elapsed : Nat) (inTime : ∀ object, cluster.experiments.lookup key = some object →
      ∀ due, rounds.due = some due → cluster.clock + elapsed ≤ due + pace.late) :
    Ticks deployment anyListings pace key ⟨.idle cluster, rounds⟩
      ⟨.idle { cluster with clock := cluster.clock + elapsed }, rounds⟩ := by
  refine .elsewhere (.outside (.time cluster elapsed)) rfl
    ⟨fun _ => rfl, fun changed => absurd rfl changed⟩ fun object stored => ⟨fun begun busy => ?_,
      fun _ => inTime object stored⟩
  cases idle.symm.trans busy

variable (pace) in
/-- A pass that finds nothing to do. -/
theorem ticks_waits {cluster : Cluster} (rounds : Rounds) {object : ExperimentObject}
    {experiment : ChaosExperiment} (stored : cluster.experiments.lookup key = some object)
    (decoded : object.snapshot key = some experiment)
    (nothing : deployment.pass experiment = .done .done) :
    ReflTransGen (Ticks deployment anyListings pace key) ⟨.idle cluster, rounds⟩
      ⟨.idle cluster, ⟨none, none, false, rounds.missed⟩⟩ := by
  have launched : Ticks deployment anyListings pace key ⟨.idle cluster, rounds⟩ _ :=
    .launch rfl stored decoded
  have left : ((System.idle cluster).setWork key
      (some ⟨experiment, [], deployment.pass experiment⟩)).setWork key none = .idle cluster :=
    idle_of_setWork rfl fun other different => by
      rw [System.works_setWork, if_neg different]
      rfl
  have finished : Ticks deployment anyListings pace key
      ⟨(System.idle cluster).setWork key (some ⟨experiment, [], deployment.pass experiment⟩),
        rounds.begin cluster.clock⟩ _ :=
    .finish ((System.works_setWork _ _ _ _).trans (if_pos rfl))
      (show actionAfter (deployment.pass experiment) = some .awaitChange by rw [nothing]; rfl)
  rw [left] at finished
  exact .head launched (.single finished)

end Script

end ChimpChaos
