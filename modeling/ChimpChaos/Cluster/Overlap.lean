/-
This file runs the operator in the cluster with passes that overlap.

Any number of passes run at the same time, for any experiments. Each works on a version of
its experiment that was stored at some time, however old; each may stop for good after any
call; and users and controllers act in between. The versions stored so far are kept next to
the cluster, because a watch cache may still hand out any of them.
-/

import ChimpChaos.Cluster.Pass
import ChimpChaos.Library.Pool

namespace ChimpChaos

open Library Relation

/-- A cluster with every version of an experiment that it has stored so far. -/
structure Watched where
  cluster : Cluster
  seen : ObjectKey → ExperimentObject → Prop

namespace Watched

/-- The cluster moves, and what it stores now is a version from now on. -/
def observe (watched : Watched) (cluster : Cluster) : Watched where
  cluster
  seen key object :=
    watched.seen key object ∨ cluster.experiments.lookup key = some object

/-- The versions at the beginning are the stored objects. -/
def start (cluster : Cluster) : Watched where
  cluster
  seen key object := cluster.experiments.lookup key = some object

/-- Versions are never forgotten. -/
def Later (before after : Watched) : Prop :=
  ∀ key object, before.seen key object → after.seen key object

theorem later_observe (watched : Watched) (cluster : Cluster) :
    watched.Later (watched.observe cluster) := fun _ _ seen => Or.inl seen

/-- What is stored is a version. -/
def Current (watched : Watched) : Prop :=
  ∀ key object, watched.cluster.experiments.lookup key = some object → watched.seen key object

theorem current_start (cluster : Cluster) : (start cluster).Current := fun _ _ stored => stored

theorem current_observe (watched : Watched) (cluster : Cluster) :
    (watched.observe cluster).Current := fun _ _ stored => Or.inr stored

end Watched

abbrev OperatorPool : Type :=
  Pool Watched ChaosExperiment ApiCall Answer OperatorError ReconcileResult

/-- Passes that overlap and work on any stored version. -/
def overlapping (deployment : Deployment) (service : Service) :
    Rules Watched ChaosExperiment ApiCall Answer OperatorError ReconcileResult where
  answers experiment request before answer after := ∃ cluster,
    service experiment request before.cluster answer cluster ∧ after = before.observe cluster
  launches state experiment program := ∃ key object,
    state.seen key object ∧ object.snapshot key = some experiment ∧
      program = deployment.pass experiment
  outside before after := ∃ cluster,
    Outside before.cluster cluster ∧ after = before.observe cluster

/-- The pool in which no pass has begun. -/
def idlePool (cluster : Cluster) : OperatorPool := ⟨.start cluster, []⟩

/-- A pool that a run reaches from a cluster. -/
def Reachable (deployment : Deployment) (service : Service) (initial : Cluster)
    (pool : OperatorPool) : Prop :=
  ReflTransGen (Pool.Moves (overlapping deployment service)) (idlePool initial) pool

/-- A pass works on a version of its own experiment. -/
def WorksOnVersion (experiment : ChaosExperiment) (watched : Watched) : Prop :=
  ∃ object, watched.seen (actorOf experiment) object ∧
    IsSnapshot (actorOf experiment) object experiment

theorem WorksOnVersion.later {experiment : ChaosExperiment} {before after : Watched}
    (works : WorksOnVersion experiment before) (later : before.Later after) :
    WorksOnVersion experiment after := by
  obtain ⟨object, seen, snapshot⟩ := works
  exact ⟨object, later _ _ seen, snapshot⟩

theorem worksOnVersion_of_launch {deployment : Deployment} {service : Service}
    {state : Watched} {experiment : ChaosExperiment} {program : Handler ReconcileResult}
    (launches : (overlapping deployment service).launches state experiment program) :
    WorksOnVersion experiment state ∧ program = deployment.pass experiment := by
  obtain ⟨key, object, seen, decoded, same⟩ := launches
  have snapshot := isSnapshot_of_snapshot decoded
  rw [← snapshot.actorOf_eq] at seen snapshot
  exact ⟨⟨object, seen, snapshot⟩, same⟩

/-! ### Whole passes of a pool -/

section Script

variable {service : Service} {server : Server}

/-- A run against a server function is a run of the watched cluster, and it loses no version. -/
theorem reaches_watched (deployment : Deployment)
    (serves : server.Serves service)
    {experiment : ChaosExperiment} {program rest : Handler ReconcileResult}
    {cluster final : Cluster} {trace : History}
    (reaches : Program.Reaches (fun request before answer after =>
      server experiment request before = (answer, after)) program cluster trace rest final)
    {watched : Watched} (same : watched.cluster = cluster) (current : watched.Current) :
    ∃ watched', Program.Reaches ((overlapping deployment service).answers experiment) program
      watched trace rest watched' ∧ watched'.cluster = final ∧ watched.Later watched' ∧
      watched'.Current := by
  induction reaches generalizing watched with
  | stop program cluster => exact ⟨watched, .stop _ _, same, fun _ _ seen => seen, current⟩
  | @call request next state middle final answer trace rest answered _ inductionHypothesis =>
    subst same
    obtain ⟨watched', reaches', final', later, current'⟩ :=
      @inductionHypothesis (watched.observe middle) rfl (watched.current_observe middle)
    have permitted := serves experiment request watched.cluster
    rw [answered] at permitted
    exact ⟨watched', .call ⟨middle, permitted, rfl⟩ reaches', final',
      fun key object seen => later key object (watched.later_observe middle key object seen),
      current'⟩

/-- Launching a pass on a stored version and running it to its end. -/
theorem run_pass (deployment : Deployment)
    (serves : server.Serves service)
    {pool : OperatorPool} {key : ObjectKey} {object : ExperimentObject}
    (experiment : ChaosExperiment) (seen : pool.state.seen key object)
    (current : pool.state.Current) (decoded : object.snapshot key = some experiment) :
    ∃ pool', ReflTransGen (Pool.Moves (overlapping deployment service)) pool pool' ∧
      pool'.state.cluster = clusterAfter deployment server experiment pool.state.cluster ∧
      pool.state.Later pool'.state ∧ pool'.state.Current := by
  have reaches := Program.reaches_exec (server experiment) (deployment.pass experiment)
    pool.state.cluster
  obtain ⟨watched', reaches', final, later, current'⟩ :=
    reaches_watched deployment serves reaches rfl current
  have run := Pool.run_thread reaches' [] pool.threads []
  have launched : Pool.Moves (overlapping deployment service) pool
      ⟨pool.state, ⟨experiment, [], deployment.pass experiment⟩ :: pool.threads⟩ :=
    ⟨_, .launch ⟨key, object, seen, decoded, rfl⟩⟩
  exact ⟨_, .head launched run, final, later, current'⟩

/-- Launching a pass on a stored version, and the step of one of its calls that makes a
difference. -/
theorem step_pass (deployment : Deployment) (serves : server.Serves service)
    {pool : OperatorPool} {key : ObjectKey} {object : ExperimentObject}
    (experiment : ChaosExperiment) (seen : pool.state.seen key object)
    (current : pool.state.Current) (decoded : object.snapshot key = some experiment) (count : Nat)
    (moves : Program.execFor (server experiment) (count + 1) (deployment.pass experiment)
        pool.state.cluster ≠
      Program.execFor (server experiment) count (deployment.pass experiment)
        pool.state.cluster) :
    ∃ (before after : OperatorPool) (request : ApiCall),
      ReflTransGen (Pool.Moves (overlapping deployment service)) pool before ∧
      Pool.Step (overlapping deployment service) (.call experiment request) before after ∧
      before.state.cluster = Program.execFor (server experiment) count
        (deployment.pass experiment) pool.state.cluster ∧
      after.state.cluster = Program.execFor (server experiment) (count + 1)
        (deployment.pass experiment) pool.state.cluster := by
  obtain ⟨request, next, rest, called⟩ := Program.call_of_execFor_ne moves
  have reaches := Program.reaches_execFor (server experiment) count (deployment.pass experiment)
    pool.state.cluster
  obtain ⟨watched, reaches', same, -, -⟩ := reaches_watched deployment serves reaches rfl current
  have launched : Pool.Moves (overlapping deployment service) pool
      ⟨pool.state, ⟨experiment, [], deployment.pass experiment⟩ :: pool.threads⟩ :=
    ⟨_, .launch ⟨key, object, seen, decoded, rfl⟩⟩
  have run := Pool.run_thread reaches' [] pool.threads []
  rw [rest] at run
  have served := serves experiment request watched.cluster
  rw [same, ← called] at served
  rw [← same] at served
  exact ⟨_, _, request, .head launched run, .call ⟨_, served, rfl⟩, same, rfl⟩

/-- What every call made for a snapshot keeps, wherever a run may be, a whole pass for that
snapshot keeps. -/
theorem pass_keeps (deployment : Deployment)
    (serves : server.Serves service)
    {initial : Cluster} {pool : OperatorPool} {key : ObjectKey} {object : ExperimentObject}
    (experiment : ChaosExperiment) (seen : pool.state.seen key object)
    (current : pool.state.Current) (decoded : object.snapshot key = some experiment)
    (reachable : Reachable deployment service initial pool) {Kept : Cluster → Prop}
    (kept : ∀ before after request, Reachable deployment service initial before →
      Pool.Step (overlapping deployment service) (.call experiment request) before after →
      Kept before.state.cluster → Kept after.state.cluster)
    (start : Kept pool.state.cluster) :
    Kept (clusterAfter deployment server experiment pool.state.cluster) := by
  have reaches := Program.reaches_exec (server experiment) (deployment.pass experiment)
    pool.state.cluster
  obtain ⟨watched', reaches', final, -, -⟩ :=
    reaches_watched deployment serves reaches rfl current
  have launched : Pool.Moves (overlapping deployment service) pool
      ⟨pool.state, ⟨experiment, [], deployment.pass experiment⟩ :: pool.threads⟩ :=
    ⟨_, .launch ⟨key, object, seen, decoded, rfl⟩⟩
  let KeptWatched (watched : Watched) : Prop := Kept watched.cluster
  have stays : KeptWatched watched' :=
    Pool.thread_keeps kept reaches' [] pool.threads [] (reachable.tail launched) start
  rw [clusterAfter, ← final]
  exact stays

/-- Running a whole pass on the experiment as it is stored. -/
theorem run_storedPass (deployment : Deployment)
    (serves : server.Serves service)
    (key : ObjectKey) {pool : OperatorPool} (current : pool.state.Current) :
    ∃ pool', ReflTransGen (Pool.Moves (overlapping deployment service)) pool pool' ∧
      pool'.state.cluster = runPass deployment server key pool.state.cluster ∧
      pool.state.Later pool'.state ∧ pool'.state.Current := by
  unfold runPass
  cases decoded : (pool.state.cluster.experiments.lookup key).bind fun object =>
      object.snapshot key with
  | none => exact ⟨pool, .refl, rfl, fun _ _ seen => seen, current⟩
  | some experiment =>
    obtain ⟨object, stored, snapshot⟩ := Option.bind_eq_some_iff.mp decoded
    exact run_pass deployment serves experiment (current key object stored) current snapshot

/-- The step of one call of a pass on the experiment as it is stored. -/
theorem step_storedPass (deployment : Deployment) (serves : server.Serves service)
    (key : ObjectKey) {pool : OperatorPool} (current : pool.state.Current) (count : Nat)
    (moves : cutPass deployment server key (count + 1) pool.state.cluster ≠
      cutPass deployment server key count pool.state.cluster) :
    ∃ (experiment : ChaosExperiment) (before after : OperatorPool) (request : ApiCall),
      actorOf experiment = key ∧
      ReflTransGen (Pool.Moves (overlapping deployment service)) pool before ∧
      Pool.Step (overlapping deployment service) (.call experiment request) before after ∧
      before.state.cluster = cutPass deployment server key count pool.state.cluster ∧
      after.state.cluster = cutPass deployment server key (count + 1) pool.state.cluster := by
  unfold cutPass at moves ⊢
  cases decoded : (pool.state.cluster.experiments.lookup key).bind fun object =>
      object.snapshot key with
  | none =>
    rw [decoded] at moves
    exact absurd rfl moves
  | some experiment =>
    rw [decoded] at moves
    obtain ⟨object, stored, snapshot⟩ := Option.bind_eq_some_iff.mp decoded
    obtain ⟨before, after, request, steps⟩ :=
      step_pass deployment serves experiment (current key object stored) current snapshot count
        moves
    exact ⟨experiment, before, after, request, (isSnapshot_of_snapshot snapshot).actorOf_eq, steps⟩

/-- Running whole passes one after the other, each on an experiment as it is stored. -/
theorem run_storedPasses (deployment : Deployment) {passes : List (Server × ObjectKey)}
    (serves : ∀ entry ∈ passes, entry.1.Serves service) {pool : OperatorPool}
    (current : pool.state.Current) :
    ∃ pool', ReflTransGen (Pool.Moves (overlapping deployment service)) pool pool' ∧
      pool'.state.cluster = passes.foldl (fun cluster entry =>
        runPass deployment entry.1 entry.2 cluster) pool.state.cluster ∧
      pool.state.Later pool'.state ∧ pool'.state.Current := by
  induction passes generalizing pool with
  | nil => exact ⟨pool, .refl, rfl, fun _ _ seen => seen, current⟩
  | cons entry rest inductionHypothesis =>
    obtain ⟨middle, first, state, later, current'⟩ :=
      run_storedPass deployment (serves entry List.mem_cons_self) entry.2 current
    obtain ⟨final, others, state', later', current''⟩ :=
      inductionHypothesis (fun other member => serves other (List.mem_cons_of_mem _ member))
        current'
    refine ⟨final, first.trans others, ?_,
      fun key object seen => later' key object (later key object seen), current''⟩
    rw [state', state, List.foldl_cons]

end Script

end ChimpChaos
