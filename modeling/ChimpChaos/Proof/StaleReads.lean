/-
This file says how far an experiment can fall back when passes work on old versions of it.

A status write carries no resource version, so the write of a pass lands on whatever is stored
by then. Each kind of write only follows from one phase of the snapshot: a write of `Running`
from a pending one, a write without the mark of cleanup from a pending or a running one. These
are the only writes that take back an end.
-/

import ChimpChaos.Cluster.Overlap
import ChimpChaos.Library.Crash
import ChimpChaos.Proof.Lifecycle

namespace ChimpChaos

open Library Program Relation

/-- The event is a status write by a pass on a version of the experiment in a given phase. -/
def IsWriteFrom (key : ObjectKey) (phases : List Phase) (event : Event ChaosExperiment ApiCall) :
    Prop :=
  ∃ experiment status,
    event = .call experiment (.patchExperimentStatus key.1 key.2 status) ∧
      actorOf experiment = key ∧ (statusOf experiment).phase ∈ phases

/-- What a step takes back of a stored status, with the writes that are to blame. -/
structure FallsBackBy (key : ObjectKey) (event : Event ChaosExperiment ApiCall)
    (before after : ChaosExperimentStatus) : Prop where
  pending : before.phase ≠ .pending → after.phase ≠ .pending
  terminal : before.phase.isTerminal = true → after.phase.isTerminal = true ∨
    IsWriteFrom key [.pending] event
  clean : before.cleanupDone = true → after.cleanupDone = true ∨
    IsWriteFrom key [.pending, .running] event

section StaleReads

variable {deployment : Deployment} {service : Service} {key : ObjectKey}
  {experiment : ChaosExperiment} {history : History}

theorem fallsBackBy_refl (event : Event ChaosExperiment ApiCall) (status : ChaosExperimentStatus) :
    FallsBackBy key event status status :=
  ⟨fun started => started, Or.inl, Or.inl⟩

/-- The write of a pass takes back no more than its snapshot allows. -/
theorem fallsBackBy_write (actor : actorOf experiment = key)
    {written : ChaosExperimentStatus} (writes : deployment.Writes experiment history written)
    (before : ChaosExperimentStatus) :
    FallsBackBy key (.call experiment (.patchExperimentStatus key.1 key.2 written)) before
      (before.merge written) := by
  have blame (phases : List Phase) (member : (statusOf experiment).phase ∈ phases) :
      IsWriteFrom key phases (.call experiment (.patchExperimentStatus key.1 key.2 written)) :=
    ⟨experiment, written, rfl, actor, member⟩
  cases writes with
  | failed pending message reason =>
    exact ⟨nofun, fun _ => Or.inl rfl, fun _ => Or.inr (blame _ (by simp [pending.2]))⟩
  | runningPod starting pod id identified nodes jobNames listed nonempty created time read =>
    exact ⟨nofun, fun _ => Or.inr (blame _ (by simp [starting.1.2])),
      fun _ => Or.inr (blame _ (by simp [starting.1.2]))⟩
  | runningEdge starting edgeChaos id identified edge sourceLabels checked document built answer
      requested created time read =>
    exact ⟨nofun, fun _ => Or.inr (blame _ (by simp [starting.1.2])),
      fun _ => Or.inr (blame _ (by simp [starting.1.2]))⟩
  | completed active running phase terminal message time read =>
    refine ⟨fun _ pending => ?_, fun _ => Or.inl terminal,
      fun _ => Or.inr (blame _ (by simp [running]))⟩
    change phase = .pending at pending
    rw [pending] at terminal
    cases terminal
  | cleaned active terminal unclean jobs services =>
    refine ⟨fun _ pending => ?_, fun _ => Or.inl terminal, fun _ => Or.inl rfl⟩
    change (statusOf experiment).phase = .pending at pending
    rw [pending] at terminal
    cases terminal

/-- Every pass makes its own calls, and nothing more is needed here. -/
def callsContract (deployment : Deployment) :
    Pool.Contract Watched ChaosExperiment ApiCall Answer where
  Global _ := True
  Local _ _ _ := True
  allowed := deployment.Issued
  Later _ _ := True

theorem calls_keeps (deployment : Deployment) (service : Service) :
    Pool.Keeps (overlapping deployment service) (callsContract deployment) where
  launch := fun state experiment program _ launches => by
    obtain ⟨-, rfl⟩ := worksOnVersion_of_launch launches
    exact ⟨trivial, deployment.pass_follows experiment⟩
  call := fun _ _ _ _ _ _ _ _ _ _ => ⟨trivial, trivial, trivial⟩
  outside := fun _ _ _ _ => ⟨trivial, trivial⟩
  stable := fun _ _ _ _ _ _ => trivial

/-- A step that leaves the status document as it is takes nothing back. -/
theorem fallsBackBy_of_same {event : Event ChaosExperiment ApiCall}
    {before after : Cluster} {status status' : ChaosExperimentStatus}
    (stored : storedStatus key before = some status)
    (stored' : storedStatus key after = some status')
    (same : ∀ object', after.experiments.lookup key = some object' →
      ∃ object, before.experiments.lookup key = some object ∧ object'.status = object.status) :
    FallsBackBy key event status status' := by
  obtain ⟨object', found', parsed'⟩ := storedStatus_eq_some.mp stored'
  obtain ⟨object, found, sameStatus⟩ := same object' found'
  obtain ⟨origin, foundOrigin, parsed⟩ := storedStatus_eq_some.mp stored
  rw [found] at foundOrigin
  obtain rfl := Option.some.inj foundOrigin
  rw [sameStatus, parsed] at parsed'
  obtain rfl := Option.some.inj parsed'
  exact fallsBackBy_refl event status

end StaleReads

/-- In every run with overlapping passes on old versions, a step takes back an end only by a
status write: the phase goes from an end to `Running` by the write of a pass on a pending
version, and the mark of cleanup is lost by the write of a pass on a pending or running one. No
step goes back to `Pending`. -/
theorem stale_write_falls_back (deployment : Deployment) (key : ObjectKey) (initial : Cluster)
    (pool pool' : OperatorPool) (reachable : Reachable deployment anyListings initial pool)
    (event : Event ChaosExperiment ApiCall)
    (step : Pool.Step (overlapping deployment anyListings) event pool pool')
    (before after : ChaosExperimentStatus)
    (stored : storedStatus key pool.state.cluster = some before)
    (stored' : storedStatus key pool'.state.cluster = some after) :
    FallsBackBy key event before after := by
  have start : Pool.Meets (callsContract deployment) (idlePool initial) :=
    ⟨trivial, fun _ member => nomatch member⟩
  have meets := start.run (calls_keeps deployment anyListings) reachable
  cases step with
  | launch launches =>
    exact fallsBackBy_of_same stored stored' fun object' found => ⟨object', found, rfl⟩
  | outside moved =>
    obtain ⟨cluster, outside, rfl⟩ := moved
    refine fallsBackBy_of_same stored stored' fun object' found => ?_
    obtain ⟨object, timestamp, storedObject, -, rfl⟩ := outside.drift.object key object' found
    exact ⟨object, storedObject, rfl⟩
  | @call state after' front back experiment history request next answer answered =>
    obtain ⟨-, issued, -⟩ := meets.caller
    obtain ⟨cluster, served, rfl⟩ := answered
    have advance := (anyListings_within _ _ _ _ _ served).advance
    obtain ⟨object', found', parsed'⟩ := storedStatus_eq_some.mp stored'
    obtain ⟨object, timestamp, found, -, rewrites⟩ := advance.object key object' found'
    have unchanged (same : object'.status = object.status) :
        FallsBackBy key (.call experiment request) before after := by
      refine fallsBackBy_of_same stored stored' fun other foundOther => ?_
      obtain rfl := Option.some.inj (found'.symm.trans foundOther)
      exact ⟨object, found, same⟩
    cases rewrites with
    | kept | marked | released => exact unchanged rfl
    | patched written =>
      have target := issued.issues.patched
      obtain ⟨origin, foundOrigin, parsed⟩ := storedStatus_eq_some.mp stored
      obtain rfl := Option.some.inj (found.symm.trans foundOrigin)
      have merged : some after = some (before.merge written) :=
        parsed'.symm.trans (ChaosExperimentStatus.parse_mergePatch _ _ _ parsed)
      obtain rfl := Option.some.inj merged
      exact fallsBackBy_write (Prod.ext target.1.symm target.2.symm) issued.issues.writes before

/-- The steps that lead from a fresh edge experiment to its clean success. -/
theorem sample_succeeds : ∃ pool, Reachable sampleDeployment anyListings
      (sampleCluster [(sampleKey, sampleEdge)]) pool ∧
    pool.state.cluster = runPasses sampleDeployment sampleKey
      (sampleCluster [(sampleKey, sampleEdge)])
      [sampleServer 0, sampleServer 10000000000, sampleServer 0] ∧
    pool.state.seen sampleKey sampleEdge ∧ pool.state.Current := by
  let idle := idlePool (sampleCluster [(sampleKey, sampleEdge)])
  have seen : idle.state.seen sampleKey sampleEdge := rfl
  have start : idle.state.Current := Watched.current_start _
  let passes := [(sampleServer 0, sampleKey), (sampleServer 10000000000, sampleKey),
    (sampleServer 0, sampleKey)]
  have serves : ∀ entry ∈ passes, entry.1.Serves anyListings := by
    intro entry member
    simp only [passes, List.mem_cons, List.not_mem_nil, or_false] at member
    rcases member with rfl | rfl | rfl <;> exact (sampleServer_serves _).any
  obtain ⟨pool, run, state, later, current⟩ := run_storedPasses sampleDeployment serves start
  exact ⟨pool, run, state, later _ _ seen, current⟩

/-- The cluster some calls into a pass on the fresh version, after the experiment has succeeded
and has been cleaned up. -/
def staleCluster (count : Nat) : Cluster :=
  execFor (sampleServer 0 (freshSnapshot sampleKey sampleEdge)) count
    (sampleDeployment.pass (freshSnapshot sampleKey sampleEdge))
    (runPasses sampleDeployment sampleKey (sampleCluster [(sampleKey, sampleEdge)])
      [sampleServer 0, sampleServer 10000000000, sampleServer 0])

/-- All calls of the pass but the last one leave the status alone. -/
theorem stored_staleCluster :
    (storedStatus sampleKey (staleCluster 4)).map (fun status =>
        (status.phase, status.cleanupDone)) = some (.succeeded, true) ∧
      (storedStatus sampleKey (staleCluster 5)).map (fun status =>
        (status.phase, status.cleanupDone)) = some (.running, false) := by
  constructor <;> decide +kernel

/-- The status write of the pass takes back the success and the mark of cleanup. -/
theorem stale_write_falls_back_sample : ∃ (event : Event ChaosExperiment ApiCall)
    (before after : ChaosExperimentStatus),
    (before.phase, before.cleanupDone) = (.succeeded, true) ∧
      (after.phase, after.cleanupDone) = (.running, false) ∧
      IsWriteFrom sampleKey [.pending] event ∧ FallsBackBy sampleKey event before after := by
  obtain ⟨earlier, run, state, seen, current⟩ := sample_succeeds
  obtain ⟨before, stored, ended⟩ := Option.map_eq_some_iff.mp stored_staleCluster.1
  obtain ⟨after, stored', restarted⟩ := Option.map_eq_some_iff.mp stored_staleCluster.2
  have moves : staleCluster 5 ≠ staleCluster 4 := by
    intro same
    rw [same, stored] at stored'
    obtain rfl := Option.some.inj stored'
    cases ended.symm.trans restarted
  unfold staleCluster at moves stored stored'
  rw [← state] at moves stored stored'
  obtain ⟨pool, pool', request, steps, step, found, left⟩ := step_pass sampleDeployment
    (sampleServer_serves 0).any (freshSnapshot sampleKey sampleEdge) seen current rfl 4 moves
  rw [← found] at stored
  rw [← left] at stored'
  have falls := stale_write_falls_back sampleDeployment sampleKey _ pool pool' (run.trans steps) _
    step before after stored stored'
  have terminal : before.phase.isTerminal = true := by rw [(Prod.mk.inj ended).1]; rfl
  refine ⟨_, before, after, ended, restarted, (falls.terminal terminal).resolve_left ?_, falls⟩
  rw [(Prod.mk.inj restarted).1]
  exact Bool.false_ne_true

/-- A pass on the fresh version, after the experiment has succeeded and has been cleaned up,
takes it back to `Running`. -/
theorem stale_write_restarts :
    ¬ ∀ (deployment : Deployment) (key : ObjectKey) (initial : Cluster)
      (object : ExperimentObject) (pool pool' : OperatorPool),
      initial.experiments.lookup key = some object → object.status = .null →
      Reachable deployment anyListings initial pool →
      ReflTransGen (Pool.Moves (overlapping deployment anyListings)) pool pool' →
      ∀ before after, storedStatus key pool.state.cluster = some before →
        storedStatus key pool'.state.cluster = some after →
        (before.phase.isTerminal = true → after.phase.isTerminal = true) ∧
          (before.cleanupDone = true → after.cleanupDone = true) := by
  intro claim
  obtain ⟨pool, reachable, state, seen, current⟩ := sample_succeeds
  obtain ⟨pool', run, state', -, -⟩ := run_pass sampleDeployment (sampleServer_serves 0).any
    (freshSnapshot sampleKey sampleEdge) seen current rfl
  rw [state] at state'
  have ended : (storedStatus sampleKey pool.state.cluster).map
      (fun status => (status.phase, status.cleanupDone)) = some (.succeeded, true) := by
    rw [state]
    decide +kernel
  have restarted : (storedStatus sampleKey pool'.state.cluster).map
      (fun status => (status.phase, status.cleanupDone)) = some (.running, false) := by
    rw [state']
    decide +kernel
  obtain ⟨before, stored, same⟩ := Option.map_eq_some_iff.mp ended
  obtain ⟨after, stored', same'⟩ := Option.map_eq_some_iff.mp restarted
  have kept := claim sampleDeployment sampleKey _ sampleEdge pool pool' rfl rfl reachable run
    before after stored stored'
  have terminal := kept.1 (by rw [(Prod.mk.inj same).1]; rfl)
  rw [(Prod.mk.inj same').1] at terminal
  cases terminal

end ChimpChaos
