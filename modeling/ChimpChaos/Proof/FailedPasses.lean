/-
This file proves that a pass which fails has left the stored experiments alone.

Every handler writes to its experiment with its last call, if at all, and what it returns then
is the answer to this call. So there is one status write at most, nothing comes after it, and
a pass that returns an error has either not come to its write or had it refused.
-/

import ChimpChaos.Cluster.Overlap
import ChimpChaos.Library.Failing

namespace ChimpChaos

open Library Program

/-- Does a call write to a stored experiment? -/
def ApiCall.writesExperiment : ApiCall → Bool
  | .patchExperimentStatus .. | .addFinalizer .. | .removeFinalizer .. => true
  | _ => false

theorem writesExperiment_of_isPatch {request : ApiCall} (patch : request.isPatch = true) :
    request.writesExperiment = true := by
  cases request with
  | patchExperimentStatus ns name status => rfl
  | _ => cases patch

/-! ### The parts of a pass that write nothing -/

section Quiet

variable (crates : Crates) (config : ReconcilerConfig) (experiment : ChaosExperiment)

theorem quiet_tolerate (expected : OperatorError → Bool) (answer : Except OperatorError Unit) :
    (tolerate expected answer).Quiet ApiCall.writesExperiment := by
  cases answer with
  | ok value => trivial
  | error error =>
    rw [tolerate]
    split_ifs <;> trivial

theorem quiet_deleteJobs (ns : String) (jobs : List String) :
    (deleteJobs ns jobs).Quiet ApiCall.writesExperiment := by
  induction jobs with
  | nil => trivial
  | cons job rest inductionHypothesis => exact quiet_call rfl fun _ => inductionHypothesis

theorem quiet_deleteOwned (targetNs experimentName : String)
    (services : List VirtualServiceInfo) :
    (deleteOwned targetNs experimentName services).Quiet ApiCall.writesExperiment := by
  induction services with
  | nil => trivial
  | cons vs rest inductionHypothesis =>
    rw [deleteOwned]
    split_ifs
    · exact quiet_call rfl fun answer => (quiet_tolerate _ answer).bind fun _ => inductionHypothesis
    · exact inductionHypothesis

theorem quiet_cleanupVirtualServices (targetNs experimentName : String) :
    (cleanupVirtualServices targetNs experimentName).Quiet ApiCall.writesExperiment :=
  quiet_call rfl fun answer =>
    (quiet_ofExcept answer).bind fun services => quiet_deleteOwned targetNs experimentName services

theorem quiet_createJobs (experimentId : String) (nodes : List String) :
    (createJobs crates config experiment experimentId nodes).Quiet ApiCall.writesExperiment := by
  induction nodes with
  | nil => trivial
  | cons node rest inductionHypothesis =>
    rw [createJobs]
    refine (quiet_ofOption _).bind fun job => quiet_call rfl fun answer => ?_
    exact (quiet_tolerate _ answer).bind fun _ => inductionHypothesis.bind fun _ => trivial

theorem quiet_nowRfc3339 : (nowRfc3339 crates).Quiet ApiCall.writesExperiment :=
  quiet_call rfl fun _ => trivial

theorem quiet_isDurationElapsed (startedAt : String) (durationSecs : UInt64) :
    (isDurationElapsed crates startedAt durationSecs).Quiet ApiCall.writesExperiment := by
  unfold isDurationElapsed
  cases crates.parseFromRfc3339 startedAt with
  | none => trivial
  | some start => exact quiet_call rfl fun _ => trivial

theorem quiet_experimentIdOf : (experimentIdOf experiment).Quiet ApiCall.writesExperiment := by
  unfold experimentIdOf
  split
  · trivial
  · trivial
  · exact quiet_call rfl fun _ => trivial

end Quiet

/-! ### The write of a pass -/

section CommitsLast

variable (crates : Crates) (edgeResolver : Bool) (config : ReconcilerConfig)
  (experiment : ChaosExperiment)

theorem commitsLast_patchStatus (ns name : String) (status : ChaosExperimentStatus) :
    (patchStatus ns name status).CommitsLast ApiCall.writesExperiment IsRefusal := by
  refine commitsLast_commit rfl fun answer => ?_
  cases answer with
  | ok value => trivial
  | error error => exact ⟨error, rfl⟩

theorem commitsLast_injectEdgeFault (edge : EdgeTarget) (experimentId : String)
    (sourceLabels : Labels) :
    (injectEdgeFault crates experiment edge experimentId sourceLabels).CommitsLast
      ApiCall.writesExperiment IsRefusal := by
  unfold injectEdgeFault
  cases buildFaultForScenario experiment.spec.scenario
      (experiment.spec.parameters.getD (.object [])) with
  | none => exact commitsLast_patchStatus _ _ _
  | some fault =>
    refine (quiet_ofOption _).commitsLast fun vsName => commitsLast_call rfl fun answer => ?_
    refine (quiet_tolerate _ answer).commitsLast fun _ => ?_
    exact (quiet_nowRfc3339 crates).commitsLast fun startedAt => commitsLast_patchStatus _ _ _

theorem commitsLast_checkEdge (edge : EdgeTarget) (experimentId : String)
    (sourceLabels : Labels) :
    (checkEdge crates edgeResolver experiment edge experimentId sourceLabels).CommitsLast
      ApiCall.writesExperiment IsRefusal := by
  unfold checkEdge
  split_ifs
  · refine commitsLast_call rfl fun answer => ?_
    cases answer with
    | error error => exact commitsLast_patchStatus _ _ _
    | ok info => exact commitsLast_injectEdgeFault _ _ _ _ _
  · exact commitsLast_injectEdgeFault _ _ _ _ _

theorem commitsLast_handlePendingEdge (experimentId : String) :
    (handlePendingEdge crates edgeResolver experiment experimentId).CommitsLast
      ApiCall.writesExperiment IsRefusal := by
  unfold handlePendingEdge
  cases experiment.spec.target.bind Target.edge with
  | none => trivial
  | some edge =>
    refine commitsLast_call rfl fun answer => ?_
    cases answer with
    | error error => exact commitsLast_patchStatus _ _ _
    | ok labels =>
      show CommitsLast _ _ (if labels.isEmpty then _ else _)
      split
      · exact commitsLast_patchStatus _ _ _
      · refine commitsLast_call rfl fun listing => (quiet_ofExcept listing).commitsLast
          fun services => ?_
        show CommitsLast _ _ (if _ then _ else _)
        split
        · exact commitsLast_patchStatus _ _ _
        · exact commitsLast_checkEdge _ _ _ _ _ _

theorem commitsLast_handlePendingPod (experimentId : String) :
    (handlePendingPod crates config experiment experimentId).CommitsLast
      ApiCall.writesExperiment IsRefusal := by
  refine commitsLast_call rfl fun answer => (quiet_ofExcept answer).commitsLast fun nodes => ?_
  show CommitsLast _ _ (if _ then _ else _)
  split
  · exact commitsLast_patchStatus _ _ _
  · refine (quiet_createJobs crates config experiment experimentId nodes).commitsLast
      fun jobNames => ?_
    exact (quiet_nowRfc3339 crates).commitsLast fun startedAt => commitsLast_patchStatus _ _ _

theorem commitsLast_handlePending :
    (handlePending crates edgeResolver config experiment).CommitsLast
      ApiCall.writesExperiment IsRefusal := by
  unfold handlePending
  cases validateExperiment experiment.spec with
  | error error => exact commitsLast_patchStatus _ _ _
  | ok value =>
    refine (quiet_experimentIdOf experiment).commitsLast fun id => ?_
    split_ifs
    · exact commitsLast_handlePendingEdge _ _ _ _
    · exact commitsLast_handlePendingPod _ _ _ _

theorem commitsLast_complete (ns name : String) (status : ChaosExperimentStatus) (phase : Phase)
    (message : String) :
    (complete crates ns name status phase message).CommitsLast ApiCall.writesExperiment
      IsRefusal :=
  (quiet_nowRfc3339 crates).commitsLast fun _ => commitsLast_patchStatus _ _ _

theorem commitsLast_completeIfElapsed (ns name : String) (status : ChaosExperimentStatus)
    (durationSecs : UInt64) (message : String) :
    (completeIfElapsed crates ns name status durationSecs message).CommitsLast
      ApiCall.writesExperiment IsRefusal := by
  unfold completeIfElapsed
  cases status.startedAt with
  | none => trivial
  | some startedAt =>
    refine (quiet_isDurationElapsed crates startedAt durationSecs).commitsLast fun elapsed => ?_
    split_ifs
    · exact commitsLast_complete _ _ _ _ _ _
    · trivial

theorem commitsLast_handleRunning :
    (handleRunning crates experiment).CommitsLast ApiCall.writesExperiment IsRefusal := by
  unfold handleRunning
  dsimp only
  split_ifs
  · exact commitsLast_completeIfElapsed _ _ _ _ _ _
  · refine commitsLast_call rfl fun answer => (quiet_ofExcept answer).commitsLast fun jobs => ?_
    split_ifs
    · exact commitsLast_complete _ _ _ _ _ _
    · exact commitsLast_complete _ _ _ _ _ _
    · exact commitsLast_completeIfElapsed _ _ _ _ _ _

theorem commitsLast_handleTerminal :
    (handleTerminal experiment).CommitsLast ApiCall.writesExperiment IsRefusal := by
  unfold handleTerminal
  by_cases clean : (statusOf experiment).cleanupDone = true
  · rw [if_pos clean]
    trivial
  · rw [if_neg clean]
    refine (quiet_deleteJobs _ _).commitsLast fun _ => ?_
    split_ifs
    · refine (quiet_cleanupVirtualServices _ _).attempt.commitsLast fun outcome => ?_
      cases outcome with
      | error error => trivial
      | ok value => exact commitsLast_patchStatus _ _ _
    · exact commitsLast_patchStatus _ _ _

theorem commitsLast_handleDeletion :
    (handleDeletion experiment).CommitsLast ApiCall.writesExperiment IsRefusal := by
  have release : (call (.removeFinalizer (expNamespace experiment) (expName experiment)) >>=
      Program.ofExcept : Handler Unit).CommitsLast ApiCall.writesExperiment IsRefusal := by
    refine commitsLast_commit rfl fun answer => ?_
    cases answer with
    | ok value => trivial
    | error error => exact ⟨error, rfl⟩
  unfold handleDeletion
  refine (quiet_deleteJobs _ _).commitsLast fun _ => ?_
  split_ifs
  · exact (quiet_cleanupVirtualServices _ _).attempt.commitsLast fun _ => release
  · exact release

/-- A pass writes to its experiment with its last call, and fails after it only when the write
was refused. -/
theorem reconcile_commitsLast :
    (reconcile crates edgeResolver config experiment).CommitsLast ApiCall.writesExperiment
      IsRefusal := by
  unfold reconcile
  by_cases missing : needsFinalizer experiment = true
  · rw [if_pos missing]
    refine commitsLast_commit rfl fun answer => ?_
    cases answer with
    | ok value => trivial
    | error error => exact ⟨error, rfl⟩
  · rw [if_neg missing]
    by_cases deleted : isBeingDeleted experiment = true
    · rw [if_pos deleted]
      exact (commitsLast_handleDeletion experiment).andReturn _
    · rw [if_neg deleted]
      dsimp only
      cases (statusOf experiment).phase with
      | pending => exact (commitsLast_handlePending _ _ _ _).andReturn _
      | running => exact (commitsLast_handleRunning _ _).andReturn _
      | succeeded | failed =>
        cases (statusOf experiment).cleanupDone <;>
          exact (commitsLast_handleTerminal experiment).andReturn _

end CommitsLast

/-! ### Runs of a pass -/

/-- A pass writes one status at most and calls nothing afterwards, and when it fails the stored
experiments are what they were. -/
structure LeavesStatus (before after : Cluster) (trace : History)
    (rest : Handler ReconcileResult) : Prop where
  onePatch : (trace.filter fun exchange => exchange.1.isPatch).length ≤ 1
  patchLast : ∀ earlier exchange later, trace = earlier ++ exchange :: later →
    exchange.1.isPatch = true → later = []
  unchanged : ∀ error, rest = .fail error → after.experiments = before.experiments

/-- A call that writes to no experiment leaves them as they are. -/
theorem effect_experiments {surroundings : Surroundings} {actor : ObjectKey} {cluster : Cluster}
    {request : ApiCall} (harmless : request.writesExperiment = false) :
    (effect surroundings actor cluster request).experiments = cluster.experiments := by
  cases request with
  | patchExperimentStatus ns name status => cases harmless
  | addFinalizer ns name => cases harmless
  | removeFinalizer ns name => cases harmless
  | _ => rfl

/-- When a failing call changes nothing, a pass that fails leaves the stored experiments alone. -/
theorem unchanged_of_failed {deployment : Deployment} {experiment : ChaosExperiment}
    {before after : Cluster} {trace : History} {rest : Handler ReconcileResult}
    (reaches : Reaches (RefusesOrWorks (actorOf experiment)) (deployment.pass experiment) before
      trace rest after) {error : OperatorError} (failed : rest = .fail error) :
    after.experiments = before.experiments := by
  have last : (deployment.pass experiment).CommitsLast ApiCall.writesExperiment IsRefusal :=
    reconcile_commitsLast _ _ _ _
  refine last.unchanged_of_fail Cluster.experiments reaches ?_ ?_ failed
  · rintro request first answer second (⟨-, rfl⟩ | ⟨-, surroundings, rfl⟩) harmless
    · rfl
    · exact effect_experiments harmless
  · rintro request first answer second (⟨-, rfl⟩ | ⟨works, -⟩) refused
    · rfl
    · exact absurd refused works

/-- However the calls of a pass succeed or fail, when a failing call changes nothing, one pass
writes one status at most, calls nothing after it, and has left the stored experiments alone when
it returns an error. -/
theorem failedPass_leavesStatus (deployment : Deployment) (experiment : ChaosExperiment)
    (before after : Cluster) (trace : History) (rest : Handler ReconcileResult)
    (reaches : Reaches (RefusesOrWorks (actorOf experiment)) (deployment.pass experiment) before
      trace rest after) : LeavesStatus before after trace rest := by
  have last : (deployment.pass experiment).CommitsLast ApiCall.writesExperiment IsRefusal :=
    reconcile_commitsLast _ _ _ _
  refine ⟨?_, ?_, fun _ failed => unchanged_of_failed reaches failed⟩
  · refine le_trans (List.Sublist.length_le ?_) (last.at_most_one reaches)
    exact List.monotone_filter_right trace fun exchange => writesExperiment_of_isPatch
  · intro earlier exchange later split patch
    exact last.nothing_after reaches split (writesExperiment_of_isPatch patch)

/-- The server that refuses to create Jobs. -/
def refuseJobs : ApiCall → Option OperatorError
  | .createJob .. => some (.kube (.api 500 "internal error"))
  | _ => none

/-- A pass on the sample pod experiment whose first Job is refused fails and leaves the
experiment pending. -/
theorem failedPass_leavesStatus_sample : ∃ after trace error,
    Reaches (RefusesOrWorks sampleKey)
      (sampleDeployment.pass (freshSnapshot sampleKey samplePod))
      (sampleCluster [(sampleKey, samplePod)]) trace (.fail error) after ∧
    LeavesStatus (sampleCluster [(sampleKey, samplePod)]) after trace (.fail error) := by
  have reaches := reaches_refusing refuseJobs sampleSurroundings sampleKey
    (sampleDeployment.pass (freshSnapshot sampleKey samplePod))
    (sampleCluster [(sampleKey, samplePod)])
  have failed : (exec (serveRefusing refuseJobs sampleSurroundings sampleKey)
      (sampleDeployment.pass (freshSnapshot sampleKey samplePod))
      (sampleCluster [(sampleKey, samplePod)])).1 =
        .failed (.kube (.api 500 "internal error")) := by decide +kernel
  rw [failed] at reaches
  exact ⟨_, _, _, reaches, failedPass_leavesStatus sampleDeployment
    (freshSnapshot sampleKey samplePod) _ _ _ _ reaches⟩

end ChimpChaos
