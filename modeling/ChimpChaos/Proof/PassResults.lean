/-
This file says how a pass of the experiment reconciler can end.

A pass on an experiment that is not pending ends in one of few ways: a call was refused in a way
that matters, a write was accepted, the duration has not elapsed, or there was nothing to do. What
the result says about coming back is read off the same cases.
-/

import ChimpChaos.Proof.OwnJobs

namespace ChimpChaos

open Library Program

/-! ### Refusals that matter -/

def isError {Error Value : Type} : Except Error Value → Bool
  | .ok _ => false
  | .error _ => true

/-- Does an answer keep a pass from doing its work? A Job that cannot be deleted is passed over,
and a VirtualService that is not there needs no deletion. -/
def hampers : (request : ApiCall) → Answer request → Bool
  | .createJob .., answer => isError answer
  | .listJobs .., answer => isError answer
  | .deleteJob .., _ => false
  | .listTargetNodes .., answer => isError answer
  | .getServiceSelector .., answer => isError answer
  | .createVirtualService .., answer => isError answer
  | .listVirtualServicesForHost .., answer => isError answer
  | .deleteVirtualService .., answer =>
    match answer with
    | .ok _ => false
    | .error error => !isNotFound error
  | .patchExperimentStatus .., answer => isError answer
  | .addFinalizer .., answer => isError answer
  | .removeFinalizer .., answer => isError answer
  | .resolveEdge .., answer => isError answer
  | .now, _ => false
  | .newExperimentId, _ => false

/-- Some call was refused in a way that matters. -/
def disturbed (history : History) : Bool :=
  history.any fun exchange => hampers exchange.1 exchange.2

theorem disturbed_cons {request : ApiCall} {answer : Answer request} {history : History}
    (refused : hampers request answer = true) :
    disturbed (⟨request, answer⟩ :: history) = true := by
  rw [disturbed, List.any_cons, refused, Bool.true_or]

/-! ### How a pass ends -/

/-- How a pass ends, with what has happened before. -/
inductive Ending (crates : Crates) (experiment : ChaosExperiment) (history : History) :
    Except OperatorError ReconcileResult → Prop
  | refused (error : OperatorError) (refused : disturbed history = true) :
      Ending crates experiment history (.error error)
  | marked (missing : needsFinalizer experiment = true) (ns name : String)
      (accepted : ⟨.addFinalizer ns name, .ok ()⟩ ∈ history) :
      Ending crates experiment history (.ok (.requeue 0))
  | released (deleting : Deleting experiment) (ns name : String)
      (accepted : ⟨.removeFinalizer ns name, .ok ()⟩ ∈ history) :
      Ending crates experiment history (.ok .done)
  | pending (pending : Pending experiment) : Ending crates experiment history (.ok (.requeue 5))
  | pendingFails (pending : Pending experiment) (error : OperatorError) :
      Ending crates experiment history (.error error)
  | written (active : Active experiment) (ns name : String) (status : ChaosExperimentStatus)
      (accepted : ⟨.patchExperimentStatus ns name status, .ok ()⟩ ∈ history) :
      Ending crates experiment history (.ok (.requeue 5))
  | notDue (active : Active experiment) (running : (statusOf experiment).phase = .running)
      (early : ∀ start, startOf crates experiment = some start → ∃ time,
        ⟨.now, time⟩ ∈ history ∧ durationTest experiment.spec.duration start time = false) :
      Ending crates experiment history (.ok (.requeue 5))
  | unclean (active : Active experiment) (refused : disturbed history = true) :
      Ending crates experiment history (.ok (.requeue 5))
  | clean (active : Active experiment) (terminal : (statusOf experiment).phase.isTerminal = true)
      (clean : (statusOf experiment).cleanupDone = true) :
      Ending crates experiment history (.ok .done)

/-- A program against every answer, as far as its end is concerned. -/
abbrev Closes {Value : Type} (finish : History → Except OperatorError Value → Prop)
    (program : Handler Value) (history : History) : Prop :=
  program.Follows (fun _ _ => True) finish history

theorem closes_anything {Value : Type} {program : Handler Value} {history : History} :
    Closes (fun _ _ => True) program history := by
  induction program generalizing history with
  | done | fail | panic => trivial
  | call request next inductionHypothesis =>
    exact ⟨trivial, fun answer => inductionHypothesis answer⟩

/-- A handler fails only when a call was refused. -/
def Undisturbed {Value : Type} (history : History) (result : Except OperatorError Value) : Prop :=
  ∀ error, result = .error error → disturbed history = true

section Ends

variable {deployment : Deployment} {experiment : ChaosExperiment} {history : History}

/-- What a handler leaves for the pass to return. -/
def Ends (crates : Crates) (experiment : ChaosExperiment) (value : ReconcileResult)
    (history : History) : Except OperatorError Unit → Prop
  | .ok _ => Ending crates experiment history (.ok value)
  | .error error => Ending crates experiment history (.error error)

/-- The pass returns after a handler. -/
theorem returns_ending {handler : Handler Unit} {value : ReconcileResult}
    (ends : Closes (Ends deployment.crates experiment value) handler history) :
    Closes (Ending deployment.crates experiment) (handler >>= fun _ => .done value) history :=
  ends.bind (fun _ _ known => known) fun _ _ known => known

theorem patchStatus_ending (active : Active experiment) (status : ChaosExperimentStatus) :
    Closes (Ends deployment.crates experiment (.requeue 5))
      (patchStatus (expNamespace experiment) (expName experiment) status) history := by
  refine ⟨trivial, fun answer => ?_⟩
  cases answer with
  | error error => exact .refused error (disturbed_cons rfl)
  | ok value => exact .written active _ _ status List.mem_cons_self

theorem complete_ending (active : Active experiment) (phase : Phase) (message : String) :
    Closes (Ends deployment.crates experiment (.requeue 5))
      (complete deployment.crates (expNamespace experiment) (expName experiment)
        (statusOf experiment) phase message) history :=
  ⟨trivial, fun _ => patchStatus_ending active _⟩

theorem completeIfElapsed_ending (active : Active experiment)
    (running : (statusOf experiment).phase = .running) (message : String) :
    Closes (Ends deployment.crates experiment (.requeue 5))
      (completeIfElapsed deployment.crates (expNamespace experiment) (expName experiment)
        (statusOf experiment) experiment.spec.duration message) history := by
  unfold completeIfElapsed
  cases started : (statusOf experiment).startedAt with
  | none =>
    refine .notDue active running fun start known => ?_
    rw [startOf, started] at known
    cases known
  | some startedAt =>
    unfold isDurationElapsed
    dsimp only
    cases parsed : deployment.crates.parseFromRfc3339 startedAt with
    | none =>
      refine .notDue active running fun start known => ?_
      rw [startOf, started, Option.bind_some, parsed] at known
      cases known
    | some start =>
      refine ⟨trivial, fun time => ?_⟩
      change Closes (Ends deployment.crates experiment (.requeue 5))
        (if durationTest experiment.spec.duration start time = true then
          complete deployment.crates (expNamespace experiment) (expName experiment)
            (statusOf experiment) .succeeded message else .done ()) _
      cases tested : durationTest experiment.spec.duration start time with
      | true => exact complete_ending active _ _
      | false =>
        refine .notDue active running fun start' known => ⟨time, List.mem_cons_self, ?_⟩
        rw [startOf, started, Option.bind_some, parsed] at known
        obtain rfl := Option.some.inj known
        exact tested

theorem handleRunning_ending (active : Active experiment)
    (running : (statusOf experiment).phase = .running) :
    Closes (Ends deployment.crates experiment (.requeue 5))
      (handleRunning deployment.crates experiment) history := by
  unfold handleRunning
  cases experiment.spec.scenario.isEdgeChaos with
  | true => exact completeIfElapsed_ending active running _
  | false =>
    refine ⟨trivial, fun answer => ?_⟩
    cases answer with
    | error error => exact .refused error (disturbed_cons rfl)
    | ok jobs =>
      change Closes _ (if anyJobFailed jobs = true then _ else _) _
      split_ifs
      · exact complete_ending active _ _
      · exact complete_ending active _ _
      · exact completeIfElapsed_ending active running _

/-! ### Cleanup -/

theorem deleteOwned_closes (targetNs name : String) (services : List VirtualServiceInfo) :
    Closes Undisturbed (deleteOwned targetNs name services) history := by
  induction services generalizing history with
  | nil => exact fun error failed => nomatch failed
  | cons service rest inductionHypothesis =>
    rw [deleteOwned]
    by_cases owned : isOwnedBy name service.labels = true
    · rw [if_pos owned]
      refine ⟨trivial, fun answer => (tolerate_follows isNotFound answer).bind ?_ ?_⟩
      · rintro _ _ ⟨rfl, -⟩
        exact inductionHypothesis
      · rintro _ error ⟨rfl, rfl, unexpected⟩ - -
        exact disturbed_cons (by simp [hampers, unexpected])
    · rw [if_neg owned]
      exact inductionHypothesis

theorem cleanupVirtualServices_closes (targetNs name : String) :
    Closes Undisturbed (cleanupVirtualServices targetNs name) history := by
  refine ⟨trivial, fun answer => ?_⟩
  cases answer with
  | error error => exact fun _ _ => disturbed_cons rfl
  | ok services => exact deleteOwned_closes _ _ services

/-- A cleanup with its failure caught. -/
theorem attemptCleanup_closes {Value : Type} {targetNs name : String}
    {finish : History → Except OperatorError Value → Prop}
    {continuation : Except OperatorError Unit → Handler Value}
    (closes : ∀ later outcome, Undisturbed later outcome →
      Closes finish (continuation outcome) later) :
    Closes finish ((cleanupVirtualServices targetNs name).attempt >>= continuation) history := by
  have caught : Closes (fun later result => ∃ outcome, result = .ok outcome ∧
      Undisturbed later outcome) (cleanupVirtualServices targetNs name).attempt history :=
    (cleanupVirtualServices_closes targetNs name).attempt fun _ outcome known =>
      ⟨outcome, rfl, known⟩
  refine caught.bind ?_ ?_
  · rintro later outcome ⟨_, ⟨⟩, known⟩
    exact closes later outcome known
  · rintro _ error ⟨_, ⟨⟩, -⟩

/-- The deletion of Jobs goes on whatever it is answered. -/
theorem deleteJobs_closes {Value : Type} {finish : History → Except OperatorError Value → Prop}
    {continuation : Unit → Handler Value} (ns : String) (jobs : List String)
    (closes : ∀ later, Closes finish (continuation ()) later) :
    Closes finish (deleteJobs ns jobs >>= continuation) history := by
  induction jobs generalizing history with
  | nil => exact closes history
  | cons jobName rest inductionHypothesis => exact ⟨trivial, fun _ => inductionHypothesis⟩

theorem handleTerminal_ending (active : Active experiment)
    (unclean : (statusOf experiment).cleanupDone = false) :
    Closes (Ends deployment.crates experiment (.requeue 5)) (handleTerminal experiment)
      history := by
  unfold handleTerminal
  dsimp only
  rw [unclean, if_neg Bool.false_ne_true]
  refine deleteJobs_closes _ _ fun later => ?_
  cases experiment.spec.scenario.isEdgeChaos with
  | false => exact patchStatus_ending active _
  | true =>
    refine attemptCleanup_closes fun latest outcome known => ?_
    cases outcome with
    | error error => exact .unclean active (known error rfl)
    | ok value => exact patchStatus_ending active _

theorem handleDeletion_ending (deleting : Deleting experiment) :
    Closes (Ends deployment.crates experiment .done) (handleDeletion experiment) history := by
  have release (later : History) : Closes (Ends deployment.crates experiment .done)
      (call (.removeFinalizer (expNamespace experiment) (expName experiment)) >>=
        Program.ofExcept) later := by
    refine ⟨trivial, fun answer => ?_⟩
    cases answer with
    | error error => exact .refused error (disturbed_cons rfl)
    | ok value => exact .released deleting _ _ List.mem_cons_self
  unfold handleDeletion
  refine deleteJobs_closes _ _ fun later => ?_
  cases experiment.spec.scenario.isEdgeChaos with
  | false => exact release later
  | true => exact attemptCleanup_closes fun latest _ _ => release latest

end Ends

/-! ### The pass -/

variable (deployment : Deployment) (experiment : ChaosExperiment) in
/-- How every pass ends. -/
theorem pass_ending :
    Closes (Ending deployment.crates experiment) (deployment.pass experiment) [] := by
  unfold Deployment.pass reconcile
  cases missing : needsFinalizer experiment with
  | true =>
    refine ⟨trivial, fun answer => ?_⟩
    cases answer with
    | error error => exact .refused error (disturbed_cons rfl)
    | ok value => exact .marked missing _ _ List.mem_cons_self
  | false =>
    cases deleted : isBeingDeleted experiment with
    | true => exact returns_ending (handleDeletion_ending ⟨missing, deleted⟩)
    | false =>
      have active : Active experiment := ⟨missing, deleted⟩
      dsimp only
      rw [if_neg Bool.false_ne_true, if_neg Bool.false_ne_true]
      cases phase : (statusOf experiment).phase with
      | pending =>
        have anything : Closes (fun _ _ => True) (handlePending deployment.crates
            deployment.edgeResolver deployment.config experiment) [] := closes_anything
        refine anything.bind (fun later _ _ => ?_) fun later error _ => ?_
        · exact Ending.pending ⟨active, phase⟩
        · exact Ending.pendingFails ⟨active, phase⟩ error
      | running => exact returns_ending (handleRunning_ending active phase)
      | succeeded | failed =>
        have terminal : (statusOf experiment).phase.isTerminal = true := by rw [phase]; rfl
        cases clean : (statusOf experiment).cleanupDone with
        | true =>
          simp only [handleTerminal, clean, if_pos, pure_eq, done_bind]
          exact Ending.clean active terminal clean
        | false =>
          rw [if_neg Bool.false_ne_true]
          exact returns_ending (handleTerminal_ending active clean)

end ChimpChaos
