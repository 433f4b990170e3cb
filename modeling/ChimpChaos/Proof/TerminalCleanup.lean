/-
This file settles what a pass on a terminal experiment achieves that is not marked clean yet.

VirtualServices are cleaned up completely or the experiment is not marked: an error of the
listing, or of a deletion other than 404, ends the pass without a write, and the next pass
tries again. Only a deletion pass drops the failure and is not requeued. The deletions of Jobs are
not looked at: the experiment is marked whatever they are answered, so a Job whose deletion fails
is left behind for good.
-/

import ChimpChaos.Proof.CleanupGuarantee
import ChimpChaos.Proof.FailedPasses

namespace ChimpChaos

open Library Program

/-! ### How a terminal pass ends -/

/-- The snapshot is terminal and not marked clean. -/
structure Unclean (experiment : ChaosExperiment) : Prop where
  active : Active experiment
  terminal : (statusOf experiment).phase.isTerminal = true
  unmarked : (statusOf experiment).cleanupDone = false

/-- A call of the VirtualService cleanup failed: the listing, or a deletion with an error other
than 404. -/
def FailsCleanup : Exchange ApiCall Answer → Prop
  | ⟨.listVirtualServicesForHost _ _, .error _⟩ => True
  | ⟨.deleteVirtualService _ _, .error error⟩ => isNotFound error = false
  | _ => False

/-- No call of the VirtualService cleanup has failed. -/
def Smooth (history : History) : Prop := ∀ exchange ∈ history, ¬ FailsCleanup exchange

/-- The experiment has been marked clean, with nothing else about its status changed. -/
def MarkedClean (experiment : ChaosExperiment) (history : History) : Prop :=
  ∃ answer, ⟨.patchExperimentStatus (expNamespace experiment) (expName experiment)
    { statusOf experiment with cleanupDone := true }, answer⟩ ∈ history

section Ends

variable {experiment : ChaosExperiment} {history : History} {deployment : Deployment}

@[simp] theorem smooth_cons (exchange : Exchange ApiCall Answer) (history : History) :
    Smooth (exchange :: history) ↔ ¬ FailsCleanup exchange ∧ Smooth history := by
  simp [Smooth]

theorem pass_unclean (unclean : Unclean experiment) :
    deployment.pass experiment = handleTerminal experiment >>= fun _ =>
      .done (.requeue (requeueDuration .running)) := by
  obtain ⟨⟨kept, alive⟩, terminal, unmarked⟩ := unclean
  unfold Deployment.pass reconcile
  rw [kept, alive]
  cases phase : (statusOf experiment).phase with
  | succeeded | failed => simp [phase, unmarked]
  | pending | running =>
    rw [phase] at terminal
    cases terminal

theorem deleteJobs_smooth (ns : String) (jobs : List String) (smooth : Smooth history)
    (quiet : NoWrite history) :
    (deleteJobs ns jobs).Follows (fun _ _ => True)
      (fun later result => result = .ok () ∧ Smooth later ∧ NoWrite later) history := by
  induction jobs generalizing history with
  | nil => exact ⟨rfl, smooth, quiet⟩
  | cons job rest inductionHypothesis =>
    refine ⟨trivial, fun answer => inductionHypothesis ?_ ?_⟩
    · exact (smooth_cons _ _).mpr ⟨fun fails => fails, smooth⟩
    · exact (noWrite_cons _ _).mpr ⟨rfl, quiet⟩

theorem deleteOwned_smooth (targetNs experimentName : String) (services : List VirtualServiceInfo)
    (smooth : Smooth history) (quiet : NoWrite history) :
    (deleteOwned targetNs experimentName services).Follows (fun _ _ => True)
      (fun later result => NoWrite later ∧ match result with
        | .ok _ => Smooth later
        | .error _ => ¬ Smooth later) history := by
  induction services generalizing history with
  | nil => exact ⟨quiet, smooth⟩
  | cons vs rest inductionHypothesis =>
    rw [deleteOwned]
    split_ifs
    · refine ⟨trivial, fun answer => ?_⟩
      have quietNext : NoWrite (⟨.deleteVirtualService targetNs vs.name, answer⟩ :: history) :=
        (noWrite_cons _ _).mpr ⟨rfl, quiet⟩
      refine (tolerate_follows isNotFound answer).bind ?_ ?_
      · rintro _ _ ⟨rfl, accepted⟩
        refine inductionHypothesis ((smooth_cons _ _).mpr ⟨?_, smooth⟩) quietNext
        cases answer with
        | ok value => exact fun fails => fails
        | error error =>
          intro unexpected
          exact absurd ((accepted error rfl).symm.trans unexpected) (by decide)
      · rintro _ error ⟨rfl, rfl, unexpected⟩
        exact ⟨quietNext, fun smoothNext => ((smooth_cons _ _).mp smoothNext).1 unexpected⟩
    · exact inductionHypothesis smooth quiet

theorem cleanupVirtualServices_smooth (targetNs experimentName : String)
    (smooth : Smooth history) (quiet : NoWrite history) :
    (cleanupVirtualServices targetNs experimentName).Follows (fun _ _ => True)
      (fun later result => NoWrite later ∧ match result with
        | .ok _ => Smooth later
        | .error _ => ¬ Smooth later) history := by
  refine ⟨trivial, fun answer => ?_⟩
  have quietNext : NoWrite (⟨.listVirtualServicesForHost targetNs "", answer⟩ :: history) :=
    (noWrite_cons _ _).mpr ⟨rfl, quiet⟩
  cases answer with
  | error error => exact ⟨quietNext, fun smoothNext => ((smooth_cons _ _).mp smoothNext).1 trivial⟩
  | ok services =>
    exact deleteOwned_smooth targetNs experimentName services
      ((smooth_cons _ _).mpr ⟨fun fails => fails, smooth⟩) quietNext

/-- The cleanup with its failure caught. -/
theorem attemptCleanup_smooth (targetNs experimentName : String)
    (smooth : Smooth history) (quiet : NoWrite history) :
    (cleanupVirtualServices targetNs experimentName).attempt.Follows (fun _ _ => True)
      (fun later result => ∃ outcome, result = .ok outcome ∧ NoWrite later ∧ match outcome with
        | .ok _ => Smooth later
        | .error _ => ¬ Smooth later) history :=
  (cleanupVirtualServices_smooth targetNs experimentName smooth quiet).attempt
    fun _ outcome known => ⟨outcome, rfl, known⟩

theorem markCleaned_smooth (smooth : Smooth history) :
    (markCleaned experiment).Follows (fun _ _ => True)
      (fun later _ => Smooth later ∧ MarkedClean experiment later) history := by
  refine ⟨trivial, fun answer => ?_⟩
  have marked : MarkedClean experiment (⟨.patchExperimentStatus (expNamespace experiment)
      (expName experiment) { statusOf experiment with cleanupDone := true }, answer⟩ :: history) :=
    ⟨answer, List.mem_cons_self⟩
  cases answer <;> exact ⟨(smooth_cons _ _).mpr ⟨fun fails => fails, smooth⟩, marked⟩

/-- The ends of the handler: marked after a smooth cleanup, or not written to after a failed
one. -/
theorem handleTerminal_ends (unmarked : (statusOf experiment).cleanupDone = false) :
    (handleTerminal experiment).Follows (fun _ _ => True) (fun later result =>
      Smooth later ∧ MarkedClean experiment later ∨
        ¬ Smooth later ∧ NoWrite later ∧ result = .ok ()) [] := by
  have smooth : Smooth [] := fun _ member => absurd member List.not_mem_nil
  unfold handleTerminal
  rw [if_neg (by rw [unmarked]; exact Bool.false_ne_true)]
  refine (deleteJobs_smooth _ _ smooth noWrite_nil).bind ?_ ?_
  · rintro later _ ⟨-, smoothLater, quietLater⟩
    by_cases edgeChaos : experiment.spec.scenario.isEdgeChaos = true
    · rw [if_pos edgeChaos]
      refine (attemptCleanup_smooth _ _ smoothLater quietLater).bind ?_ ?_
      · rintro latest outcome ⟨_, ⟨⟩, quietLatest, known⟩
        cases outcome with
        | error error => exact Or.inr ⟨known, quietLatest, rfl⟩
        | ok value => exact (markCleaned_smooth known).weaken fun _ _ marked => Or.inl marked
      · rintro _ error ⟨outcome, ⟨⟩, -⟩
    · rw [if_neg edgeChaos]
      exact (markCleaned_smooth smoothLater).weaken fun _ _ marked => Or.inl marked
  · rintro _ error ⟨⟨⟩, -⟩

/-- The ends of a terminal pass. After a failed cleanup the experiment is requeued. -/
theorem pass_ends (unclean : Unclean experiment) :
    (deployment.pass experiment).Follows (fun _ _ => True) (fun later result =>
      Smooth later ∧ MarkedClean experiment later ∨
        ¬ Smooth later ∧ NoWrite later ∧ result = .ok (.requeue (requeueDuration .running)))
      [] := by
  rw [pass_unclean unclean]
  refine (handleTerminal_ends unclean.unmarked).bind ?_ ?_
  · rintro later _ (marked | ⟨failed, quiet, -⟩)
    · exact Or.inl marked
    · exact Or.inr ⟨failed, quiet, rfl⟩
  · rintro later _ (marked | ⟨-, -, ⟨⟩⟩)
    exact Or.inl marked

/-! ### A terminal pass comes to an end -/

theorem steady_deleteJobs (ns : String) (jobs : List String) : (deleteJobs ns jobs).Steady := by
  induction jobs with
  | nil => trivial
  | cons job rest inductionHypothesis => exact steady_call fun _ => inductionHypothesis

theorem steady_deleteOwned (targetNs experimentName : String)
    (services : List VirtualServiceInfo) :
    (deleteOwned targetNs experimentName services).Steady := by
  induction services with
  | nil => trivial
  | cons vs rest inductionHypothesis =>
    have tolerated (answer : Except OperatorError Unit) :
        (tolerate isNotFound answer).Steady := by
      cases answer with
      | ok value => trivial
      | error error =>
        rw [tolerate]
        split_ifs <;> trivial
    rw [deleteOwned]
    split_ifs
    · exact steady_call fun answer => (tolerated answer).bind fun _ => inductionHypothesis
    · exact inductionHypothesis

theorem steady_pass (unclean : Unclean experiment) : (deployment.pass experiment).Steady := by
  have marks : (markCleaned experiment).Steady := steady_call fun answer => steady_ofExcept answer
  have cleans : (cleanupVirtualServices (targetNamespace experiment) (expName experiment)).Steady :=
    steady_call fun answer => (steady_ofExcept answer).bind fun _ => steady_deleteOwned _ _ _
  rw [pass_unclean unclean]
  refine Steady.bind ?_ fun _ => trivial
  unfold handleTerminal
  rw [if_neg (by rw [unclean.unmarked]; exact Bool.false_ne_true)]
  refine (steady_deleteJobs _ _).bind fun _ => ?_
  split_ifs
  · refine cleans.attempt.bind fun outcome => ?_
    cases outcome with
    | error error => trivial
    | ok value => exact marks
  · exact marks

/-- A terminal pass that is run to its end has marked the experiment after a smooth cleanup, or
has written nothing after a failed one and is requeued. -/
theorem unclean_closes {State : Type}
    {step : (request : ApiCall) → State → Answer request → State → Prop} {state final : State}
    {trace : History} {rest : Handler ReconcileResult} (unclean : Unclean experiment)
    (reaches : Reaches step (deployment.pass experiment) state trace rest final)
    (ended : rest.Ended) :
    Smooth trace ∧ MarkedClean experiment trace ∨
      ¬ Smooth trace ∧ NoWrite trace ∧ rest = .done (.requeue (requeueDuration .running)) := by
  obtain ⟨result, rfl, closed⟩ := (steady_pass unclean).closes (pass_ends unclean) reaches ended
  simp only [List.append_nil, Smooth, NoWrite, MarkedClean, List.mem_reverse] at closed
  rcases closed with marked | ⟨failed, quiet, rfl⟩
  · exact Or.inl marked
  · exact Or.inr ⟨failed, quiet, rfl⟩

end Ends

/-! ### VirtualServices -/

/-- What a terminal pass has learnt about VirtualServices: listings show all that are there and
nothing else, what was deleted is gone, and what is not the experiment's has been spared. -/
structure ServicesKnown (experiment : ChaosExperiment) (before : Cluster) (history : History)
    (cluster : Cluster) : Prop where
  remaining : ∀ place tracked, cluster.virtualServices.lookup place = some tracked →
    before.virtualServices.lookup place = some tracked
  shown : ∀ ns host services, ⟨.listVirtualServicesForHost ns host, .ok services⟩ ∈ history →
    ∀ place tracked, cluster.virtualServices.lookup place = some tracked → place.1 = ns →
      virtualServiceInfo place.2 tracked.value ∈ services
  genuine : ∀ ns host services, ⟨.listVirtualServicesForHost ns host, .ok services⟩ ∈ history →
    ∀ vs ∈ services, ∃ tracked, before.virtualServices.lookup (ns, vs.name) = some tracked ∧
      vs.labels = documentLabels tracked.value
  gone : ∀ ns name answer, ⟨.deleteVirtualService ns name, answer⟩ ∈ history → Gone answer →
    cluster.virtualServices.lookup (ns, name) = none
  spared : ∀ place tracked, before.virtualServices.lookup place = some tracked →
    isOwnedBy (expName experiment) (documentLabels tracked.value) = false →
    cluster.virtualServices.lookup place = some tracked

/-- What the cleanup of a terminal edge experiment promises for a pass that is run to its end.
An experiment that is being deleted has its own path, which does not requeue. -/
structure CleansOrRetries (experiment : ChaosExperiment) (before after : Cluster)
    (trace : History) (rest : Handler ReconcileResult) : Prop where
  complete : ∀ ns name status answer, ⟨.patchExperimentStatus ns name status, answer⟩ ∈ trace →
    status.cleanupDone = true → ∀ place tracked,
      after.virtualServices.lookup place = some tracked →
      place.1 = targetNamespace experiment →
      isOwnedBy (expName experiment) (documentLabels tracked.value) = false
  retried : (∃ exchange ∈ trace, FailsCleanup exchange) →
    (∀ exchange ∈ trace, exchange.1.isPatch = false) ∧
      (isBeingDeleted experiment = false → rest = .done (.requeue requeueRunningSecs))
  spared : ∀ place tracked, before.virtualServices.lookup place = some tracked →
    isOwnedBy (expName experiment) (documentLabels tracked.value) = false →
    after.virtualServices.lookup place = some tracked
  onlyMark : ∀ ns name status answer, ⟨.patchExperimentStatus ns name status, answer⟩ ∈ trace →
    ns = expNamespace experiment ∧ name = expName experiment ∧
      status = { statusOf experiment with cleanupDone := true }

section Services

variable {deployment : Deployment} {experiment : ChaosExperiment} {history : History}
  {before first second : Cluster} {request : ApiCall} {answer : Answer request}

theorem servicesKnown_start : ServicesKnown experiment before [] before where
  remaining := fun _ _ found => found
  shown := fun _ _ _ member => absurd member List.not_mem_nil
  genuine := fun _ _ _ member => absurd member List.not_mem_nil
  gone := fun _ _ _ member => absurd member List.not_mem_nil
  spared := fun _ _ found _ => found

/-- One call of a terminal pass. -/
theorem ServicesKnown.call (known : ServicesKnown experiment before history first)
    (terminal : (statusOf experiment).phase.isTerminal = true)
    (issued : deployment.Issued experiment history request)
    (permitted : Permits (actorOf experiment) request first answer second) :
    ServicesKnown experiment before (⟨request, answer⟩ :: history) second := by
  have fewer (place : ObjectKey) (tracked : Tracked Json)
      (found : second.virtualServices.lookup place = some tracked) :
      first.virtualServices.lookup place = some tracked := by
    rcases permitted.any.advance.virtualService place tracked found with
      held | ⟨ns, document, asked, -⟩
    · exact held
    · exact absurd asked
        ((creates_nothing_of_idle (not_starting_of_terminal terminal) issued).2 ns document)
  refine ⟨fun place tracked found => known.remaining place tracked (fewer place tracked found),
    ?_, ?_, ?_, ?_⟩
  · intro ns host services member place tracked found inside
    rcases List.mem_cons.mp member with here | member
    · cases here
      exact permitted.listed found inside
    · exact known.shown ns host services member place tracked (fewer place tracked found) inside
  · intro ns host services member vs listed
    rcases List.mem_cons.mp member with here | member
    · cases here
      obtain ⟨tracked, found, same⟩ := permitted.of_listed listed
      exact ⟨tracked, known.remaining _ _ found, same⟩
    · exact known.genuine ns host services member vs listed
  · intro ns name told member gone
    rcases List.mem_cons.mp member with here | member
    · cases here
      exact permitted.serviceGone gone
    · cases found : second.virtualServices.lookup (ns, name) with
      | none => rfl
      | some tracked =>
        have absent := known.gone ns name told member gone
        rw [fewer _ _ found] at absent
        cases absent
  · intro place tracked found foreign
    refine permitted.service_kept (known.spared place tracked found foreign) ?_
    rintro rfl
    obtain ⟨services, vs, listed, member, owned, same⟩ := issued.issues.removalAsked.listed
    obtain ⟨tracked', found', labels⟩ := known.genuine _ _ _ listed vs member
    rw [same, found] at found'
    obtain rfl := Option.some.inj found'
    rw [labels, foreign] at owned
    cases owned

/-- The only status written for a terminal experiment is its own with the mark, and it is written
after the cleanup. -/
theorem Writes.of_terminal {crates : Crates} {edgeResolver : Bool} {config : ReconcilerConfig}
    {status : ChaosExperimentStatus}
    (writes : Writes crates edgeResolver config experiment history status)
    (terminal : (statusOf experiment).phase.isTerminal = true) :
    Active experiment ∧ status = { statusOf experiment with cleanupDone := true } ∧
      (experiment.spec.scenario.isEdgeChaos = true →
        CleanupDone (targetNamespace experiment) (expName experiment) history) := by
  cases writes with
  | failed pending =>
    rw [pending.2] at terminal
    cases terminal
  | runningPod starting => exact absurd starting (not_starting_of_terminal terminal)
  | runningEdge starting => exact absurd starting (not_starting_of_terminal terminal)
  | completed active running =>
    rw [running] at terminal
    cases terminal
  | cleaned active _ unmarked jobs services => exact ⟨active, rfl, services⟩

/-- A status that a run on a terminal experiment has written is its own with the mark, in its own
place and after the cleanup. -/
theorem written_of_terminal {State : Type}
    {step : (request : ApiCall) → State → Answer request → State → Prop} {state final : State}
    {trace : History} {rest : Handler ReconcileResult} {ns name : String}
    {status : ChaosExperimentStatus} {answer : Except OperatorError Unit}
    (terminal : (statusOf experiment).phase.isTerminal = true)
    (reaches : Reaches step (deployment.pass experiment) state trace rest final)
    (member : ⟨.patchExperimentStatus ns name status, answer⟩ ∈ trace) :
    Active experiment ∧ (ns = expNamespace experiment ∧ name = expName experiment) ∧
      status = { statusOf experiment with cleanupDone := true } ∧ ∃ earlier ⊆ trace,
        experiment.spec.scenario.isEdgeChaos = true →
          CleanupDone (targetNamespace experiment) (expName experiment) earlier := by
  obtain ⟨earlier, subset, asked⟩ := issued_of_mem reaches member
  obtain ⟨active, same, cleaned⟩ := Writes.of_terminal asked.issues.writes terminal
  exact ⟨active, asked.issues.patched, same, earlier, subset, cleaned⟩

/-- The calls whose failure stops a cleanup are calls of a cleanup. -/
theorem Issues.cleansUp_of_fails {crates : Crates} {edgeResolver : Bool}
    {config : ReconcilerConfig} {exchange : Exchange ApiCall Answer}
    (issues : Issues crates edgeResolver config experiment history exchange.1)
    (terminal : (statusOf experiment).phase.isTerminal = true) (fails : FailsCleanup exchange) :
    CleansUp experiment ∧ experiment.spec.scenario.isEdgeChaos = true := by
  obtain ⟨request, answer⟩ := exchange
  cases issues with
  | listOwned cleans edgeChaos => exact ⟨cleans, edgeChaos⟩
  | deleteVirtualService cleans edgeChaos => exact ⟨cleans, edgeChaos⟩
  | listConflicts starting => exact absurd starting (not_starting_of_terminal terminal)
  | _ => cases fails

end Services

/-- However the listing and the deletions of its cleanup are answered, a pass on a terminal edge
experiment marks it only when none of its VirtualServices is left, writes nothing and is requeued
after a failure, and spares what is not the experiment's. -/
theorem cleanup_completeOrRetried (deployment : Deployment) (experiment : ChaosExperiment)
    (terminal : (statusOf experiment).phase.isTerminal = true)
    (unmarked : (statusOf experiment).cleanupDone = false)
    (edgeChaos : experiment.spec.scenario.isEdgeChaos = true)
    (before after : Cluster) (trace : History) (rest : Handler ReconcileResult)
    (reaches : Reaches (apiServer experiment) (deployment.pass experiment) before trace rest after)
    (ended : rest.Ended) : CleansOrRetries experiment before after trace rest := by
  have known : ServicesKnown experiment before trace.reverse after := by
    refine passInvariant reaches servicesKnown_start ?_
    intro earlier request first answer second known issued permitted
    exact known.call terminal issued permitted
  refine ⟨?_, ?_, known.spared, ?_⟩
  · intro ns name status answer member marked place tracked found inside
    obtain ⟨-, -, -, earlier, subset, cleaned⟩ := written_of_terminal terminal reaches member
    obtain ⟨services, listed, deleted⟩ := cleaned edgeChaos
    have shown :=
      known.shown _ _ _ (List.mem_reverse.mpr (subset listed)) place tracked found inside
    refine Bool.eq_false_of_not_eq_true fun owned => ?_
    obtain ⟨told, asked, gone⟩ := deleted _ shown owned
    have absent := known.gone _ _ told (List.mem_reverse.mpr (subset asked)) gone
    rw [← inside] at absent
    exact absurd (found.symm.trans absent) (by simp)
  · rintro ⟨exchange, member, fails⟩
    obtain ⟨earlier, -, asked⟩ := issued_of_mem reaches member
    rcases (asked.issues.cleansUp_of_fails terminal fails).1 with deleting | ⟨active, -, -⟩
    · refine ⟨fun other memberOther => ?_,
        fun alive => absurd (deleting.2.symm.trans alive) (by simp)⟩
      refine Bool.eq_false_of_not_eq_true fun patch => ?_
      obtain ⟨request, answer⟩ := other
      cases request with
      | patchExperimentStatus ns name status =>
        have active := (written_of_terminal terminal reaches memberOther).1
        exact absurd (deleting.2.symm.trans active.2) (by simp)
      | _ => cases patch
    · have unclean : Unclean experiment := ⟨active, terminal, unmarked⟩
      rcases unclean_closes unclean reaches ended with ⟨smooth, -⟩ | ⟨-, quiet, requeued⟩
      · exact absurd fails (smooth exchange member)
      · exact ⟨quiet, fun _ => requeued⟩
  · intro ns name status answer member
    obtain ⟨-, place, marked, -⟩ := written_of_terminal terminal reaches member
    exact ⟨place.1, place.2, marked⟩

/-! ### Passes on the way to deletion -/

/-- What the cleanup is asked for: in every pass, also in one on the way to deletion, a failure is
followed by a requeue. -/
structure CleansOrRequeues (experiment : ChaosExperiment) (before after : Cluster)
    (trace : History) (rest : Handler ReconcileResult) : Prop
    extends CleansOrRetries experiment before after trace rest where
  requeued : (∃ exchange ∈ trace, FailsCleanup exchange) →
    rest = .done (.requeue requeueRunningSecs)

/-- A deletion pass that does not fail ends without a requeue, whatever its calls are answered. -/
theorem deletionPass_follows {deployment : Deployment} {experiment : ChaosExperiment}
    (deleting : Deleting experiment) :
    (deployment.pass experiment).Follows (deployment.Issued experiment)
      (fun _ result => ∀ value, result = .ok value → value = .done) [] := by
  unfold Deployment.pass reconcile
  rw [deleting.1, deleting.2, if_neg Bool.false_ne_true, if_pos rfl]
  refine (handleDeletion_follows deleting noWrite_nil).bind (fun _ _ _ value same => ?_) ?_
  · exact (Except.ok.inj same).symm
  · rintro _ error - value ⟨⟩

/-- A pass on a terminal edge experiment does all that the cleanup is asked for if and only if it
is no deletion pass in which the cleanup fails. -/
theorem cleanup_requeued_iff (deployment : Deployment) (experiment : ChaosExperiment)
    (terminal : (statusOf experiment).phase.isTerminal = true)
    (unmarked : (statusOf experiment).cleanupDone = false)
    (edgeChaos : experiment.spec.scenario.isEdgeChaos = true)
    (before after : Cluster) (trace : History) (rest : Handler ReconcileResult)
    (reaches : Reaches (apiServer experiment) (deployment.pass experiment) before trace rest after)
    (ended : rest.Ended) :
    CleansOrRequeues experiment before after trace rest ↔
      (isBeingDeleted experiment = true → ∀ exchange ∈ trace, ¬ FailsCleanup exchange) := by
  have cleans := cleanup_completeOrRetried deployment experiment terminal unmarked edgeChaos before
    after trace rest reaches ended
  constructor
  · intro asked deleted exchange member fails
    obtain ⟨earlier, -, issued⟩ := issued_of_mem reaches member
    have deleting : Deleting experiment := by
      rcases (issued.issues.cleansUp_of_fails terminal fails).1 with deleting | ⟨active, -, -⟩
      · exact deleting
      · exact absurd (deleted.symm.trans active.2) (by simp)
    have follows := reaches.follows (deletionPass_follows deleting)
    rw [asked.requeued ⟨exchange, member, fails⟩] at follows
    cases follows _ rfl
  · intro smooth
    refine ⟨cleans, fun ⟨exchange, member, fails⟩ => ?_⟩
    refine (cleans.retried ⟨exchange, member, fails⟩).2 (Bool.eq_false_of_not_eq_true ?_)
    exact fun deleted => smooth deleted exchange member fails

/-- A succeeded edge experiment that is not marked clean yet. -/
def endedEdge : ChaosExperiment :=
  { freshSnapshot sampleKey sampleEdge with status := some { phase := .succeeded } }

/-- A cluster with one VirtualService of the sample experiment and one of somebody else. -/
def servicedCluster : Cluster :=
  let labels (pairs : Labels) : Json :=
    .object [("metadata", .object [("labels", labelsJson pairs)])]
  { sampleCluster [(sampleKey, sampleEdge)] with
    virtualServices := (∅ : Store ObjectKey (Tracked Json)).createAll [
      (("shop", "chaos-0b8f5c1e"),
        ⟨labels [(experimentLabel, "demo"), (managedByLabel, managedByValue)], some sampleKey⟩),
      (("shop", "canary"), ⟨labels [(experimentLabel, "demo")], none⟩)] }

/-- The server that refuses to delete VirtualServices. -/
def refuseServiceDeletions : ApiCall → Option OperatorError
  | .deleteVirtualService .. => some (.kube (.api 500 "internal error"))
  | _ => none

/-- Its refusals are not taken for missing objects. -/
theorem refuseServiceDeletions_unexpected (request : ApiCall) (error : OperatorError)
    (refused : refuseServiceDeletions request = some error) : isNotFound error = false := by
  cases request with
  | deleteVirtualService ns name =>
    obtain rfl := Option.some.inj refused
    rfl
  | _ => cases refused

/-- A server that does what it is asked does not fail a cleanup. -/
theorem smooth_transcript {surroundings : Surroundings} {actor : ObjectKey}
    {program : Handler ReconcileResult} {cluster : Cluster} :
    ∀ exchange ∈ program.transcript (serve surroundings actor) cluster,
      ¬ FailsCleanup exchange := by
  rintro ⟨request, answer⟩ member fails
  obtain ⟨before, same⟩ := answer_of_mem_transcript member
  obtain rfl : answer = (serve surroundings actor request before).1 := same
  cases request with
  | listVirtualServicesForHost ns host => exact fails
  | deleteVirtualService ns name =>
    simp only [serve, reply] at fails
    generalize (before.virtualServices.lookup (ns, name)).isSome = present at fails
    cases present with
    | true => exact fails
    | false => exact absurd (show isNotFound notFoundError = false from fails) (by decide)
  | _ => exact fails

/-- The same experiment on its way to deletion. -/
def deletedEdge : ChaosExperiment :=
  { endedEdge with
    metadata := { endedEdge.metadata with deletionTimestamp := some "2026-01-01T00:00:00Z" } }

/-- With its deletion refused the VirtualService stays and the pass is requeued, and on the way to
deletion it is gone when its deletion is granted. -/
theorem cleanup_requeued_sample :
    (∃ after trace, CleansOrRequeues endedEdge servicedCluster after trace (.done (.requeue 5)) ∧
        (after.virtualServices.lookup ("shop", "chaos-0b8f5c1e")).isSome = true) ∧
      ∃ after trace, CleansOrRequeues deletedEdge servicedCluster after trace (.done .done) ∧
        (after.virtualServices.lookup ("shop", "chaos-0b8f5c1e")).isSome = false := by
  constructor
  · have reaches := reaches_serving
      (permits_serveRefusing refuseServiceDeletions_unexpected sampleSurroundings sampleKey)
      (sampleDeployment.pass endedEdge) servicedCluster
    have ends : (exec (serveRefusing refuseServiceDeletions sampleSurroundings sampleKey)
        (sampleDeployment.pass endedEdge) servicedCluster).1 = .returned (.requeue 5) := by
      decide +kernel
    have present : ((exec (serveRefusing refuseServiceDeletions sampleSurroundings sampleKey)
        (sampleDeployment.pass endedEdge) servicedCluster).2.virtualServices.lookup
          ("shop", "chaos-0b8f5c1e")).isSome = true := by decide +kernel
    rw [ends] at reaches
    exact ⟨_, _, (cleanup_requeued_iff sampleDeployment endedEdge rfl rfl rfl _ _ _ _ reaches
      trivial).mpr (fun deleted => nomatch deleted), present⟩
  · have reaches := reaches_serving (permits_serve sampleSurroundings sampleKey)
      (sampleDeployment.pass deletedEdge) servicedCluster
    have ends : (exec (serve sampleSurroundings sampleKey) (sampleDeployment.pass deletedEdge)
        servicedCluster).1 = .returned .done := by decide +kernel
    have absent : ((exec (serve sampleSurroundings sampleKey) (sampleDeployment.pass deletedEdge)
        servicedCluster).2.virtualServices.lookup ("shop", "chaos-0b8f5c1e")).isSome = false := by
      decide +kernel
    rw [ends] at reaches
    exact ⟨_, _, (cleanup_requeued_iff sampleDeployment deletedEdge rfl rfl rfl _ _ _ _ reaches
      trivial).mpr (fun _ => smooth_transcript), absent⟩

/-- On its way to deletion the experiment is not requeued, though the deletion of its
VirtualService is refused. -/
theorem deletion_notRequeued : ¬ ∀ (deployment : Deployment) (experiment : ChaosExperiment),
    (statusOf experiment).phase.isTerminal = true →
    (statusOf experiment).cleanupDone = false →
    experiment.spec.scenario.isEdgeChaos = true →
    ∀ (before after : Cluster) (trace : History) (rest : Handler ReconcileResult),
      Reaches (apiServer experiment) (deployment.pass experiment) before trace rest after →
      rest.Ended → (∃ exchange ∈ trace, FailsCleanup exchange) →
      (∀ exchange ∈ trace, exchange.1.isPatch = false) ∧
        rest = .done (.requeue requeueRunningSecs) := by
  intro claim
  have reaches := reaches_serving
    (permits_serveRefusing refuseServiceDeletions_unexpected sampleSurroundings sampleKey)
    (sampleDeployment.pass deletedEdge) servicedCluster
  have ends : (exec (serveRefusing refuseServiceDeletions sampleSurroundings sampleKey)
      (sampleDeployment.pass deletedEdge) servicedCluster).1 = .returned .done := by
    decide +kernel
  rw [ends] at reaches
  have refused : (⟨.deleteVirtualService "shop" "chaos-0b8f5c1e",
      .error (.kube (.api 500 "internal error"))⟩ : Exchange ApiCall Answer) ∈
        (sampleDeployment.pass deletedEdge).transcript
          (serveRefusing refuseServiceDeletions sampleSurroundings sampleKey) servicedCluster :=
    List.mem_cons_of_mem _ List.mem_cons_self
  obtain ⟨-, requeued⟩ := claim sampleDeployment deletedEdge rfl rfl rfl _ _ _ _ reaches trivial
    ⟨_, refused, rfl⟩
  cases requeued

/-! ### Jobs -/

/-- The experiment has been marked clean. -/
def MarksClean (trace : History) : Prop :=
  ∃ ns name status answer, ⟨.patchExperimentStatus ns name status, answer⟩ ∈ trace ∧
    status.cleanupDone = true

/-- What a terminal pass has done to the Jobs: none is new, one whose deletion was granted is
gone, and any other is still there. -/
structure JobsKnown (before : Cluster) (history : History) (cluster : Cluster) : Prop where
  remaining : ∀ place tracked, cluster.jobs.lookup place = some tracked →
    ∃ earlier, before.jobs.lookup place = some earlier
  gone : ∀ ns name, ⟨.deleteJob ns name, .ok ()⟩ ∈ history → cluster.jobs.lookup (ns, name) = none
  kept : ∀ ns name tracked, before.jobs.lookup (ns, name) = some tracked →
    cluster.jobs.lookup (ns, name) = some tracked ∨ ⟨.deleteJob ns name, .ok ()⟩ ∈ history

section Jobs

variable {deployment : Deployment} {experiment : ChaosExperiment} {history : History}
  {before first second : Cluster} {request : ApiCall} {answer : Answer request}

theorem jobsKnown_start : JobsKnown before [] before where
  remaining := fun _ tracked found => ⟨tracked, found⟩
  gone := fun _ _ member => absurd member List.not_mem_nil
  kept := fun _ _ _ found => Or.inl found

/-- A Job that a call takes away was deleted, and the deletion was granted. -/
theorem RefusesOrWorks.job_kept {ns name : String} {tracked : Tracked Job}
    (answered : RefusesOrWorks (actorOf experiment) request first answer second)
    (found : first.jobs.lookup (ns, name) = some tracked) :
    second.jobs.lookup (ns, name) = some tracked ∨
      (⟨request, answer⟩ : Exchange ApiCall Answer) = ⟨.deleteJob ns name, .ok ()⟩ := by
  rcases answered with ⟨-, rfl⟩ | ⟨works, surroundings, rfl⟩
  · exact Or.inl found
  · by_cases deletes : request = .deleteJob ns name
    · subst deletes
      cases answer with
      | error error => exact absurd ⟨error, rfl⟩ works
      | ok value => exact Or.inr rfl
    · exact Or.inl (effect_job_kept found deletes)

/-- A granted deletion leaves nothing under its name. -/
theorem RefusesOrWorks.jobGone {ns name : String}
    (answered : RefusesOrWorks (actorOf experiment) (.deleteJob ns name) first (.ok ()) second) :
    second.jobs.lookup (ns, name) = none := by
  rcases answered with ⟨⟨error, refused⟩, -⟩ | ⟨-, surroundings, rfl⟩
  · cases refused
  · exact AList.lookup_erase _ _

/-- One call of a terminal pass. -/
theorem JobsKnown.call (known : JobsKnown before history first)
    (terminal : (statusOf experiment).phase.isTerminal = true)
    (issued : deployment.Issued experiment history request)
    (answered : RefusesOrWorks (actorOf experiment) request first answer second) :
    JobsKnown before (⟨request, answer⟩ :: history) second := by
  have fewer (place : ObjectKey) (tracked : Tracked Job)
      (found : second.jobs.lookup place = some tracked) :
      ∃ earlier, first.jobs.lookup place = some earlier := by
    rcases answered.advance.job place tracked found with ⟨earlier, held, -⟩ | ⟨ns, job, asked, -⟩
    · exact ⟨earlier, held⟩
    · exact absurd asked
        ((creates_nothing_of_idle (not_starting_of_terminal terminal) issued).1 ns job)
  refine ⟨?_, ?_, ?_⟩
  · intro place tracked found
    obtain ⟨earlier, held⟩ := fewer place tracked found
    exact known.remaining place earlier held
  · intro ns name member
    rcases List.mem_cons.mp member with here | member
    · cases here
      exact answered.jobGone
    · refine Option.eq_none_iff_forall_not_mem.mpr fun tracked found => ?_
      obtain ⟨earlier, held⟩ := fewer _ tracked found
      exact absurd (held.symm.trans (known.gone ns name member)) (by simp)
  · intro ns name tracked found
    rcases known.kept ns name tracked found with held | member
    · refine (answered.job_kept held).imp_right fun same => ?_
      rw [same]
      exact List.mem_cons_self
    · exact Or.inr (List.mem_cons_of_mem _ member)

/-- The cleanup of a pod or node experiment is smooth whatever its calls are answered. -/
theorem smooth_of_pod {State : Type}
    {step : (request : ApiCall) → State → Answer request → State → Prop} {state final : State}
    {trace : History} {rest : Handler ReconcileResult}
    (terminal : (statusOf experiment).phase.isTerminal = true)
    (pod : experiment.spec.scenario.isEdgeChaos = false)
    (reaches : Reaches step (deployment.pass experiment) state trace rest final) :
    Smooth trace := by
  intro exchange member fails
  obtain ⟨earlier, -, asked⟩ := issued_of_mem reaches member
  have edgeChaos := (asked.issues.cleansUp_of_fails terminal fails).2
  rw [pod] at edgeChaos
  cases edgeChaos

/-- A pass that is run to its end marks a pod or node experiment if and only if it is its turn. -/
theorem marksClean_iff {State : Type}
    {step : (request : ApiCall) → State → Answer request → State → Prop} {state final : State}
    {trace : History} {rest : Handler ReconcileResult}
    (terminal : (statusOf experiment).phase.isTerminal = true)
    (unmarked : (statusOf experiment).cleanupDone = false)
    (pod : experiment.spec.scenario.isEdgeChaos = false)
    (reaches : Reaches step (deployment.pass experiment) state trace rest final)
    (ended : rest.Ended) : MarksClean trace ↔ Active experiment := by
  constructor
  · rintro ⟨ns, name, status, answer, member, -⟩
    exact (written_of_terminal terminal reaches member).1
  · intro active
    rcases unclean_closes ⟨active, terminal, unmarked⟩ reaches ended with
      ⟨-, answer, marked⟩ | ⟨failed, -, -⟩
    · exact ⟨_, _, _, answer, marked, rfl⟩
    · exact absurd (smooth_of_pod terminal pod reaches) failed

end Jobs

/-- When a failing call changes nothing, a pass on a terminal pod or node experiment that marks
it has removed the recorded Jobs if and only if the deletion of each Job that was there was
granted. -/
theorem jobsRemoved_iff (deployment : Deployment) (experiment : ChaosExperiment)
    (terminal : (statusOf experiment).phase.isTerminal = true)
    (unmarked : (statusOf experiment).cleanupDone = false)
    (pod : experiment.spec.scenario.isEdgeChaos = false)
    (before after : Cluster) (trace : History) (rest : Handler ReconcileResult)
    (reaches : Reaches (RefusesOrWorks (actorOf experiment)) (deployment.pass experiment) before
      trace rest after) (ended : rest.Ended) :
    (MarksClean trace → ∀ job ∈ (statusOf experiment).runnerJobs,
        after.jobs.lookup (expNamespace experiment, job) = none) ↔
      (Active experiment → ∀ job ∈ (statusOf experiment).runnerJobs,
        (before.jobs.lookup (expNamespace experiment, job)).isSome = true →
          ⟨.deleteJob (expNamespace experiment) job, .ok ()⟩ ∈ trace) := by
  have known : JobsKnown before trace.reverse after := by
    refine passInvariant reaches jobsKnown_start ?_
    intro earlier request first answer second known issued answered
    exact known.call terminal issued answered
  rw [marksClean_iff terminal unmarked pod reaches ended]
  refine forall_congr' fun active => forall₂_congr fun job recorded => ?_
  constructor
  · intro absent present
    obtain ⟨tracked, found⟩ := Option.isSome_iff_exists.mp present
    rcases known.kept _ _ tracked found with held | granted
    · exact absurd (held.symm.trans absent) (by simp)
    · exact List.mem_reverse.mp granted
  · intro granted
    refine Option.eq_none_iff_forall_not_mem.mpr fun tracked found => ?_
    obtain ⟨earlier, held⟩ := known.remaining _ tracked found
    have member := granted (by rw [held, Option.isSome_some])
    exact absurd (found.symm.trans (known.gone _ _ (List.mem_reverse.mpr member))) (by simp)

/-- A succeeded pod experiment with one recorded Job that is not marked clean yet. -/
def endedPod : ChaosExperiment :=
  { freshSnapshot sampleKey samplePod with
    status := some { phase := .succeeded, runnerJobs := ["chaos-runner-0b8f5c1e-node-a"] } }

/-- A cluster in which that Job is still there. -/
def jobbedCluster : Cluster :=
  { sampleCluster [(sampleKey, samplePod)] with
    jobs := (∅ : Store ObjectKey (Tracked Job)).createAll [
      (("chaos", "chaos-runner-0b8f5c1e-node-a"),
        ⟨{ metadata := { name := some "chaos-runner-0b8f5c1e-node-a" }, spec := none },
          some sampleKey⟩)] }

/-- The server that refuses to delete Jobs, or nothing. -/
def refuseJobDeletions (refuses : Bool) : ApiCall → Option OperatorError
  | .deleteJob .. => if refuses then some (.kube (.api 500 "internal error")) else none
  | _ => none

/-- With its deletion granted the Job is gone. -/
theorem jobsRemoved_sample : ∃ (after : Cluster) (trace : History),
    MarksClean trace ∧ ∀ job ∈ (statusOf endedPod).runnerJobs,
      after.jobs.lookup (expNamespace endedPod, job) = none := by
  have reaches := reaches_refusing (refuseJobDeletions false) sampleSurroundings sampleKey
    (sampleDeployment.pass endedPod) jobbedCluster
  have ends : (exec (serveRefusing (refuseJobDeletions false) sampleSurroundings sampleKey)
      (sampleDeployment.pass endedPod) jobbedCluster).1 = .returned (.requeue 5) := by
    decide +kernel
  rw [ends] at reaches
  have active : Active endedPod := ⟨by decide +kernel, rfl⟩
  have marked := (marksClean_iff rfl rfl rfl reaches trivial).mpr active
  refine ⟨_, _, marked, (jobsRemoved_iff sampleDeployment endedPod rfl rfl rfl _ _ _ _ reaches
    trivial).mpr ?_ marked⟩
  intro _ job recorded _
  obtain rfl := List.mem_singleton.mp recorded
  exact List.mem_cons_self

/-- With its deletion refused the experiment is marked clean all the same, and the Job is left. -/
theorem markedJob_remains : ¬ ∀ (deployment : Deployment) (experiment : ChaosExperiment),
    (statusOf experiment).phase.isTerminal = true →
    (statusOf experiment).cleanupDone = false →
    experiment.spec.scenario.isEdgeChaos = false →
    ∀ (before after : Cluster) (trace : History) (rest : Handler ReconcileResult),
      Reaches (RefusesOrWorks (actorOf experiment)) (deployment.pass experiment) before trace rest
        after → rest.Ended → MarksClean trace →
      ∀ job ∈ (statusOf experiment).runnerJobs,
        after.jobs.lookup (expNamespace experiment, job) = none := by
  intro claim
  have reaches := reaches_refusing (refuseJobDeletions true) sampleSurroundings sampleKey
    (sampleDeployment.pass endedPod) jobbedCluster
  have ends : (exec (serveRefusing (refuseJobDeletions true) sampleSurroundings sampleKey)
      (sampleDeployment.pass endedPod) jobbedCluster).1 = .returned (.requeue 5) := by
    decide +kernel
  rw [ends] at reaches
  have active : Active endedPod := ⟨by decide +kernel, rfl⟩
  have absent := claim sampleDeployment endedPod rfl rfl rfl _ _ _ _ reaches trivial
    ((marksClean_iff rfl rfl rfl reaches trivial).mpr active) _ (List.mem_singleton.mpr rfl)
  have present : ((exec (serveRefusing (refuseJobDeletions true) sampleSurroundings sampleKey)
      (sampleDeployment.pass endedPod) jobbedCluster).2.jobs.lookup
        (expNamespace endedPod, "chaos-runner-0b8f5c1e-node-a")).isSome = true := by
    decide +kernel
  rw [absent] at present
  cases present

end ChimpChaos
