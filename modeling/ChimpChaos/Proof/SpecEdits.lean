/-
This file settles when the cleanup of an edge experiment survives edits of its spec.

The status does not say what was injected, so the terminal pass recomputes from the spec of its
snapshot what there is to clean up and where. An edit between the injection and the cleanup
sends it to another namespace, or makes it forget about VirtualServices altogether. The mark of
cleanup is right in every state exactly when every pass that sets it works on a spec that still
points to where the VirtualServices are.
-/

import ChimpChaos.Cluster.Editing
import ChimpChaos.Proof.CleanupGuarantee

namespace ChimpChaos

open Library Relation

/-! ### The mark of cleanup -/

/-- An experiment that is marked clean has no VirtualService left in any namespace. -/
def Sealed (key : ObjectKey) (cluster : Cluster) : Prop :=
  ∀ status, storedStatus key cluster = some status → status.cleanupDone = true →
    ∀ place tracked, ¬ CreatedService key cluster place tracked

/-- A pass that is due for cleanup, and gets as far as writing the status, works on an edge spec
and on the namespace of every VirtualService that was created before it. -/
def CleansWhereCreated (key : ObjectKey) (pass : OperatorPass) : Prop :=
  CleansUp pass.experiment → ¬ NoWrite pass.history →
    ∀ place tracked, CreatedService key pass.before place tracked →
      pass.experiment.spec.scenario.isEdgeChaos = true ∧
        place.1 = targetNamespace pass.experiment

/-! ### What an edit leaves as it is -/

/-- What becomes of a cluster while users edit specs. -/
structure SpecDrift (key : ObjectKey) (before after : Cluster) : Prop where
  status : ∀ object', after.experiments.lookup key = some object' →
    ∃ object, before.experiments.lookup key = some object ∧ object'.status = object.status
  held : HoldsFinalizer key before → HoldsFinalizer key after
  job : ∀ place tracked, after.jobs.lookup place = some tracked →
    ∃ earlier, before.jobs.lookup place = some earlier ∧ SameJob earlier tracked
  services : after.virtualServices = before.virtualServices

namespace SpecDrift

variable {key : ObjectKey} {first second third : Cluster}

theorem refl (cluster : Cluster) : SpecDrift key cluster cluster where
  status := fun object found => ⟨object, found, rfl⟩
  held := id
  job := fun _ tracked found => ⟨tracked, found, SameJob.refl tracked⟩
  services := rfl

theorem trans (left : SpecDrift key first second) (right : SpecDrift key second third) :
    SpecDrift key first third where
  status := fun object' found => by
    obtain ⟨middle, foundMiddle, sameLater⟩ := right.status object' found
    obtain ⟨object, stored, sameEarlier⟩ := left.status middle foundMiddle
    exact ⟨object, stored, sameLater.trans sameEarlier⟩
  held := fun holds => right.held (left.held holds)
  job := fun place tracked found => by
    obtain ⟨middle, foundMiddle, sameLater⟩ := right.job place tracked found
    obtain ⟨earlier, foundFirst, sameEarlier⟩ := left.job place middle foundMiddle
    exact ⟨earlier, foundFirst, sameEarlier.trans sameLater⟩
  services := right.services.trans left.services

theorem of_replaced (key place : ObjectKey) (cluster : Cluster) (spec : ChaosExperimentSpec) :
    SpecDrift key cluster
      { cluster with
        experiments := cluster.experiments.update place fun object => { object with spec } } := by
  refine ⟨fun object' found => ?_, fun holds => ?_,
    fun _ tracked found => ⟨tracked, found, SameJob.refl tracked⟩, rfl⟩
  · change (cluster.experiments.update place _).lookup key = _ at found
    rw [Store.lookup_update] at found
    split_ifs at found with same
    · subst same
      obtain ⟨object, stored, rfl⟩ := Option.map_eq_some_iff.mp found
      exact ⟨object, stored, rfl⟩
    · exact ⟨object', found, rfl⟩
  · obtain ⟨object, stored, held⟩ := holds
    unfold HoldsFinalizer
    simp only [Store.lookup_update]
    split_ifs with same
    · subst same
      exact ⟨{ object with spec }, by rw [stored, Option.map_some], held⟩
    · exact ⟨object, stored, held⟩

theorem of_edited (step : SpecEdited first second) : SpecDrift key first second := by
  cases step with
  | outside step untouched =>
    have drift := step.drift
    refine ⟨fun object' found => ?_, .of_drift drift, drift.job, untouched⟩
    obtain ⟨object, timestamp, stored, -, rfl⟩ := drift.object key object' found
    exact ⟨object, stored, rfl⟩
  | replaced place spec => exact of_replaced key place _ spec

theorem of_steps (steps : ReflTransGen SpecEdited first second) : SpecDrift key first second := by
  induction steps with
  | refl => exact refl first
  | tail _ step inductionHypothesis => exact inductionHypothesis.trans (of_edited step)

theorem shrinks (drift : SpecDrift key first second) : Shrinks key first second where
  job := fun place tracked created => by
    obtain ⟨earlier, found, same⟩ := drift.job place tracked created.1
    exact ⟨earlier, found, same.1.trans created.2⟩
  service := fun place tracked created => ⟨drift.services ▸ created.1, created.2⟩

theorem service_iff (drift : SpecDrift key first second) (place : ObjectKey)
    (tracked : Tracked Json) :
    CreatedService key second place tracked ↔ CreatedService key first place tracked := by
  rw [CreatedService, CreatedService, drift.services]

/-- What a reader finds after an edit is what it found before. -/
theorem storedStatus (drift : SpecDrift key first second) {status : ChaosExperimentStatus}
    (found : storedStatus key second = some status) : storedStatus key first = some status := by
  obtain ⟨object', found', parsed⟩ := storedStatus_eq_some.mp found
  obtain ⟨object, stored, same⟩ := drift.status object' found'
  exact storedStatus_eq_some.mpr ⟨object, stored, same ▸ parsed⟩

theorem sealed (drift : SpecDrift key first second) (closed : Sealed key first) :
    Sealed key second := by
  intro status found done place tracked created
  exact closed status (drift.storedStatus found) done place tracked
    ((drift.service_iff place tracked).mp created)

end SpecDrift

/-! ### What a pass makes of its experiment -/

/-- Where a pass has got with the status: it has not written yet, or a write was its last call. -/
inductive Progressed (deployment : Deployment) (key : ObjectKey) (experiment : ChaosExperiment)
    (document : Json) : History → Json → Prop
  | unwritten {history : History} (quiet : NoWrite history) :
      Progressed deployment key experiment document history document
  | written {earlier : History} (quiet : NoWrite earlier) (status : ChaosExperimentStatus)
      (answer : Except OperatorError Unit)
      (writes : deployment.Writes experiment earlier status) :
      Progressed deployment key experiment document
        (⟨.patchExperimentStatus key.1 key.2 status, answer⟩ :: earlier)
        (Json.mergePatch document status.toJson)

section Pass

variable {deployment : Deployment} {key : ObjectKey} {before after : Cluster}
  {experiment : ChaosExperiment} {history : History}

variable (key) in
/-- A call of a pass: others edit, and then the call is answered from the cluster. -/
theorem whileEdited_cases {request : ApiCall} {answer : Answer request}
    (answered : WhileEdited answering experiment request before answer after) :
    ∃ middle surroundings, SpecDrift key before middle ∧
      after = effect surroundings (actorOf experiment) middle request ∧
      Permits (actorOf experiment) request middle answer after ∧
      CleanupAnswered key middle request answer := by
  obtain ⟨middle, steps, surroundings, rfl, done⟩ := answered
  exact ⟨middle, surroundings, .of_steps steps, done, ⟨surroundings, Or.inl ⟨rfl, done⟩⟩,
    cleanupAnswered_reply surroundings key middle request⟩

theorem Rewrites.status_eq {object object' : ExperimentObject} {request : ApiCall}
    (rewrites : Rewrites key object request object') (harmless : request.isPatch = false) :
    object'.status = object.status := by
  cases rewrites with
  | patched status => cases harmless
  | kept | marked | released => rfl

/-- The status of the experiment in a pass. -/
def StatusProgressed (deployment : Deployment) (key : ObjectKey) (experiment : ChaosExperiment)
    (before : Cluster) (history : History) (after : Cluster) : Prop :=
  ∀ object', after.experiments.lookup key = some object' →
    ∃ object, before.experiments.lookup key = some object ∧
      Progressed deployment key experiment object.status history object'.status

theorem Progressed.eq_of_quiet {document document' : Json}
    (progressed : Progressed deployment key experiment document history document')
    (quiet : NoWrite history) : document' = document := by
  cases progressed with
  | unwritten => rfl
  | written => cases ((noWrite_cons _ _).mp quiet).1

theorem StatusProgressed.call (actor : actorOf experiment = key) {middle next : Cluster}
    {request : ApiCall} {answer : Answer request}
    (progressed : StatusProgressed deployment key experiment before history middle)
    (issued : deployment.Issued experiment history request)
    (answered : WhileEdited answering experiment request middle answer next) :
    StatusProgressed deployment key experiment before (⟨request, answer⟩ :: history) next := by
  intro object' found
  obtain ⟨edited, surroundings, drift, done, permitted, -⟩ := whileEdited_cases key answered
  have known (object : ExperimentObject) (stored : edited.experiments.lookup key = some object) :
      ∃ origin, before.experiments.lookup key = some origin ∧ object.status = origin.status := by
    obtain ⟨earlier, storedEarlier, same⟩ := drift.status object stored
    obtain ⟨origin, storedOrigin, moved⟩ := progressed earlier storedEarlier
    exact ⟨origin, storedOrigin, same.trans (moved.eq_of_quiet issued.quiet)⟩
  cases harmless : request.isPatch with
  | false =>
    obtain ⟨object, timestamp, stored, -, rewrites⟩ :=
      permitted.any.advance.object key object' found
    obtain ⟨origin, storedOrigin, same⟩ := known object stored
    refine ⟨origin, storedOrigin, ?_⟩
    rw [rewrites.status_eq harmless, ← same]
    exact .unwritten ((noWrite_cons _ _).mpr ⟨harmless, issued.quiet⟩)
  | true =>
    cases request with
    | patchExperimentStatus ns name status =>
      obtain ⟨rfl, rfl⟩ := issued.issues.patched
      subst actor done
      change (edited.experiments.update (actorOf experiment) _).lookup (actorOf experiment) = _
        at found
      rw [Store.lookup_update, if_pos rfl] at found
      obtain ⟨object, stored, rfl⟩ := Option.map_eq_some_iff.mp found
      obtain ⟨origin, storedOrigin, same⟩ := known object stored
      refine ⟨origin, storedOrigin, ?_⟩
      rw [ExperimentObject.patchStatus, same]
      exact .written issued.quiet status answer issued.issues.writes
    | _ => cases harmless

theorem statusProgressed_of_pass (actor : actorOf experiment = key)
    (pass : Pass deployment (WhileEdited answering) key before experiment history after) :
    StatusProgressed deployment key experiment before history after := by
  let Keeps : History → Cluster → Prop := StatusProgressed deployment key experiment before
  suffices kept : Keeps history after from kept
  refine pass.invariant (fun object found => ⟨object, found, .unwritten noWrite_nil⟩) ?_
  exact fun _ _ _ _ _ progressed issued answered =>
    StatusProgressed.call actor progressed issued answered

/-- The status that is read after a pass: that of the snapshot, or the merge of the one that the
pass has written with its last call. -/
theorem storedStatus_of_pass
    (pass : Pass deployment (WhileEdited answering) key before experiment history after)
    {status : ChaosExperimentStatus} (found : storedStatus key after = some status) :
    storedStatus key before = some (statusOf experiment) ∧
      (status = statusOf experiment ∨ ∃ earlier written answer,
        history = ⟨.patchExperimentStatus key.1 key.2 written, answer⟩ :: earlier ∧
          NoWrite earlier ∧ deployment.Writes experiment earlier written ∧
          status = (statusOf experiment).merge written) := by
  obtain ⟨object, stored, snapshot⟩ := pass.snapshot
  have known : storedStatus key before = some (statusOf experiment) :=
    storedStatus_eq_some.mpr ⟨object, stored, snapshot.status⟩
  refine ⟨known, ?_⟩
  obtain ⟨object', found', parsed⟩ := storedStatus_eq_some.mp found
  obtain ⟨origin, storedOrigin, progressed⟩ :=
    statusProgressed_of_pass snapshot.actorOf_eq pass object' found'
  obtain rfl := Option.some.inj (stored.symm.trans storedOrigin)
  generalize object'.status = document at parsed progressed
  cases progressed with
  | unwritten quiet => exact Or.inl (Option.some.inj (parsed.symm.trans snapshot.status))
  | @written earlier quiet written answer writes =>
    refine Or.inr ⟨earlier, written, answer, rfl, quiet, writes, ?_⟩
    rw [ChaosExperimentStatus.parse_mergePatch _ _ written snapshot.status] at parsed
    exact (Option.some.inj parsed).symm

/-- The VirtualServices after a pass were there before it, or it has created them for a pending
experiment. -/
theorem createdService_of_pass
    (pass : Pass deployment (WhileEdited answering) key before experiment history after)
    {place : ObjectKey} {tracked : Tracked Json}
    (created : CreatedService key after place tracked) :
    CreatedService key before place tracked ∨
      (Starting experiment ∧ isOwnedBy key.2 (documentLabels tracked.value) = true) := by
  obtain ⟨object, stored, snapshot⟩ := pass.snapshot
  let Keeps (_ : History) (cluster : Cluster) : Prop :=
    ∀ place tracked, CreatedService key cluster place tracked →
      CreatedService key before place tracked ∨
        (Starting experiment ∧ isOwnedBy key.2 (documentLabels tracked.value) = true)
  suffices kept : Keeps history after from kept place tracked created
  refine pass.invariant (fun place tracked created => Or.inl created) ?_
  intro earlier request middle answer next kept issued answered place tracked created
  obtain ⟨edited, surroundings, drift, -, permitted, -⟩ := whileEdited_cases key answered
  rcases permitted.any.advance.virtualService place tracked created.1 with
    found | ⟨ns, document, rfl, -, rfl⟩
  · exact kept place tracked ((drift.service_iff place tracked).mp ⟨found, created.2⟩)
  · have asked := issued.issues.serviceAsked
    obtain ⟨id, edge, sourceLabels, -, -, built⟩ := asked.source
    exact Or.inr ⟨asked.starting, snapshot.expName_eq ▸ built.owned⟩

/-! ### The invariant of a run -/

/-- What was created carries the marks that a cleanup looks for, and only a terminal experiment is
marked clean. -/
structure Tidy (key : ObjectKey) (cluster : Cluster) : Prop where
  labelled : ∀ place tracked, CreatedService key cluster place tracked →
    isOwnedBy key.2 (documentLabels tracked.value) = true
  terminal : ∀ status, storedStatus key cluster = some status → status.cleanupDone = true →
    status.phase.isTerminal = true

theorem tidy_of_fresh {initial : Cluster}
    (fresh : ∀ object, initial.experiments.lookup key = some object → object.status = .null)
    (untouched : ∀ place tracked, ¬ CreatedService key initial place tracked) :
    Tidy key initial where
  labelled := fun place tracked created => absurd created (untouched place tracked)
  terminal := fun status found done => by
    obtain ⟨object, stored, parsed⟩ := storedStatus_eq_some.mp found
    rw [fresh object stored] at parsed
    obtain rfl := Option.some.inj parsed
    cases done

theorem Tidy.edited (tidy : Tidy key before) (drift : SpecDrift key before after) :
    Tidy key after where
  labelled := fun place tracked created =>
    tidy.labelled place tracked ((drift.service_iff place tracked).mp created)
  terminal := fun status found => tidy.terminal status (drift.storedStatus found)

/-- The only write that sets the mark is that of a terminal pass which has cleaned up. -/
structure Cleaned (experiment : ChaosExperiment) (history : History)
    (written : ChaosExperimentStatus) : Prop where
  active : Active experiment
  terminal : (statusOf experiment).phase.isTerminal = true
  unclean : (statusOf experiment).cleanupDone = false
  same : written = { statusOf experiment with cleanupDone := true }
  services : experiment.spec.scenario.isEdgeChaos = true →
    CleanupDone (targetNamespace experiment) (expName experiment) history

theorem cleaned_of_writes {written : ChaosExperimentStatus}
    (writes : deployment.Writes experiment history written) (done : written.cleanupDone = true)
    (known : (statusOf experiment).cleanupDone = true →
      (statusOf experiment).phase.isTerminal = true) : Cleaned experiment history written := by
  cases writes with
  | failed => cases done
  | runningPod => cases done
  | runningEdge => cases done
  | completed active running phase terminal message time read =>
    have ended := known done
    rw [running] at ended
    cases ended
  | cleaned active terminal unclean jobs services =>
    exact ⟨active, terminal, unclean, rfl, services⟩

/-- What a pass that is due for cleanup writes. -/
theorem cleaned_of_cleansUp {written : ChaosExperimentStatus} (cleans : CleansUp experiment)
    (writes : deployment.Writes experiment history written) :
    Cleaned experiment history written := by
  cases writes with
  | failed pending => exact absurd cleans pending.not_cleansUp
  | runningPod starting => exact absurd cleans starting.1.not_cleansUp
  | runningEdge starting => exact absurd cleans starting.1.not_cleansUp
  | completed active running =>
    have ongoing : (statusOf experiment).phase.isTerminal = false := by
      rw [running]
      rfl
    exact absurd cleans (active.not_cleansUp ongoing)
  | cleaned active terminal unclean jobs services =>
    exact ⟨active, terminal, unclean, rfl, services⟩

theorem Tidy.pass (tidy : Tidy key before)
    (pass : Pass deployment (WhileEdited answering) key before experiment history after) :
    Tidy key after where
  labelled := fun place tracked created =>
    (createdService_of_pass pass created).elim (tidy.labelled place tracked) And.right
  terminal := fun status found done => by
    obtain ⟨known, rfl | ⟨earlier, written, answer, -, -, writes, rfl⟩⟩ :=
      storedStatus_of_pass pass found
    · exact tidy.terminal _ known done
    · have cleaned := cleaned_of_writes writes done (tidy.terminal _ known)
      show written.phase.isTerminal = true
      rw [cleaned.same]
      exact cleaned.terminal

/-! ### The mark against what is left -/

/-- What a pass that starts nothing has been told holds where it stops. -/
theorem told_of_pass (idle : ¬ Starting experiment)
    (pass : Pass deployment (WhileEdited answering) key before experiment history after) :
    Shrinks key before after ∧ ∀ exchange ∈ history, Tells key after exchange := by
  let Keeps (history : History) (cluster : Cluster) : Prop :=
    Shrinks key before cluster ∧ ∀ exchange ∈ history, Tells key cluster exchange
  suffices kept : Keeps history after from kept
  refine pass.invariant ⟨.refl before, fun _ member => nomatch member⟩ ?_
  rintro earlier request middle answer next ⟨shrunk, tells⟩ issued answered
  obtain ⟨edited, surroundings, drift, -, permitted, told⟩ := whileEdited_cases key answered
  have nothing := creates_nothing_of_idle idle issued
  have shrinks := drift.shrinks.trans (.of_advance permitted.any.advance nothing.1 nothing.2)
  refine ⟨shrunk.trans shrinks, fun exchange member => ?_⟩
  rcases List.mem_cons.mp member with rfl | member
  · exact tells_of_answered permitted told
  · exact shrinks.tells exchange (tells exchange member)

/-- A pass that cleans up where the VirtualServices are keeps the mark right. -/
theorem sealed_of_pass (tidy : Tidy key before) (closed : Sealed key before)
    (pass : Pass deployment (WhileEdited answering) key before experiment history after)
    (cleans : CleansWhereCreated key ⟨before, experiment, history, after⟩) :
    Sealed key after := by
  intro status found done place tracked created
  obtain ⟨known, rfl | ⟨earlier, written, answer, rfl, -, writes, rfl⟩⟩ :=
    storedStatus_of_pass pass found
  · have idle := not_starting_of_terminal (tidy.terminal _ known done)
    have left := (createdService_of_pass pass created).resolve_right fun new => idle new.1
    exact closed _ known done place tracked left
  · have cleaned := cleaned_of_writes writes done (tidy.terminal _ known)
    obtain ⟨shrinks, tells⟩ := told_of_pass (not_starting_of_terminal cleaned.terminal) pass
    have left := shrinks.service place tracked created
    have due : CleansUp experiment := Or.inr ⟨cleaned.active, cleaned.terminal, cleaned.unclean⟩
    have writing : ¬ NoWrite (⟨.patchExperimentStatus key.1 key.2 written, answer⟩ :: earlier) :=
      fun quiet => Bool.false_ne_true ((noWrite_cons _ _).mp quiet).1.symm
    obtain ⟨edgeChaos, inside⟩ := cleans due writing place tracked left
    obtain ⟨object, stored, snapshot⟩ := pass.snapshot
    have owned := tidy.labelled place tracked left
    rw [← snapshot.expName_eq] at owned
    exact not_created_of_cleanupDone (cleaned.services edgeChaos)
      (fun exchange member => tells exchange (List.mem_cons_of_mem _ member)) inside owned created

/-- Only what is not being deleted has its status written. -/
theorem active_of_writing (cleans : CleansUp experiment) (writing : ¬ NoWrite history)
    (pass : Pass deployment (WhileEdited answering) key before experiment history after) :
    Active experiment := by
  obtain ⟨⟨request, answer⟩, member, patches⟩ :
      ∃ exchange ∈ history, ¬ exchange.1.isPatch = false := by
    simpa only [NoWrite, not_forall, exists_prop] using writing
  obtain ⟨earlier, -, issued⟩ := pass.issued _ member
  cases request with
  | patchExperimentStatus => exact (cleaned_of_cleansUp cleans issued.issues.writes).active
  | _ => exact absurd rfl patches

/-- After the write of a pass that is due for cleanup the mark is set. -/
theorem marked_of_pass (cleans : CleansUp experiment) (writing : ¬ NoWrite history)
    (pass : Pass deployment (WhileEdited answering) key before experiment history after) :
    ∃ status, storedStatus key after = some status ∧ status.cleanupDone = true := by
  obtain ⟨object, stored, snapshot⟩ := pass.snapshot
  have active := active_of_writing cleans writing pass
  have alive : ¬ Deleting experiment := fun deleting =>
    absurd (active.2.symm.trans deleting.2) Bool.false_ne_true
  let Keeps (_ : History) (cluster : Cluster) : Prop := HoldsFinalizer key cluster
  have holds : Keeps history after := by
    refine pass.invariant ⟨object, stored, snapshot.needsFinalizer_eq_false.mp active.1⟩ ?_
    intro earlier request middle answer next holds issued answered
    obtain ⟨edited, surroundings, drift, -, permitted, -⟩ := whileEdited_cases key answered
    exact HoldsFinalizer.of_advance permitted.any.advance (drift.held holds)
      (keeps_finalizer_of_alive alive issued)
  obtain ⟨object', found, -⟩ := holds
  obtain ⟨origin, storedOrigin, progressed⟩ :=
    statusProgressed_of_pass snapshot.actorOf_eq pass object' found
  obtain rfl := Option.some.inj (stored.symm.trans storedOrigin)
  generalize document : object'.status = stored' at progressed
  cases progressed with
  | unwritten quiet => exact absurd quiet writing
  | @written earlier quiet last answer writes =>
    refine ⟨(statusOf experiment).merge last, storedStatus_eq_some.mpr ⟨object', found, ?_⟩, ?_⟩
    · rw [document, ChaosExperimentStatus.parse_mergePatch _ _ last snapshot.status]
    · show last.cleanupDone = true
      rw [(cleaned_of_cleansUp cleans writes).same]

/-- A pass that sets the mark rightly has cleaned up where the VirtualServices were. -/
theorem cleansWhereCreated_of_sealed
    (pass : Pass deployment (WhileEdited answering) key before experiment history after)
    (closed : Sealed key after) : CleansWhereCreated key ⟨before, experiment, history, after⟩ := by
  intro cleans writing place tracked created
  obtain ⟨status, found, done⟩ := marked_of_pass cleans writing pass
  by_contra elsewhere
  let Keeps (_ : History) (cluster : Cluster) : Prop := CreatedService key cluster place tracked
  have left : Keeps history after := by
    refine pass.invariant created ?_
    intro earlier request middle answer next kept issued answered
    obtain ⟨edited, surroundings, drift, -, permitted, -⟩ := whileEdited_cases key answered
    obtain ⟨there, creator⟩ := (drift.service_iff place tracked).mpr kept
    refine ⟨permitted.service_kept there ?_, creator⟩
    rintro rfl
    have asked := issued.issues.removalAsked
    exact elsewhere ⟨asked.edgeChaos, asked.place⟩
  exact closed status found done place tracked left

/-! ### Every state of a run -/

theorem EditedRun.tidy {initial final : Cluster} {made : List OperatorPass}
    {visited : List Cluster} (run : EditedRun deployment key initial made visited final)
    (start : Tidy key initial) : Tidy key final := by
  induction run with
  | start => exact start
  | edit _ step inductionHypothesis => exact inductionHypothesis.edited (.of_edited step)
  | pass _ last inductionHypothesis => exact inductionHypothesis.pass last

/-- What is listed as made are passes, and their ends have been visited. -/
theorem EditedRun.isPass {initial final : Cluster} {made : List OperatorPass}
    {visited : List Cluster} (run : EditedRun deployment key initial made visited final) :
    ∀ pass ∈ made, pass.after ∈ visited ∧
      Pass deployment (WhileEdited answering) key pass.before pass.experiment pass.history
        pass.after := by
  induction run with
  | start => exact fun pass member => absurd member List.not_mem_nil
  | edit _ step inductionHypothesis =>
    intro pass member
    obtain ⟨inside, isPass⟩ := inductionHypothesis pass member
    exact ⟨List.mem_cons_of_mem _ inside, isPass⟩
  | pass _ last inductionHypothesis =>
    intro pass member
    rcases List.mem_cons.mp member with rfl | member
    · exact ⟨List.mem_cons_self, last⟩
    · obtain ⟨inside, isPass⟩ := inductionHypothesis pass member
      exact ⟨List.mem_cons_of_mem _ inside, isPass⟩

theorem EditedRun.sealed {initial final : Cluster} {made : List OperatorPass}
    {visited : List Cluster} (run : EditedRun deployment key initial made visited final)
    (tidy : Tidy key initial) (start : Sealed key initial)
    (cleans : ∀ pass ∈ made, CleansWhereCreated key pass) :
    Sealed key final ∧ ∀ cluster ∈ visited, Sealed key cluster := by
  induction run with
  | start => exact ⟨start, List.forall_mem_singleton.mpr start⟩
  | edit _ step inductionHypothesis =>
    obtain ⟨closed, earlier⟩ := inductionHypothesis cleans
    have closed' := (SpecDrift.of_edited step).sealed closed
    exact ⟨closed', List.forall_mem_cons.mpr ⟨closed', earlier⟩⟩
  | pass run last inductionHypothesis =>
    obtain ⟨cleansLast, cleansEarlier⟩ := List.forall_mem_cons.mp cleans
    obtain ⟨closed, earlier⟩ := inductionHypothesis cleansEarlier
    have closed' := sealed_of_pass (run.tidy tidy) closed last cleansLast
    exact ⟨closed', List.forall_mem_cons.mpr ⟨closed', earlier⟩⟩

end Pass

/-- In every run of an experiment whose spec may be replaced at any point, an experiment that is
marked clean has no VirtualService left in any state that is visited, if and only if every pass
that is due for cleanup, and gets as far as writing the status, works on an edge spec with the
namespace in which the VirtualServices were created. -/
theorem cleanup_sealed_iff (deployment : Deployment) (key : ObjectKey) (initial final : Cluster)
    (made : List OperatorPass) (visited : List Cluster)
    (fresh : ∀ object, initial.experiments.lookup key = some object → object.status = .null)
    (untouched : ∀ place tracked, ¬ CreatedService key initial place tracked)
    (run : EditedRun deployment key initial made visited final) :
    (∀ cluster ∈ visited, Sealed key cluster) ↔ ∀ pass ∈ made, CleansWhereCreated key pass := by
  constructor
  · intro closed pass member
    obtain ⟨inside, isPass⟩ := run.isPass pass member
    exact cleansWhereCreated_of_sealed isPass (closed _ inside)
  · intro cleans
    have tidy := tidy_of_fresh fresh untouched
    exact (run.sealed tidy (fun _ _ _ => untouched) cleans).2

/-! ### Two edits of a running experiment -/

/-- A user replaces the spec. -/
def replaceSpec (key : ObjectKey) (spec : ChaosExperimentSpec) (cluster : Cluster) : Cluster :=
  { cluster with
    experiments := cluster.experiments.update key fun object => { object with spec } }

theorem sampleServer_answering (elapsed : Nat) : (sampleServer elapsed).Serves answering :=
  fun _ _ _ => ⟨_, rfl, rfl⟩

/-- A run goes on with a whole pass on the experiment as it is stored. -/
theorem EditedRun.whole {deployment : Deployment} {key : ObjectKey} {initial before : Cluster}
    {made : List OperatorPass} {visited : List Cluster} {server : Server}
    (run : EditedRun deployment key initial made visited before)
    (serves : server.Serves answering)
    (present : ((before.experiments.lookup key).bind fun object =>
      object.snapshot key).isSome = true) :
    ∃ pass, EditedRun deployment key initial (pass :: made)
      (runPass deployment server key before :: visited) (runPass deployment server key before) ∧
        pass.before = before := by
  obtain ⟨experiment, decoded⟩ := Option.isSome_iff_exists.mp present
  obtain ⟨object, stored, snapshot⟩ := Option.bind_eq_some_iff.mp decoded
  have reaches : Program.Reaches (WhileEdited answering experiment) (deployment.pass experiment)
      before _ _ _ := Program.reaches_serving
    (fun request middle => ⟨middle, .refl, serves experiment request middle⟩) _ before
  have after : runPass deployment server key before =
      clusterAfter deployment server experiment before := by
    unfold runPass
    rw [decoded]
  rw [after]
  exact ⟨_, .pass run (.run stored snapshot reaches), rfl⟩

def sampleStart : Cluster := sampleCluster [(sampleKey, sampleEdge)]

/-- The spec is replaced while the experiment runs. -/
def sampleReplaced (spec : ChaosExperimentSpec) : Cluster :=
  replaceSpec sampleKey spec (runPass sampleDeployment (sampleServer 0) sampleKey sampleStart)

/-- Ten seconds later a pass ends the experiment. -/
def sampleEnded (spec : ChaosExperimentSpec) : Cluster :=
  runPass sampleDeployment (sampleServer 10000000000) sampleKey (sampleReplaced spec)

def sampleCleaned (spec : ChaosExperimentSpec) : Cluster :=
  runPass sampleDeployment (sampleServer 0) sampleKey (sampleEnded spec)

/-- Is there an experiment that can be read? -/
def isReadable (cluster : Cluster) : Bool :=
  ((cluster.experiments.lookup sampleKey).bind fun object => object.snapshot sampleKey).isSome

/-- The three passes with the edit in between. -/
theorem editedRun_sample (spec : ChaosExperimentSpec)
    (readable : ([sampleStart, sampleReplaced spec, sampleEnded spec].all isReadable) = true) :
    ∃ made visited, EditedRun sampleDeployment sampleKey sampleStart made
        (sampleCleaned spec :: visited) (sampleCleaned spec) ∧
      made.map OperatorPass.before = [sampleEnded spec, sampleReplaced spec, sampleStart] := by
  simp only [List.all_cons, List.all_nil, Bool.and_true, Bool.and_eq_true] at readable
  have fresh : EditedRun sampleDeployment sampleKey sampleStart [] [sampleStart] sampleStart :=
    .start
  obtain ⟨first, started, begins⟩ := fresh.whole (sampleServer_answering 0) readable.1
  have edited := started.edit (.replaced _ sampleKey spec)
  obtain ⟨second, ended, continues⟩ :=
    edited.whole (sampleServer_answering 10000000000) readable.2.1
  obtain ⟨third, cleaned, ends⟩ := ended.whole (sampleServer_answering 0) readable.2.2
  refine ⟨_, _, cleaned, ?_⟩
  rw [List.map_cons, List.map_cons, List.map_cons, begins, continues, ends]
  rfl

/-- The target namespace is replaced while the experiment runs: the cleanup looks in the new one,
and the VirtualService stays in the old one for good. -/
theorem cleanup_misled : ∃ made visited final,
    EditedRun sampleDeployment sampleKey sampleStart made visited final ∧
      ∃ cluster ∈ visited, ¬ Sealed sampleKey cluster := by
  let spec := { sampleEdge.spec with targetNamespace := some "store" }
  obtain ⟨made, visited, run, -⟩ := editedRun_sample spec (by decide +kernel)
  refine ⟨_, _, _, run, sampleCleaned spec, List.mem_cons_self, fun closed => ?_⟩
  have marked : (storedStatus sampleKey (sampleCleaned spec)).map
      ChaosExperimentStatus.cleanupDone = some true := by decide +kernel
  obtain ⟨status, found, done⟩ := Option.map_eq_some_iff.mp marked
  obtain ⟨tracked, created⟩ : ∃ tracked, CreatedService sampleKey (sampleCleaned spec)
      ("shop", "chaos-edge-0b8f5c1e") tracked := createdService_of_creator (by decide +kernel)
  exact closed status found done _ tracked created

/-- The VirtualServices are in one namespace, and the spec points there. -/
def isAimedAt (ns : String) (cluster : Cluster) : Bool :=
  (cluster.virtualServices.listing.all fun entry => entry.1.1 == ns) &&
    (cluster.experiments.lookup sampleKey).all fun object =>
      object.spec.scenario.isEdgeChaos && servicesNamespace sampleKey object.spec == ns

theorem cleansWhereCreated_of_isAimedAt {deployment : Deployment} {ns : String}
    {pass : OperatorPass} (aimed : isAimedAt ns pass.before = true)
    (isPass : Pass deployment (WhileEdited answering) sampleKey pass.before pass.experiment
      pass.history pass.after) : CleansWhereCreated sampleKey pass := by
  rintro - - place tracked created
  obtain ⟨object, stored, snapshot⟩ := isPass.snapshot
  simp only [isAimedAt, stored, Option.all_some, Bool.and_eq_true, List.all_eq_true,
    beq_iff_eq] at aimed
  obtain ⟨inside, edgeChaos, aim⟩ := aimed
  rw [snapshot.targetNamespace_eq, snapshot.spec, aim]
  exact ⟨edgeChaos, inside _ ((Store.mem_listing _ _ _).mpr created.1)⟩

/-- The duration is replaced while the experiment runs. -/
theorem cleanup_sealed_sample : ∃ made visited final,
    EditedRun sampleDeployment sampleKey sampleStart made visited final ∧
      (storedStatus sampleKey final).map ChaosExperimentStatus.cleanupDone = some true ∧
      ∀ cluster ∈ visited, Sealed sampleKey cluster := by
  let spec := { sampleEdge.spec with duration := 3 }
  obtain ⟨made, visited, run, begins⟩ := editedRun_sample spec (by decide +kernel)
  have fresh : ∀ object, sampleStart.experiments.lookup sampleKey = some object →
      object.status = .null := by
    intro object stored
    obtain rfl := Option.some.inj ((AList.lookup_insert _).symm.trans stored)
    rfl
  have aimed : ([sampleEnded spec, sampleReplaced spec, sampleStart].all (isAimedAt "shop")) =
      true := by decide +kernel
  refine ⟨_, _, _, run, by decide +kernel, (cleanup_sealed_iff _ _ _ _ _ _ fresh
    (not_createdService_sample _ sampleKey) run).mpr fun pass member => ?_⟩
  have inside : pass.before ∈ made.map OperatorPass.before := List.mem_map_of_mem member
  rw [begins] at inside
  exact cleansWhereCreated_of_isAimedAt (List.all_eq_true.mp aimed _ inside)
    (run.isPass pass member).2

end ChimpChaos
