/-
This file settles what the finalizer guarantees: as long as a Job or a VirtualService that the
operator created for an experiment is there, the experiment is there too and carries the
finalizer.

The deletion path drops every error of its cleanup and takes only recorded Jobs into account,
so the guarantee depends on two things: that the Jobs which are there are recorded when a
deletion pass begins, and that the calls of that pass on what was created are answered. Under
these the guarantee is an invariant. What a deletion pass has learnt from its exchanges is
`Tells`; it can only become truer, because such a pass creates nothing.
-/

import ChimpChaos.Proof.JobAccounting

namespace ChimpChaos

open Library Relation

/-! ### The guarantee and its conditions -/

/-- Nothing the operator created for an experiment is there. -/
def Cleared (key : ObjectKey) (cluster : Cluster) : Prop :=
  (∀ place tracked, ¬ CreatedJob key cluster place tracked) ∧
    ∀ place tracked, ¬ CreatedService key cluster place tracked

/-- The experiment is stored and carries the finalizer. -/
def HoldsFinalizer (key : ObjectKey) (cluster : Cluster) : Prop :=
  ∃ object, cluster.experiments.lookup key = some object ∧
    finalizerName ∈ object.finalizers.getD []

/-- The guarantee. -/
def Guarded (key : ObjectKey) (cluster : Cluster) : Prop :=
  Cleared key cluster ∨ HoldsFinalizer key cluster

/-- A deletion pass begins with every created Job recorded. -/
def RecordsJobs (key : ObjectKey) : PassCondition := fun before experiment _ _ =>
  Deleting experiment → ∀ place tracked, CreatedJob key before place tracked →
    place.2 ∈ (statusOf experiment).runnerJobs

/-- The calls of a cleanup are answered as far as they concern what was created: the deletion
of a created Job succeeds, and while there is a created VirtualService the listing succeeds
and every deletion of a VirtualService removes it or finds it gone. -/
def CleanupAnswered (key : ObjectKey) (cluster : Cluster) :
    (request : ApiCall) → Answer request → Prop
  | .deleteJob ns name, answer =>
    (∃ tracked, CreatedJob key cluster (ns, name) tracked) → answer = .ok ()
  | .listVirtualServicesForHost _ _, answer =>
    (∃ place tracked, CreatedService key cluster place tracked) → ∃ services, answer = .ok services
  | .deleteVirtualService _ _, answer =>
    (∃ place tracked, CreatedService key cluster place tracked) → Gone answer
  | _, _ => True

/-- The API server that answers the cleanup calls of deletion passes. -/
def answeringServer (key : ObjectKey) : Service := fun experiment request before answer after =>
  apiServer experiment request before answer after ∧
    (Deleting experiment → CleanupAnswered key before request answer)

theorem answeringServer_within (key : ObjectKey) : (answeringServer key).Within :=
  fun _ _ _ _ _ answered => answered.1.any

/-! ### What becomes of what was created -/

/-- Nothing is created between two states. -/
structure Shrinks (key : ObjectKey) (before after : Cluster) : Prop where
  job : ∀ place tracked, CreatedJob key after place tracked →
    ∃ earlier, CreatedJob key before place earlier
  service : ∀ place tracked, CreatedService key after place tracked →
    CreatedService key before place tracked

namespace Shrinks

variable {key : ObjectKey} {first second third : Cluster}

theorem refl (cluster : Cluster) : Shrinks key cluster cluster :=
  ⟨fun _ tracked created => ⟨tracked, created⟩, fun _ _ created => created⟩

theorem trans (left : Shrinks key first second) (right : Shrinks key second third) :
    Shrinks key first third where
  job := fun place tracked created => by
    obtain ⟨middle, found⟩ := right.job place tracked created
    exact left.job place middle found
  service := fun place tracked created => left.service place tracked (right.service _ _ created)

theorem cleared (shrinks : Shrinks key first second) (cleared : Cleared key first) :
    Cleared key second := by
  refine ⟨fun place tracked created => ?_, fun place tracked created => ?_⟩
  · obtain ⟨earlier, found⟩ := shrinks.job place tracked created
    exact cleared.1 place earlier found
  · exact cleared.2 place tracked (shrinks.service place tracked created)

theorem of_drift (drift : Drift first second) : Shrinks key first second where
  job := fun place tracked created => by
    obtain ⟨earlier, found, same⟩ := drift.job place tracked created.1
    exact ⟨earlier, found, same.1.trans created.2⟩
  service := fun place tracked created =>
    ⟨drift.virtualService place tracked created.1, created.2⟩

theorem of_advance {actor : ObjectKey} {request : ApiCall}
    (advance : Advance actor request first second)
    (noJob : ∀ ns job, request ≠ .createJob ns job)
    (noService : ∀ ns document, request ≠ .createVirtualService ns document) :
    Shrinks key first second where
  job := fun place tracked created => by
    rcases advance.job place tracked created.1 with ⟨earlier, found, same⟩ | ⟨ns, job, asked, -⟩
    · exact ⟨earlier, found, same.1.trans created.2⟩
    · exact absurd asked (noJob ns job)
  service := fun place tracked created => by
    rcases advance.virtualService place tracked created.1 with found | ⟨ns, document, asked, -⟩
    · exact ⟨found, created.2⟩
    · exact absurd asked (noService ns document)

end Shrinks

/-! ### What an exchange tells about the cluster -/

/-- What an answered exchange of a cleanup says about what was created. -/
def Tells (key : ObjectKey) (cluster : Cluster) : Exchange ApiCall Answer → Prop
  | ⟨.deleteJob ns name, _⟩ => ∀ tracked, ¬ CreatedJob key cluster (ns, name) tracked
  | ⟨.listVirtualServicesForHost ns _, .ok services⟩ =>
    ∀ place tracked, CreatedService key cluster place tracked → place.1 = ns →
      virtualServiceInfo place.2 tracked.value ∈ services
  | ⟨.listVirtualServicesForHost _ _, .error _⟩ =>
    ∀ place tracked, ¬ CreatedService key cluster place tracked
  | ⟨.deleteVirtualService ns name, answer⟩ =>
    (∀ tracked, ¬ CreatedService key cluster (ns, name) tracked) ∧
      (¬ Gone answer → ∀ place tracked, ¬ CreatedService key cluster place tracked)
  | _ => True

theorem Shrinks.tells {key : ObjectKey} {before after : Cluster}
    (shrinks : Shrinks key before after) (exchange : Exchange ApiCall Answer)
    (tells : Tells key before exchange) : Tells key after exchange := by
  obtain ⟨request, answer⟩ := exchange
  cases request with
  | deleteJob ns name =>
    intro tracked created
    obtain ⟨earlier, found⟩ := shrinks.job _ tracked created
    exact tells earlier found
  | listVirtualServicesForHost ns host =>
    cases answer with
    | ok services =>
      exact fun place tracked created => tells place tracked (shrinks.service _ _ created)
    | error error =>
      exact fun place tracked created => tells place tracked (shrinks.service _ _ created)
  | deleteVirtualService ns name =>
    exact ⟨fun tracked created => tells.1 tracked (shrinks.service _ _ created),
      fun refused place tracked created => tells.2 refused place tracked
        (shrinks.service _ _ created)⟩
  | _ => trivial

section Answers

variable {key actor : ObjectKey} {before after : Cluster}

/-- A deletion that is answered with success, or with 404, leaves nothing under its name. -/
theorem Permits.jobGone {ns name : String} {answer : Answer (.deleteJob ns name)}
    (permitted : Permits actor (.deleteJob ns name) before answer after) (gone : Gone answer) :
    after.jobs.lookup (ns, name) = none := by
  obtain ⟨surroundings, ⟨-, rfl⟩ | ⟨error, told, honest, took⟩⟩ := permitted
  · exact AList.lookup_erase _ _
  · obtain rfl := Option.some.inj told
    have absent : before.jobs.lookup (ns, name) = none := by
      simpa [deletesPresent] using honest gone
    rcases took with rfl | rfl
    · exact absent
    · exact AList.lookup_erase _ _

theorem Permits.serviceGone {ns name : String} {answer : Answer (.deleteVirtualService ns name)}
    (permitted : Permits actor (.deleteVirtualService ns name) before answer after)
    (gone : Gone answer) : after.virtualServices.lookup (ns, name) = none := by
  obtain ⟨surroundings, ⟨-, rfl⟩ | ⟨error, told, honest, took⟩⟩ := permitted
  · exact AList.lookup_erase _ _
  · obtain rfl := Option.some.inj told
    have absent : before.virtualServices.lookup (ns, name) = none := by
      simpa [deletesPresent] using honest gone
    rcases took with rfl | rfl
    · exact absent
    · exact AList.lookup_erase _ _

/-- A listing that is answered shows every VirtualService of its namespace. -/
theorem Permits.listed {ns host : String} {services : List VirtualServiceInfo}
    (permitted : Permits actor (.listVirtualServicesForHost ns host) before (.ok services) after)
    {place : ObjectKey} {tracked : Tracked Json}
    (found : after.virtualServices.lookup place = some tracked) (inside : place.1 = ns) :
    virtualServiceInfo place.2 tracked.value ∈ services := by
  obtain ⟨surroundings, ⟨told, rfl⟩ | ⟨error, told, -, -⟩⟩ := permitted
  · obtain rfl := Except.ok.inj told
    refine List.mem_map.mpr ⟨(place, tracked), List.mem_filter.mpr ⟨?_, by simpa using inside⟩, rfl⟩
    exact (Store.mem_listing _ _ _).mpr found
  · cases told

/-- A listing of the API server shows only what is there. -/
theorem Permits.of_listed {actor : ObjectKey} {ns host : String}
    {services : List VirtualServiceInfo} {first second : Cluster}
    (permitted : Permits actor (.listVirtualServicesForHost ns host) first (.ok services) second)
    {vs : VirtualServiceInfo} (member : vs ∈ services) :
    ∃ tracked, first.virtualServices.lookup (ns, vs.name) = some tracked ∧
      vs.labels = documentLabels tracked.value := by
  obtain ⟨surroundings, ⟨told, rfl⟩ | ⟨error, told, -, -⟩⟩ := permitted
  · obtain rfl := Except.ok.inj told
    obtain ⟨⟨place, tracked⟩, inside, rfl⟩ := List.mem_map.mp member
    obtain ⟨listed, same⟩ := List.mem_filter.mp inside
    have sameNamespace : place.1 = ns := by simpa using same
    refine ⟨tracked, ?_, rfl⟩
    rw [← sameNamespace]
    exact (Store.mem_listing _ _ _).mp listed
  · cases told

/-- An answered cleanup call tells what it should about the state after it. -/
theorem tells_of_answered {request : ApiCall} {answer : Answer request}
    (permitted : Permits actor request before answer after)
    (answered : CleanupAnswered key before request answer) : Tells key after ⟨request, answer⟩ := by
  have advance := permitted.any.advance
  cases request with
  | deleteJob ns name =>
    intro tracked created
    rcases advance.job _ tracked created.1 with ⟨earlier, found, same⟩ | ⟨_, _, asked, -⟩
    · have succeeded := answered ⟨earlier, found, same.1.trans created.2⟩
      have gone := permitted.jobGone (by rw [succeeded]; trivial)
      rw [created.1] at gone
      cases gone
    · cases asked
  | listVirtualServicesForHost ns host =>
    cases answer with
    | ok services => exact fun place tracked created inside => permitted.listed created.1 inside
    | error error =>
      intro place tracked created
      rcases advance.virtualService place tracked created.1 with found | ⟨_, _, asked, -⟩
      · obtain ⟨services, impossible⟩ := answered ⟨place, tracked, found, created.2⟩
        cases impossible
      · cases asked
  | deleteVirtualService ns name =>
    have gone (place : ObjectKey) (tracked : Tracked Json)
        (created : CreatedService key after place tracked) : Gone answer := by
      rcases advance.virtualService place tracked created.1 with found | ⟨_, _, asked, -⟩
      · exact answered ⟨place, tracked, found, created.2⟩
      · cases asked
    refine ⟨fun tracked created => ?_, fun refused place tracked created =>
      refused (gone place tracked created)⟩
    have absent := permitted.serviceGone (gone _ tracked created)
    rw [created.1] at absent
    cases absent
  | _ => trivial

/-- What is answered from the cluster answers every cleanup call. -/
theorem cleanupAnswered_reply (surroundings : Surroundings) (key : ObjectKey) (cluster : Cluster)
    (request : ApiCall) :
    CleanupAnswered key cluster request (reply surroundings cluster request) := by
  cases request with
  | deleteJob ns name =>
    rintro ⟨tracked, found, -⟩
    show presenceAnswer (cluster.jobs.lookup (ns, name)).isSome = .ok ()
    rw [found]
    rfl
  | listVirtualServicesForHost ns host => exact fun _ => ⟨_, rfl⟩
  | deleteVirtualService ns name =>
    intro _
    show Gone (presenceAnswer (cluster.virtualServices.lookup (ns, name)).isSome)
    cases (cluster.virtualServices.lookup (ns, name)).isSome <;> trivial
  | _ => trivial

end Answers

/-! ### How what was created is marked -/

/-- The namespace in which an experiment's VirtualServices live. -/
def servicesNamespace (key : ObjectKey) (spec : ChaosExperimentSpec) : String :=
  spec.targetNamespace.getD key.1

/-- What was created lies where a cleanup looks for it, with the marks it looks for. -/
structure Placed (key : ObjectKey) (cluster : Cluster) : Prop where
  job : ∀ place tracked, CreatedJob key cluster place tracked → place.1 = key.1
  service : ∀ place tracked, CreatedService key cluster place tracked →
    isOwnedBy key.2 (documentLabels tracked.value) = true ∧
      ∀ object, cluster.experiments.lookup key = some object →
        object.spec.scenario.isEdgeChaos = true ∧ place.1 = servicesNamespace key object.spec

section Guarantee

variable {deployment : Deployment} {key : ObjectKey} {service : Service} {before after : Cluster}
  {experiment : ChaosExperiment} {history : History}

theorem IsSnapshot.targetNamespace_eq {object : ExperimentObject}
    (snapshot : IsSnapshot key object experiment) :
    targetNamespace experiment = servicesNamespace key object.spec := by
  rw [targetNamespace, servicesNamespace, snapshot.spec, snapshot.ns, Option.getD_some]

theorem IsSnapshot.needsFinalizer_eq_false {object : ExperimentObject}
    (snapshot : IsSnapshot key object experiment) :
    needsFinalizer experiment = false ↔ finalizerName ∈ object.finalizers.getD [] := by
  rw [needsFinalizer_eq_false_iff, snapshot.finalizers]

theorem placed_of_drift (drift : Drift before after) (placed : Placed key before) :
    Placed key after where
  job := fun place tracked created => by
    obtain ⟨earlier, found, same⟩ := drift.job place tracked created.1
    exact placed.job place earlier ⟨found, same.1.trans created.2⟩
  service := fun place tracked created => by
    obtain ⟨owned, known⟩ :=
      placed.service place tracked ⟨drift.virtualService place tracked created.1, created.2⟩
    refine ⟨owned, fun object' found => ?_⟩
    obtain ⟨object, timestamp, stored, -, rfl⟩ := drift.object key object' found
    exact known object stored

theorem placed_of_handled (handled : Handled deployment key experiment before history after)
    {object : ExperimentObject} (stored : before.experiments.lookup key = some object)
    (snapshot : IsSnapshot key object experiment) (placed : Placed key before) :
    Placed key after where
  job := fun place tracked created => by
    rcases handled.createdJob created with ⟨earlier, found⟩ | ⟨_, ns, job, -, asked, rfl⟩
    · exact placed.job place earlier found
    · rw [jobKey, asked.issues.jobAsked.place, snapshot.expNamespace_eq]
  service := fun place tracked created => by
    have sameSpec (object' : ExperimentObject)
        (found : after.experiments.lookup key = some object') : object'.spec = object.spec := by
      obtain ⟨origin, storedOrigin, -, same, -⟩ := handled.object object' found
      rw [stored] at storedOrigin
      obtain rfl := Option.some.inj storedOrigin
      exact same
    rcases handled.virtualService place tracked created.1 with
      found | ⟨_, ns, document, -, asked, rfl, rfl⟩
    · obtain ⟨owned, known⟩ := placed.service place tracked ⟨found, created.2⟩
      refine ⟨owned, fun object' found' => ?_⟩
      rw [sameSpec object' found']
      exact known object stored
    · have known := asked.issues.serviceAsked
      obtain ⟨id, edge, sourceLabels, -, -, built⟩ := known.source
      refine ⟨by rw [← snapshot.expName_eq]; exact built.owned, fun object' found' => ?_⟩
      rw [sameSpec object' found', ← snapshot.spec]
      refine ⟨known.edgeChaos, ?_⟩
      rw [documentKey, known.place, snapshot.targetNamespace_eq, snapshot.spec]

/-! ### The three kinds of passes -/

/-- A pass that creates starts the experiment. -/
theorem creates_nothing_of_idle {request : ApiCall} (idle : ¬ Starting experiment)
    (issued : deployment.Issued experiment history request) :
    (∀ ns job, request ≠ .createJob ns job) ∧
      ∀ ns document, request ≠ .createVirtualService ns document := by
  constructor
  · rintro ns job rfl
    exact idle issued.issues.jobAsked.starting
  · rintro ns document rfl
    exact idle issued.issues.serviceAsked.starting

theorem isHeld_of_mem {object : ExperimentObject} {finalizer : String}
    (held : finalizer ∈ object.finalizers.getD []) : object.isHeld = true := by
  unfold ExperimentObject.isHeld
  cases finalizers : object.finalizers.getD [] with
  | nil =>
    rw [finalizers] at held
    cases held
  | cons head rest => rfl

theorem HoldsFinalizer.of_drift (drift : Drift before after) (holds : HoldsFinalizer key before) :
    HoldsFinalizer key after := by
  obtain ⟨object, stored, held⟩ := holds
  obtain ⟨object', found⟩ := drift.held key object stored (isHeld_of_mem held)
  obtain ⟨origin, timestamp, storedOrigin, -, rfl⟩ := drift.object key object' found
  rw [stored] at storedOrigin
  obtain rfl := Option.some.inj storedOrigin
  exact ⟨_, found, held⟩

/-- No call but the last of a deletion takes the finalizer off. -/
theorem HoldsFinalizer.of_advance {actor : ObjectKey} {request : ApiCall}
    (advance : Advance actor request before after) (holds : HoldsFinalizer key before)
    (keeps : request ≠ .removeFinalizer key.1 key.2) : HoldsFinalizer key after := by
  obtain ⟨object, stored, held⟩ := holds
  rcases advance.held key object stored (isHeld_of_mem held) with ⟨object', found⟩ | removed
  · obtain ⟨origin, timestamp, storedOrigin, -, rewrites⟩ := advance.object key object' found
    rw [stored] at storedOrigin
    obtain rfl := Option.some.inj storedOrigin
    refine ⟨object', found, ?_⟩
    cases rewrites with
    | kept => exact held
    | patched status => exact held
    | marked => exact List.mem_singleton.mpr rfl
    | released => exact absurd rfl keeps
  · exact absurd removed keeps

/-- Only a deletion pass asks for the removal of the finalizer. -/
theorem keeps_finalizer_of_alive {request : ApiCall} {ns name : String}
    (alive : ¬ Deleting experiment) (issued : deployment.Issued experiment history request) :
    request ≠ .removeFinalizer ns name := by
  rintro rfl
  exact alive issued.issues.releaseAsked.deleting

/-- A pass that is not a deletion leaves the finalizer where it is. -/
theorem holdsFinalizer_of_pass (within : service.Within)
    (pass : Pass deployment (Interfered service) key before experiment history after)
    (alive : ¬ Deleting experiment) (holds : HoldsFinalizer key before) :
    HoldsFinalizer key after := by
  let Keeps (_ : History) (cluster : Cluster) : Prop := HoldsFinalizer key cluster
  suffices kept : Keeps history after from kept
  refine pass.invariant holds ?_
  intro earlier request middle answer next holds issued answered
  have advance := Interfered.advance (fun _ => within _ _ _ _ _) answered
  exact HoldsFinalizer.of_advance advance holds (keeps_finalizer_of_alive alive issued)

/-- A cleanup that went through leaves no marked VirtualService in its namespace. -/
theorem not_created_of_cleanupDone {cluster : Cluster} {targetNs name : String}
    (done : CleanupDone targetNs name history)
    (tells : ∀ exchange ∈ history, Tells key cluster exchange) {place : ObjectKey}
    {tracked : Tracked Json} (inside : place.1 = targetNs)
    (owned : isOwnedBy name (documentLabels tracked.value) = true) :
    ¬ CreatedService key cluster place tracked := by
  intro created
  obtain ⟨services, listed, deleted⟩ := done
  have shown := tells _ listed place tracked created inside
  obtain ⟨answer, requested, -⟩ := deleted _ shown owned
  have absent := (tells _ requested).1
  rw [← inside] at absent
  exact absent tracked created

/-- What has been learnt in a deletion pass leaves nothing that was created, when the pass asks
for the removal of the finalizer. -/
theorem cleared_of_tells {object : ExperimentObject} {cluster : Cluster} {ns name : String}
    (placed : Placed key before) (stored : before.experiments.lookup key = some object)
    (snapshot : IsSnapshot key object experiment)
    (records : ∀ place tracked, CreatedJob key before place tracked →
      place.2 ∈ (statusOf experiment).runnerJobs)
    (asked : ReleaseAsked experiment history ns name) (shrinks : Shrinks key before cluster)
    (tells : ∀ exchange ∈ history, Tells key cluster exchange) : Cleared key cluster := by
  refine ⟨fun place tracked created => ?_, fun place tracked created => ?_⟩
  · obtain ⟨earlier, found⟩ := shrinks.job place tracked created
    obtain ⟨answer, requested⟩ := asked.jobs place.2 (records place earlier found)
    have absent := tells _ requested
    rw [snapshot.expNamespace_eq, ← placed.job place earlier found] at absent
    exact absent tracked created
  · obtain ⟨owned, known⟩ := placed.service place tracked (shrinks.service place tracked created)
    obtain ⟨edgeChaos, inside⟩ := known object stored
    rw [← snapshot.targetNamespace_eq] at inside
    rw [← snapshot.spec] at edgeChaos
    rcases asked.services edgeChaos with
      done | ⟨error, refused⟩ | ⟨vsName, error, refused, failed⟩
    · rw [← snapshot.expName_eq] at owned
      exact not_created_of_cleanupDone done tells inside owned created
    · exact tells _ refused place tracked created
    · exact (tells _ refused).2 (fun gone => Bool.false_ne_true (failed.symm.trans gone)) place
        tracked created

/-- A deletion pass whose cleanup calls are answered takes the finalizer off only when nothing
that was created is left. -/
theorem guarded_of_deletion
    (pass : Pass deployment (Interfered (answeringServer key)) key before experiment history after)
    (deleting : Deleting experiment) (placed : Placed key before)
    (records : ∀ place tracked, CreatedJob key before place tracked →
      place.2 ∈ (statusOf experiment).runnerJobs)
    (holds : HoldsFinalizer key before) : Guarded key after := by
  obtain ⟨object, stored, snapshot⟩ := pass.snapshot
  have inactive : ¬ Active experiment := fun active =>
    absurd (active.2.symm.trans deleting.2) Bool.false_ne_true
  let Keeps (history : History) (cluster : Cluster) : Prop :=
    Cleared key cluster ∨ (HoldsFinalizer key cluster ∧ Shrinks key before cluster ∧
      ∀ exchange ∈ history, Tells key cluster exchange)
  suffices kept : Keeps history after from kept.imp_right fun known => known.1
  refine pass.invariant (Or.inr ⟨holds, .refl before, fun _ member => nomatch member⟩) ?_
  intro earlier request middle answer next kept issued answered
  have advance := Interfered.advance (fun _ => answeringServer_within key _ _ _ _ _) answered
  have nothing := creates_nothing_of_idle (fun starting => inactive starting.1.1) issued
  have shrinks : Shrinks key middle next := .of_advance advance nothing.1 nothing.2
  rcases kept with cleared | ⟨holds, shrunk, tells⟩
  · exact Or.inl (shrinks.cleared cleared)
  · by_cases last : request = .removeFinalizer key.1 key.2
    · subst last
      exact Or.inl (shrinks.cleared
        (cleared_of_tells placed stored snapshot records issued.issues.releaseAsked shrunk tells))
    · refine Or.inr ⟨HoldsFinalizer.of_advance advance holds last, shrunk.trans shrinks, ?_⟩
      intro exchange member
      rcases List.mem_cons.mp member with rfl | member
      · obtain ⟨_, -, permitted, careful⟩ := answered
        exact tells_of_answered permitted (careful deleting)
      · exact shrinks.tells exchange (tells exchange member)

/-- Every turn keeps the guarantee. -/
theorem guarded_turn
    (turn : Turn deployment (answeringServer key) key (RecordsJobs key) before after)
    (placed : Placed key before) (guarded : Guarded key before) :
    Placed key after ∧ Guarded key after := by
  rcases turn with outside | ⟨experiment, history, pass, records⟩
  · refine ⟨placed_of_drift outside.drift placed, guarded.imp ?_ ?_⟩
    · exact (Shrinks.of_drift outside.drift).cleared
    · exact HoldsFinalizer.of_drift outside.drift
  · obtain ⟨object, stored, snapshot⟩ := pass.snapshot
    have handled := pass.handled (answeringServer_within key)
    refine ⟨placed_of_handled handled stored snapshot placed, ?_⟩
    by_cases missing : needsFinalizer experiment = true
    · have inactive : ¬ Active experiment := fun active =>
        absurd (active.1.symm.trans missing) Bool.false_ne_true
      have cleared : Cleared key before := guarded.resolve_right fun ⟨other, found, held⟩ => by
        rw [stored] at found
        obtain rfl := Option.some.inj found
        exact absurd ((snapshot.needsFinalizer_eq_false.mpr held).symm.trans missing)
          Bool.false_ne_true
      refine Or.inl ⟨fun place tracked created => ?_, fun place tracked created => ?_⟩
      · rcases handled.createdJob created with ⟨earlier, found⟩ | ⟨_, _, _, -, asked, -⟩
        · exact cleared.1 place earlier found
        · exact inactive asked.issues.jobAsked.starting.1.1
      · rcases handled.virtualService place tracked created.1 with found | ⟨_, _, _, -, asked, -⟩
        · exact cleared.2 place tracked ⟨found, created.2⟩
        · exact inactive asked.issues.serviceAsked.starting.1.1
    · have present : needsFinalizer experiment = false := by simpa using missing
      have holds : HoldsFinalizer key before :=
        ⟨object, stored, snapshot.needsFinalizer_eq_false.mp present⟩
      by_cases deleting : Deleting experiment
      · exact guarded_of_deletion pass deleting placed (records deleting) holds
      · exact Or.inr (holdsFinalizer_of_pass (answeringServer_within key) pass deleting holds)

end Guarantee

/-! ### The guarantee in every run -/

/-- In every state a run reaches, a Job or VirtualService that the operator created for an
experiment is there only while the experiment is there and carries the finalizer, when every
deletion pass begins with the created Jobs recorded and has its cleanup calls answered. -/
theorem finalizer_guards (deployment : Deployment) (key : ObjectKey) (initial final : Cluster)
    (untouchedJobs : ∀ place tracked, ¬ CreatedJob key initial place tracked)
    (untouchedServices : ∀ place tracked, ¬ CreatedService key initial place tracked)
    (run : ReflTransGen (Turn deployment (answeringServer key) key (RecordsJobs key)) initial
      final)
    (left : (∃ place tracked, CreatedJob key final place tracked) ∨
      ∃ place tracked, CreatedService key final place tracked) : HoldsFinalizer key final := by
  let Keeps (cluster : Cluster) : Prop := Placed key cluster ∧ Guarded key cluster
  have kept : Keeps final := by
    refine invariant_of_run run ⟨⟨?_, ?_⟩, Or.inl ⟨untouchedJobs, untouchedServices⟩⟩ ?_
    · exact fun place tracked created => absurd created (untouchedJobs place tracked)
    · exact fun place tracked created => absurd created (untouchedServices place tracked)
    · exact fun before after known turn => guarded_turn turn known.1 known.2
  refine kept.2.resolve_left fun cleared => ?_
  rcases left with ⟨place, tracked, created⟩ | ⟨place, tracked, created⟩
  · exact cleared.1 place tracked created
  · exact cleared.2 place tracked created

/-- The server at its best answers every cleanup call. -/
theorem sampleServer_answers (elapsed : Nat) (key : ObjectKey) :
    (sampleServer elapsed).Serves (answeringServer key) :=
  fun experiment request cluster => ⟨sampleServer_serves elapsed experiment request cluster,
    fun _ => cleanupAnswered_reply _ key cluster request⟩

/-- The cluster in which an experiment is being deleted. -/
def markDeleted (key : ObjectKey) (cluster : Cluster) : Cluster :=
  { cluster with
    experiments := requestDeletion cluster.experiments key "1970-01-01T00:00:10+00:00" }

/-- The cluster in which a running experiment with two Jobs has been marked for deletion. -/
def deletedRunning : Cluster :=
  markDeleted sampleKey (runPass sampleDeployment (sampleServer 0) sampleKey
    (sampleCluster [(sampleKey, samplePod)]))

/-- Its deletion pass begins with both Jobs recorded. -/
theorem recordsJobs_deletedRunning (experiment : ChaosExperiment) (history : History)
    (after : Cluster)
    (decoded : (deletedRunning.experiments.lookup sampleKey).bind (fun object =>
      object.snapshot sampleKey) = some experiment) :
    RecordsJobs sampleKey deletedRunning experiment history after := by
  intro _ place tracked created
  have recorded : ((deletedRunning.experiments.lookup sampleKey).bind fun object =>
      object.snapshot sampleKey).map (fun experiment => deletedRunning.jobs.listing.all
        fun entry => decide (entry.1.2 ∈ (statusOf experiment).runnerJobs)) = some true := by
    decide +kernel
  rw [decoded] at recorded
  have listed := (Store.mem_listing deletedRunning.jobs place tracked).mpr created.1
  exact of_decide_eq_true (List.all_eq_true.mp (Option.some.inj recorded) _ listed)

/-- A deletion pass that is cut off after its first call has deleted one of the two Jobs. The
other one is guarded. -/
theorem finalizer_guards_sample :
    (cutPass sampleDeployment (sampleServer 0) sampleKey 1 deletedRunning).jobs.listing.map
        (fun entry => entry.1.2) = ["chaos-runner-0b8f5c1e-node-b"] ∧
      HoldsFinalizer sampleKey
        (cutPass sampleDeployment (sampleServer 0) sampleKey 1 deletedRunning) := by
  refine ⟨by decide +kernel, ?_⟩
  obtain ⟨tracked, created⟩ : ∃ tracked, CreatedJob sampleKey
      (cutPass sampleDeployment (sampleServer 0) sampleKey 1 deletedRunning)
      ("chaos", "chaos-runner-0b8f5c1e-node-b") tracked :=
    createdJob_of_creator (by decide +kernel)
  refine finalizer_guards sampleDeployment sampleKey (sampleCluster [(sampleKey, samplePod)]) _
    (not_createdJob_sample _ sampleKey) (not_createdService_sample _ sampleKey) ?_
    (Or.inl ⟨_, tracked, created⟩)
  have unrecorded (experiment : ChaosExperiment) (history : History) (after : Cluster) :
      RecordsJobs sampleKey (sampleCluster [(sampleKey, samplePod)]) experiment history after :=
    fun _ place tracked created => absurd created (not_createdJob_sample _ _ place tracked)
  have deleted : ReflTransGen (Turn sampleDeployment (answeringServer sampleKey) sampleKey
      (RecordsJobs sampleKey)) (sampleCluster [(sampleKey, samplePod)]) deletedRunning :=
    (turn_runPass (sampleServer_answers 0 sampleKey) _
      fun experiment _ => unrecorded experiment _ _).tail
      (Or.inl (.deletion _ sampleKey "1970-01-01T00:00:10+00:00"))
  exact deleted.trans (turn_cutPass (sampleServer_answers 0 sampleKey) 1 deletedRunning
    recordsJobs_deletedRunning)

/-- A server that fails to delete Jobs. -/
def brokenDeletionServer : Server := fun experiment =>
  serveRefusing
    (fun request =>
      match request with
      | .deleteJob _ _ => some (.kube (.api 500 "unavailable"))
      | _ => none)
    sampleSurroundings (actorOf experiment)

theorem brokenDeletionServer_serves : brokenDeletionServer.Serves apiServer := by
  refine fun _ _ _ => permits_serveRefusing ?_ _ _ _ _
  intro request error refused
  cases request with
  | deleteJob ns name =>
    obtain rfl := Option.some.inj refused
    rfl
  | _ => cases refused

/-- A running experiment is deleted while no Job can be: its deletion pass takes the finalizer
off, and the Jobs stay behind. -/
theorem finalizer_released_early :
    ¬ ∀ (deployment : Deployment) (key : ObjectKey) (initial final : Cluster)
      (object : ExperimentObject), initial.experiments.lookup key = some object →
      object.status = .null →
      (∀ place tracked, ¬ CreatedJob key initial place tracked) →
      (∀ place tracked, ¬ CreatedService key initial place tracked) →
      ReflTransGen (Turn deployment apiServer key anyPass) initial final →
      ((∃ place tracked, CreatedJob key final place tracked) ∨
        ∃ place tracked, CreatedService key final place tracked) → HoldsFinalizer key final := by
  intro claim
  let running := runPass sampleDeployment (sampleServer 0) sampleKey
    (sampleCluster [(sampleKey, samplePod)])
  let final := runPass sampleDeployment brokenDeletionServer sampleKey
    (markDeleted sampleKey running)
  have run : ReflTransGen (Turn sampleDeployment apiServer sampleKey anyPass)
      (sampleCluster [(sampleKey, samplePod)]) final := by
    have started : ReflTransGen (Turn sampleDeployment apiServer sampleKey anyPass) _ running :=
      turn_runPass (sampleServer_serves 0) _ fun _ _ => trivial
    have marked := started.tail (Or.inl (.deletion running sampleKey "1970-01-01T00:00:10+00:00"))
    exact marked.trans (turn_runPass brokenDeletionServer_serves _ fun _ _ => trivial)
  obtain ⟨tracked, left⟩ : ∃ tracked, CreatedJob sampleKey final
      ("chaos", "chaos-runner-0b8f5c1e-node-a") tracked :=
    createdJob_of_creator (by decide +kernel)
  have released : (final.experiments.lookup sampleKey).isSome = false := by decide +kernel
  obtain ⟨object, stored, -⟩ := claim sampleDeployment sampleKey _ final samplePod rfl rfl
    (not_createdJob_sample _ sampleKey) (not_createdService_sample _ sampleKey) run
    (Or.inl ⟨_, tracked, left⟩)
  rw [stored] at released
  cases released

end ChimpChaos
