/-
This file says once what can happen to the cluster between two answers of a pass.

`Outside` is what others do: a user asks for a deletion, time passes, Jobs report progress,
objects go away. `Interfered` puts any of that in front of a call. `Advance` collects what
both together can make of a stored experiment, a Job, a VirtualService and the clock; every
invariant of a run is derived from it.
-/

import ChimpChaos.Cluster.ApiServer
import Mathlib.Logic.Relation

namespace ChimpChaos

open Library Relation

/-! ### What others do -/

/-- Does an object hold a finalizer? -/
def ExperimentObject.isHeld (object : ExperimentObject) : Bool :=
  !(object.finalizers.getD []).isEmpty

/-- A user's request to delete an experiment. An object without finalizers goes away at once,
any other is marked, and a mark stays as it is. -/
def requestDeletion (experiments : Store ObjectKey ExperimentObject) (key : ObjectKey)
    (timestamp : String) : Store ObjectKey ExperimentObject :=
  match experiments.lookup key with
  | none => experiments
  | some object =>
    if object.isHeld then
      AList.insert key
        { object with deletionTimestamp := some (object.deletionTimestamp.getD timestamp) }
        experiments
    else AList.erase key experiments

/-- A step of somebody other than the operator. -/
inductive Outside : Cluster → Cluster → Prop
  | deletion (cluster : Cluster) (key : ObjectKey) (timestamp : String) :
      Outside cluster
        { cluster with experiments := requestDeletion cluster.experiments key timestamp }
  | jobGone (cluster : Cluster) (key : ObjectKey) :
      Outside cluster { cluster with jobs := AList.erase key cluster.jobs }
  | jobProgress (cluster : Cluster) (key : ObjectKey) (status : Option JobStatus) :
      Outside cluster
        { cluster with
          jobs := cluster.jobs.update key fun tracked =>
            { tracked with value := { tracked.value with status } } }
  | virtualServiceGone (cluster : Cluster) (key : ObjectKey) :
      Outside cluster { cluster with virtualServices := AList.erase key cluster.virtualServices }
  | time (cluster : Cluster) (elapsed : Nat) :
      Outside cluster { cluster with clock := cluster.clock + elapsed }

/-- How calls made for a snapshot are answered. -/
abbrev Service : Type :=
  ChaosExperiment → (request : ApiCall) → Cluster → Answer request → Cluster → Prop

/-- The experiment a pass works for. -/
def actorOf (experiment : ChaosExperiment) : ObjectKey :=
  (expNamespace experiment, expName experiment)

/-- A service in a cluster in which others act before each call. -/
def Interfered (service : Service) : Service := fun experiment request before answer after =>
  ∃ middle, ReflTransGen Outside before middle ∧ service experiment request middle answer after

/-- The API server with truthful listings. -/
def apiServer : Service := fun experiment => Permits (actorOf experiment)

/-- The API server with reads answered by anything. -/
def anyListings : Service := fun experiment => PermitsAny (actorOf experiment)

/-! ### What becomes of a stored experiment -/

/-- What a call makes of the experiment stored under a key. -/
inductive Rewrites (key : ObjectKey) (object : ExperimentObject) :
    ApiCall → ExperimentObject → Prop
  | kept (request : ApiCall) : Rewrites key object request object
  | patched (status : ChaosExperimentStatus) :
      Rewrites key object (.patchExperimentStatus key.1 key.2 status) (object.patchStatus status)
  | marked : Rewrites key object (.addFinalizer key.1 key.2) (object.setFinalizers [finalizerName])
  | released (alive : object.deletionTimestamp = none) :
      Rewrites key object (.removeFinalizer key.1 key.2) (object.setFinalizers [])

/-- A deletion mark is set at most once. -/
def Marked (object : ExperimentObject) (timestamp : Option String) : Prop :=
  object.deletionTimestamp.isSome = true → timestamp = object.deletionTimestamp

/-- A Job with the mark of who created it, up to the progress it reports. -/
def SameJob (first second : Tracked Job) : Prop :=
  first.creator = second.creator ∧ first.value.metadata = second.value.metadata ∧
    first.value.spec = second.value.spec

theorem SameJob.refl (job : Tracked Job) : SameJob job job := ⟨rfl, rfl, rfl⟩

theorem SameJob.trans {first second third : Tracked Job} (left : SameJob first second)
    (right : SameJob second third) : SameJob first third :=
  ⟨left.1.trans right.1, left.2.1.trans right.2.1, left.2.2.trans right.2.2⟩

/-- What becomes of a cluster while others act. -/
structure Drift (before after : Cluster) : Prop where
  clock : before.clock ≤ after.clock
  object : ∀ key object', after.experiments.lookup key = some object' →
    ∃ object timestamp, before.experiments.lookup key = some object ∧ Marked object timestamp ∧
      object' = { object with deletionTimestamp := timestamp }
  held : ∀ key object, before.experiments.lookup key = some object → object.isHeld = true →
    ∃ object', after.experiments.lookup key = some object'
  job : ∀ key tracked, after.jobs.lookup key = some tracked →
    ∃ earlier, before.jobs.lookup key = some earlier ∧ SameJob earlier tracked
  virtualService : ∀ key tracked, after.virtualServices.lookup key = some tracked →
    before.virtualServices.lookup key = some tracked

theorem Drift.refl (cluster : Cluster) : Drift cluster cluster where
  clock := le_refl _
  object := fun _ object found => ⟨object, object.deletionTimestamp, found, fun _ => rfl, rfl⟩
  held := fun _ object found _ => ⟨object, found⟩
  job := fun _ tracked found => ⟨tracked, found, SameJob.refl tracked⟩
  virtualService := fun _ _ found => found

theorem Drift.trans {first second third : Cluster} (left : Drift first second)
    (right : Drift second third) : Drift first third where
  clock := left.clock.trans right.clock
  object := fun key object' found => by
    obtain ⟨middle, later, foundMiddle, keptLater, rfl⟩ := right.object key object' found
    obtain ⟨object, earlier, foundFirst, kept, rfl⟩ := left.object key middle foundMiddle
    refine ⟨object, later, foundFirst, fun marked => ?_, rfl⟩
    have same := kept marked
    rw [← same]
    exact keptLater (by rw [same]; exact marked)
  held := fun key object found held => by
    obtain ⟨middle, foundMiddle⟩ := left.held key object found held
    obtain ⟨origin, timestamp, foundOrigin, -, same⟩ := left.object key middle foundMiddle
    rw [found] at foundOrigin
    obtain rfl := Option.some.inj foundOrigin
    refine right.held key middle foundMiddle ?_
    rw [same]
    exact held
  job := fun key tracked found => by
    obtain ⟨middle, foundMiddle, sameLater⟩ := right.job key tracked found
    obtain ⟨earlier, foundFirst, sameEarlier⟩ := left.job key middle foundMiddle
    exact ⟨earlier, foundFirst, sameEarlier.trans sameLater⟩
  virtualService := fun key tracked found =>
    left.virtualService key tracked (right.virtualService key tracked found)

theorem drift_deletion (cluster : Cluster) (key : ObjectKey) (timestamp : String) :
    Drift cluster
      { cluster with experiments := requestDeletion cluster.experiments key timestamp } := by
  refine { Drift.refl cluster with object := ?_, held := ?_ }
  · intro other object' found
    change (requestDeletion cluster.experiments key timestamp).lookup other = _ at found
    unfold requestDeletion at found
    cases stored : cluster.experiments.lookup key with
    | none =>
      rw [stored] at found
      exact ⟨object', object'.deletionTimestamp, found, fun _ => rfl, rfl⟩
    | some object =>
      rw [stored] at found
      simp only at found
      split_ifs at found with held
      · by_cases same : other = key
        · subst same
          rw [AList.lookup_insert] at found
          obtain rfl := Option.some.inj found
          refine ⟨object, _, stored, fun marked => ?_, rfl⟩
          obtain ⟨mark, isMark⟩ := Option.isSome_iff_exists.mp marked
          rw [isMark, Option.getD_some]
        · rw [AList.lookup_insert_ne same] at found
          exact ⟨object', object'.deletionTimestamp, found, fun _ => rfl, rfl⟩
      · rw [Store.lookup_erase_ite] at found
        split_ifs at found
        exact ⟨object', object'.deletionTimestamp, found, fun _ => rfl, rfl⟩
  · intro other object found held
    show ∃ object', (requestDeletion cluster.experiments key timestamp).lookup other = _
    unfold requestDeletion
    cases stored : cluster.experiments.lookup key with
    | none => exact ⟨object, found⟩
    | some marked =>
      simp only
      by_cases same : other = key
      · subst same
        rw [stored] at found
        obtain rfl := Option.some.inj found
        rw [if_pos held]
        exact ⟨_, AList.lookup_insert _⟩
      · refine ⟨object, ?_⟩
        split_ifs
        · rw [AList.lookup_insert_ne same]
          exact found
        · rw [AList.lookup_erase_ne same]
          exact found

theorem drift_jobProgress (cluster : Cluster) (key : ObjectKey) (status : Option JobStatus) :
    Drift cluster
      { cluster with
        jobs := cluster.jobs.update key fun tracked =>
          { tracked with value := { tracked.value with status } } } := by
  refine { Drift.refl cluster with job := ?_ }
  intro other tracked found
  change (cluster.jobs.update key _).lookup other = _ at found
  rw [Store.lookup_update] at found
  split_ifs at found with same
  · subst same
    obtain ⟨earlier, foundEarlier, rfl⟩ := Option.map_eq_some_iff.mp found
    exact ⟨earlier, foundEarlier, rfl, rfl, rfl⟩
  · exact ⟨tracked, found, SameJob.refl tracked⟩

/-- A lookup after an erasure is a lookup before it. -/
theorem lookup_of_lookup_erase {Value : Type} {store : Store ObjectKey Value}
    {key other : ObjectKey} {value : Value}
    (found : AList.lookup other (AList.erase key store) = some value) :
    store.lookup other = some value := by
  rw [Store.lookup_erase_ite] at found
  split_ifs at found
  exact found

theorem Outside.drift {before after : Cluster} (step : Outside before after) :
    Drift before after := by
  cases step with
  | deletion key timestamp => exact drift_deletion _ key timestamp
  | jobGone key =>
    refine { Drift.refl before with job := fun other tracked found => ?_ }
    exact ⟨tracked, lookup_of_lookup_erase found, SameJob.refl tracked⟩
  | jobProgress key status => exact drift_jobProgress _ key status
  | virtualServiceGone key =>
    exact { Drift.refl before with virtualService := fun _ _ => lookup_of_lookup_erase }
  | time elapsed =>
    exact { Drift.refl before with
      clock := Int.le_add_of_nonneg_right (Int.natCast_nonneg _) }

theorem drift_of_outside {before after : Cluster} (steps : ReflTransGen Outside before after) :
    Drift before after := by
  induction steps with
  | refl => exact Drift.refl before
  | tail _ step inductionHypothesis => exact inductionHypothesis.trans step.drift

/-! ### What a call makes of the cluster -/

/-- What becomes of a cluster by one call made for an experiment. -/
structure Advance (actor : ObjectKey) (request : ApiCall) (before after : Cluster) : Prop where
  clock : before.clock ≤ after.clock
  object : ∀ key object', after.experiments.lookup key = some object' →
    ∃ object timestamp, before.experiments.lookup key = some object ∧ Marked object timestamp ∧
      Rewrites key { object with deletionTimestamp := timestamp } request object'
  held : ∀ key object, before.experiments.lookup key = some object → object.isHeld = true →
    (∃ object', after.experiments.lookup key = some object') ∨
      request = .removeFinalizer key.1 key.2
  job : ∀ key tracked, after.jobs.lookup key = some tracked →
    (∃ earlier, before.jobs.lookup key = some earlier ∧ SameJob earlier tracked) ∨
      ∃ ns job, request = .createJob ns job ∧ key = jobKey ns job ∧ tracked = ⟨job, some actor⟩
  virtualService : ∀ key tracked, after.virtualServices.lookup key = some tracked →
    before.virtualServices.lookup key = some tracked ∨
      ∃ ns document, request = .createVirtualService ns document ∧
        key = documentKey ns document ∧ tracked = ⟨document, some actor⟩

theorem advance_of_drift {before after : Cluster} (actor : ObjectKey) (request : ApiCall)
    (drift : Drift before after) : Advance actor request before after where
  clock := drift.clock
  object := fun key object' found => by
    obtain ⟨object, timestamp, stored, marked, rfl⟩ := drift.object key object' found
    exact ⟨object, timestamp, stored, marked, .kept request⟩
  held := fun key object found held => Or.inl (drift.held key object found held)
  job := fun key tracked found => Or.inl (drift.job key tracked found)
  virtualService := fun key tracked found => Or.inl (drift.virtualService key tracked found)

theorem Advance.after_drift {actor : ObjectKey} {request : ApiCall}
    {first second third : Cluster} (drift : Drift first second)
    (advance : Advance actor request second third) : Advance actor request first third where
  clock := drift.clock.trans advance.clock
  object := fun key object' found => by
    obtain ⟨middle, later, foundMiddle, keptLater, rewrites⟩ := advance.object key object' found
    obtain ⟨object, earlier, foundFirst, kept, rfl⟩ := drift.object key middle foundMiddle
    refine ⟨object, later, foundFirst, fun marked => ?_, rewrites⟩
    have same := kept marked
    rw [← same]
    exact keptLater (by rw [same]; exact marked)
  held := fun key object found held => by
    obtain ⟨middle, foundMiddle⟩ := drift.held key object found held
    obtain ⟨origin, timestamp, foundOrigin, -, same⟩ := drift.object key middle foundMiddle
    rw [found] at foundOrigin
    obtain rfl := Option.some.inj foundOrigin
    refine advance.held key middle foundMiddle ?_
    rw [same]
    exact held
  job := fun key tracked found => by
    rcases advance.job key tracked found with ⟨middle, foundMiddle, sameLater⟩ | created
    · obtain ⟨earlier, foundFirst, sameEarlier⟩ := drift.job key middle foundMiddle
      exact Or.inl ⟨earlier, foundFirst, sameEarlier.trans sameLater⟩
    · exact Or.inr created
  virtualService := fun key tracked found =>
    (advance.virtualService key tracked found).imp_left (drift.virtualService key tracked)

theorem Advance.ofParts {actor : ObjectKey} {request : ApiCall} {before after : Cluster}
    (object : ∀ key object', after.experiments.lookup key = some object' →
      ∃ object, before.experiments.lookup key = some object ∧ Rewrites key object request object')
    (held : ∀ key object, before.experiments.lookup key = some object →
      (∃ object', after.experiments.lookup key = some object') ∨
        request = .removeFinalizer key.1 key.2)
    (jobs : after.jobs = before.jobs) (services : after.virtualServices = before.virtualServices)
    (clock : after.clock = before.clock) : Advance actor request before after where
  clock := le_of_eq clock.symm
  object := fun key object' found => by
    obtain ⟨object, stored, rewrites⟩ := object key object' found
    exact ⟨object, object.deletionTimestamp, stored, fun _ => rfl, rewrites⟩
  held := fun key object found _ => held key object found
  job := fun key tracked found =>
    Or.inl ⟨tracked, by rw [← jobs]; exact found, SameJob.refl tracked⟩
  virtualService := fun key tracked found => Or.inl (by rw [← services]; exact found)

/-- A write to one stored experiment. -/
theorem advance_update (actor : ObjectKey) (request : ApiCall) (cluster : Cluster)
    (target : ObjectKey) (change : ExperimentObject → ExperimentObject)
    (rewrites : ∀ object, Rewrites target object request (change object)) :
    Advance actor request cluster
      { cluster with experiments := cluster.experiments.update target change } := by
  refine .ofParts ?_ ?_ rfl rfl rfl
  · intro key object' found
    change (cluster.experiments.update target change).lookup key = _ at found
    rw [Store.lookup_update] at found
    split_ifs at found with same
    · subst same
      obtain ⟨object, stored, rfl⟩ := Option.map_eq_some_iff.mp found
      exact ⟨object, stored, rewrites object⟩
    · exact ⟨object', found, .kept request⟩
  · intro key object found
    refine Or.inl ?_
    show ∃ object', (cluster.experiments.update target change).lookup key = _
    rw [Store.lookup_update]
    split_ifs with same
    · subst same
      exact ⟨change object, by rw [found, Option.map_some]⟩
    · exact ⟨object, found⟩

/-- Taking the finalizers off a stored experiment. -/
theorem advance_release (actor : ObjectKey) (cluster : Cluster) (target : ObjectKey) :
    Advance actor (.removeFinalizer target.1 target.2) cluster
      { cluster with experiments := releaseExperiment cluster.experiments target } := by
  refine .ofParts ?_ ?_ rfl rfl rfl
  · intro key object' found
    change (releaseExperiment cluster.experiments target).lookup key = _ at found
    unfold releaseExperiment at found
    cases stored : cluster.experiments.lookup target with
    | none =>
      rw [stored] at found
      exact ⟨object', found, .kept _⟩
    | some object =>
      rw [stored] at found
      simp only at found
      split_ifs at found with deleted
      · exact ⟨object', lookup_of_lookup_erase found, .kept _⟩
      · by_cases same : key = target
        · subst same
          rw [AList.lookup_insert] at found
          obtain rfl := Option.some.inj found
          exact ⟨object, stored, .released (by simpa using deleted)⟩
        · rw [AList.lookup_insert_ne same] at found
          exact ⟨object', found, .kept _⟩
  · intro key object found
    by_cases same : key = target
    · exact Or.inr (by rw [same])
    · refine Or.inl ⟨object, ?_⟩
      show (releaseExperiment cluster.experiments target).lookup key = _
      unfold releaseExperiment
      cases cluster.experiments.lookup target with
      | none => exact found
      | some other =>
        simp only
        split_ifs
        · rw [AList.lookup_erase_ne same]
          exact found
        · rw [AList.lookup_insert_ne same]
          exact found

theorem advance_createJob (actor : ObjectKey) (cluster : Cluster) (ns : String) (job : Job) :
    Advance actor (.createJob ns job) cluster
      { cluster with jobs := cluster.jobs.create (jobKey ns job) ⟨job, some actor⟩ } := by
  refine { advance_of_drift actor _ (Drift.refl cluster) with job := fun key tracked found => ?_ }
  change (cluster.jobs.create _ _).lookup key = _ at found
  rw [Store.lookup_create] at found
  split_ifs at found with same
  · cases held : cluster.jobs.lookup (jobKey ns job) with
    | none =>
      rw [held] at found
      exact Or.inr ⟨ns, job, rfl, same, (Option.some.inj found).symm⟩
    | some earlier =>
      rw [held] at found
      obtain rfl := Option.some.inj found
      exact Or.inl ⟨earlier, by rw [same, held], SameJob.refl _⟩
  · exact Or.inl ⟨tracked, found, SameJob.refl tracked⟩

theorem advance_createVirtualService (actor : ObjectKey) (cluster : Cluster) (ns : String)
    (document : Json) :
    Advance actor (.createVirtualService ns document) cluster
      { cluster with
        virtualServices :=
          cluster.virtualServices.create (documentKey ns document) ⟨document, some actor⟩ } := by
  refine { advance_of_drift actor _ (Drift.refl cluster) with
    virtualService := fun key tracked found => ?_ }
  change (cluster.virtualServices.create _ _).lookup key = _ at found
  rw [Store.lookup_create] at found
  split_ifs at found with same
  · cases held : cluster.virtualServices.lookup (documentKey ns document) with
    | none =>
      rw [held] at found
      exact Or.inr ⟨ns, document, rfl, same, (Option.some.inj found).symm⟩
    | some earlier =>
      rw [held] at found
      obtain rfl := Option.some.inj found
      exact Or.inl (by rw [same, held]; rfl)
  · exact Or.inl found

/-- The effect of a call is an advance. -/
theorem advance_effect (surroundings : Surroundings) (actor : ObjectKey) (cluster : Cluster)
    (request : ApiCall) :
    Advance actor request cluster (effect surroundings actor cluster request) := by
  have still := advance_of_drift actor request (Drift.refl cluster)
  cases request with
  | createJob ns job => exact advance_createJob actor cluster ns job
  | deleteJob ns name => exact advance_of_drift _ _ (Outside.jobGone cluster (ns, name)).drift
  | createVirtualService ns document =>
    exact advance_createVirtualService actor cluster ns document
  | deleteVirtualService ns name =>
    exact advance_of_drift _ _ (Outside.virtualServiceGone cluster (ns, name)).drift
  | patchExperimentStatus ns name status =>
    exact advance_update _ _ _ (ns, name) _ fun _ => .patched status
  | addFinalizer ns name => exact advance_update _ _ _ (ns, name) _ fun _ => .marked
  | removeFinalizer ns name => exact advance_release _ _ (ns, name)
  | now => exact advance_of_drift _ _ (Outside.time cluster surroundings.elapsed).drift
  | _ => exact still

theorem PermitsAny.advance {actor : ObjectKey} {request : ApiCall} {before after : Cluster}
    {answer : Answer request} (permitted : PermitsAny actor request before answer after) :
    Advance actor request before after := by
  rcases permitted.after_eq with rfl | ⟨surroundings, rfl⟩
  · exact advance_of_drift _ _ (Drift.refl after)
  · exact advance_effect _ _ _ _

theorem RefusesOrWorks.advance {actor : ObjectKey} {request : ApiCall} {before after : Cluster}
    {answer : Answer request} (answered : RefusesOrWorks actor request before answer after) :
    Advance actor request before after := by
  rcases answered with ⟨-, rfl⟩ | ⟨-, surroundings, rfl⟩
  · exact advance_of_drift _ _ (Drift.refl after)
  · exact advance_effect _ _ _ _

/-- What an interfered service does when the service itself does what `PermitsAny` lets it. -/
theorem Interfered.advance {service : Service} {experiment : ChaosExperiment}
    {request : ApiCall} {before after : Cluster} {answer : Answer request}
    (within : ∀ middle, service experiment request middle answer after →
      PermitsAny (actorOf experiment) request middle answer after)
    (answered : Interfered service experiment request before answer after) :
    Advance (actorOf experiment) request before after := by
  obtain ⟨middle, steps, served⟩ := answered
  exact (within middle served).advance.after_drift (drift_of_outside steps)

/-- A reading of the clock lies between the two states around it. -/
theorem Interfered.reading {service : Service} {experiment : ChaosExperiment}
    {before after : Cluster} {time : Answer .now}
    (within : ∀ middle, service experiment .now middle time after →
      PermitsAny (actorOf experiment) .now middle time after)
    (answered : Interfered service experiment .now before time after) :
    before.clock ≤ time ∧ time ≤ after.clock := by
  obtain ⟨middle, steps, served⟩ := answered
  obtain ⟨later, rfl⟩ := (within middle served).now
  exact ⟨(drift_of_outside steps).clock.trans later, le_refl _⟩

/-! ### What a call leaves in place -/

/-- The effect of a call takes away no Job but the one it deletes. -/
theorem effect_job_kept {surroundings : Surroundings} {actor : ObjectKey} {request : ApiCall}
    {cluster : Cluster} {place : ObjectKey} {tracked : Tracked Job}
    (found : cluster.jobs.lookup place = some tracked)
    (other : request ≠ .deleteJob place.1 place.2) :
    (effect surroundings actor cluster request).jobs.lookup place = some tracked := by
  cases request with
  | createJob ns job =>
    show (cluster.jobs.create _ _).lookup place = _
    rw [Store.lookup_create]
    split_ifs with same
    · rw [← same, found, Option.getD_some]
    · exact found
  | deleteJob ns name =>
    show (AList.erase (ns, name) cluster.jobs).lookup place = _
    rw [AList.lookup_erase_ne]
    · exact found
    · rintro rfl
      exact other rfl
  | _ => exact found

/-- A call takes away no Job but the one it deletes. -/
theorem Permits.job_kept {actor : ObjectKey} {request : ApiCall} {before after : Cluster}
    {answer : Answer request} (permitted : Permits actor request before answer after)
    {place : ObjectKey} {tracked : Tracked Job}
    (found : before.jobs.lookup place = some tracked)
    (other : request ≠ .deleteJob place.1 place.2) : after.jobs.lookup place = some tracked := by
  rcases permitted.after_eq with rfl | ⟨surroundings, rfl⟩
  · exact found
  · exact effect_job_kept found other

/-- A call takes away no VirtualService but the one it deletes. -/
theorem Permits.service_kept {actor : ObjectKey} {request : ApiCall} {before after : Cluster}
    {answer : Answer request} (permitted : Permits actor request before answer after)
    {place : ObjectKey} {tracked : Tracked Json}
    (found : before.virtualServices.lookup place = some tracked)
    (other : request ≠ .deleteVirtualService place.1 place.2) :
    after.virtualServices.lookup place = some tracked := by
  rcases permitted.after_eq with rfl | ⟨surroundings, rfl⟩
  · exact found
  · cases request with
    | createVirtualService ns document =>
      show (before.virtualServices.create _ _).lookup place = _
      rw [Store.lookup_create]
      split_ifs with same
      · rw [← same, found, Option.getD_some]
      · exact found
    | deleteVirtualService ns name =>
      show (AList.erase (ns, name) before.virtualServices).lookup place = _
      rw [AList.lookup_erase_ne]
      · exact found
      · rintro rfl
        exact other rfl
    | _ => exact found

end ChimpChaos
