/-
This file models the cluster behind the API server: the stored experiments, the Jobs and the
VirtualServices, and what each call of a pass does to them.

`serve` is the server at its best: it answers from the cluster, a taken name is refused with
409 and a missing object with 404. `Permits` is the server as a pass may meet it: any call
may also be answered with an error, with or without having taken effect, except that a 404
on a deletion is only given for an object that is not there. `PermitsAny` lets in addition
every read be answered by anything.

Each Job and VirtualService is stored with the experiment on whose behalf the operator
created it, if it did. No call reads this mark; the theorems do.
-/

import ChimpChaos.Library.Store
import ChimpChaos.Operator.Reconciler

namespace ChimpChaos

open Library

/-! ### Stored objects -/

/-- The namespace and the name of an object. -/
abbrev ObjectKey : Type := String × String

/-- An experiment as the API server stores it. The status is a document, null when there
is none. -/
structure ExperimentObject where
  uid : String
  finalizers : Option (List String)
  deletionTimestamp : Option String
  spec : ChaosExperimentSpec
  status : Json
  deriving Repr

namespace ExperimentObject

/-- The experiment a reader decodes from a stored object. -/
def snapshot (key : ObjectKey) (object : ExperimentObject) : Option ChaosExperiment := do
  let status ←
    if object.status.isNull then some none
    else (ChaosExperimentStatus.parse object.status).map some
  return {
    metadata := {
      name := some key.2
      ns := some key.1
      uid := some object.uid
      finalizers := object.finalizers
      deletionTimestamp := object.deletionTimestamp }
    spec := object.spec
    status }

/-- A status write: the merge patch of the stored document. -/
def patchStatus (object : ExperimentObject) (status : ChaosExperimentStatus) : ExperimentObject :=
  { object with status := Json.mergePatch object.status status.toJson }

/-- A metadata write of the finalizers. A merge patch replaces the list as a whole. -/
def setFinalizers (object : ExperimentObject) (finalizers : List String) : ExperimentObject :=
  { object with finalizers := some finalizers }

end ExperimentObject

/-- A stored object with the experiment for which the operator created it, if it did. -/
structure Tracked (Value : Type) where
  value : Value
  creator : Option ObjectKey

structure Cluster where
  experiments : Store ObjectKey ExperimentObject
  jobs : Store ObjectKey (Tracked Job)
  virtualServices : Store ObjectKey (Tracked Json)
  clock : Int

/-- What a pass reads from outside the cluster. -/
structure Surroundings where
  targetNodes : Except OperatorError (List String)
  serviceSelector : Except OperatorError Labels
  resolvedEdge : Except OperatorError EdgeInfo
  elapsed : Nat
  experimentId : String

/-! ### The server at its best -/

def notFoundError : OperatorError := .kube (.api 404 "not found")

def alreadyExistsError : OperatorError := .kube (.api 409 "already exists")

/-- The key under which a Job is created. -/
def jobKey (ns : String) (job : Job) : ObjectKey := (ns, job.metadata.name.getD "")

/-- The key under which a VirtualService document is created. -/
def documentKey (ns : String) (document : Json) : ObjectKey :=
  (ns, (documentName document).getD "")

/-- Does a Job match an equality selector? -/
def matchesSelector (selector : String) (job : Job) : Bool :=
  (job.metadata.labels.getD []).any fun label => label.1 ++ "=" ++ label.2 == selector

/-- The answer of a creation under a key that is taken or free. -/
def creationAnswer (taken : Bool) : Except OperatorError Unit :=
  if taken then .error alreadyExistsError else .ok ()

/-- The answer of a request for an object that is there or not. -/
def presenceAnswer (present : Bool) : Except OperatorError Unit :=
  if present then .ok () else .error notFoundError

/-- The answer to a call. -/
def reply (surroundings : Surroundings) (cluster : Cluster) : (request : ApiCall) → Answer request
  | .createJob ns job => creationAnswer (cluster.jobs.lookup (jobKey ns job)).isSome
  | .listJobs ns labelSelector =>
    .ok ((cluster.jobs.listing.filter fun entry =>
      entry.1.1 = ns && matchesSelector labelSelector entry.2.value).map fun entry =>
        entry.2.value)
  | .deleteJob ns name => presenceAnswer (cluster.jobs.lookup (ns, name)).isSome
  | .listTargetNodes _ => surroundings.targetNodes
  | .getServiceSelector _ _ => surroundings.serviceSelector
  | .createVirtualService ns vsJson =>
    creationAnswer (cluster.virtualServices.lookup (documentKey ns vsJson)).isSome
  | .listVirtualServicesForHost ns _ =>
    -- the client lists the namespace and ignores the host
    .ok ((cluster.virtualServices.listing.filter fun entry => entry.1.1 = ns).map fun entry =>
      virtualServiceInfo entry.1.2 entry.2.value)
  | .deleteVirtualService ns name =>
    presenceAnswer (cluster.virtualServices.lookup (ns, name)).isSome
  | .patchExperimentStatus ns name _ =>
    presenceAnswer (cluster.experiments.lookup (ns, name)).isSome
  | .addFinalizer ns name => presenceAnswer (cluster.experiments.lookup (ns, name)).isSome
  | .removeFinalizer ns name => presenceAnswer (cluster.experiments.lookup (ns, name)).isSome
  | .resolveEdge _ _ _ => surroundings.resolvedEdge
  | .now => cluster.clock + surroundings.elapsed
  | .newExperimentId => surroundings.experimentId

/-- Take the finalizers off an experiment. An object that is being deleted goes away with its
last finalizer. -/
def releaseExperiment (experiments : Store ObjectKey ExperimentObject) (key : ObjectKey) :
    Store ObjectKey ExperimentObject :=
  match experiments.lookup key with
  | none => experiments
  | some object =>
    if object.deletionTimestamp.isSome then AList.erase key experiments
    else AList.insert key (object.setFinalizers []) experiments

/-- The cluster after a call made on behalf of an experiment. -/
def effect (surroundings : Surroundings) (actor : ObjectKey) (cluster : Cluster) :
    ApiCall → Cluster
  | .createJob ns job =>
    { cluster with jobs := cluster.jobs.create (jobKey ns job) ⟨job, some actor⟩ }
  | .deleteJob ns name => { cluster with jobs := AList.erase (ns, name) cluster.jobs }
  | .createVirtualService ns vsJson =>
    { cluster with
      virtualServices :=
        cluster.virtualServices.create (documentKey ns vsJson) ⟨vsJson, some actor⟩ }
  | .deleteVirtualService ns name =>
    { cluster with virtualServices := AList.erase (ns, name) cluster.virtualServices }
  | .patchExperimentStatus ns name status =>
    { cluster with
      experiments := cluster.experiments.update (ns, name) fun object => object.patchStatus status }
  | .addFinalizer ns name =>
    { cluster with
      experiments := cluster.experiments.update (ns, name) fun object =>
        object.setFinalizers [finalizerName] }
  | .removeFinalizer ns name =>
    { cluster with experiments := releaseExperiment cluster.experiments (ns, name) }
  | .now => { cluster with clock := cluster.clock + surroundings.elapsed }
  | _ => cluster

def serve (surroundings : Surroundings) (actor : ObjectKey) (request : ApiCall)
    (cluster : Cluster) : Answer request × Cluster :=
  (reply surroundings cluster request, effect surroundings actor cluster request)

/-! ### The server as a pass may meet it -/

/-- The answer that refuses a call with an error. The clock and the identifier source do not
refuse. -/
def refusal (error : OperatorError) : (request : ApiCall) → Option (Answer request)
  | .createJob .. => some (.error error)
  | .listJobs .. => some (.error error)
  | .deleteJob .. => some (.error error)
  | .listTargetNodes .. => some (.error error)
  | .getServiceSelector .. => some (.error error)
  | .createVirtualService .. => some (.error error)
  | .listVirtualServicesForHost .. => some (.error error)
  | .deleteVirtualService .. => some (.error error)
  | .patchExperimentStatus .. => some (.error error)
  | .addFinalizer .. => some (.error error)
  | .removeFinalizer .. => some (.error error)
  | .resolveEdge .. => some (.error error)
  | .now => none
  | .newExperimentId => none

/-- The server that refuses some calls without having done anything. -/
def serveRefusing (refuse : ApiCall → Option OperatorError) (surroundings : Surroundings)
    (actor : ObjectKey) (request : ApiCall) (cluster : Cluster) : Answer request × Cluster :=
  match (refuse request).bind fun error => refusal error request with
  | some answer => (answer, cluster)
  | none => serve surroundings actor request cluster

/-- Does a call delete an object that is there? -/
def deletesPresent (cluster : Cluster) : ApiCall → Bool
  | .deleteJob ns name => (cluster.jobs.lookup (ns, name)).isSome
  | .deleteVirtualService ns name => (cluster.virtualServices.lookup (ns, name)).isSome
  | _ => false

/-- Does a call only read? -/
def ApiCall.reads : ApiCall → Bool
  | .listJobs .. | .listTargetNodes .. | .getServiceSelector .. | .listVirtualServicesForHost ..
  | .resolveEdge .. | .newExperimentId => true
  | _ => false

/-- A call is answered from the cluster, or refused with an error. A refused call may have
taken effect all the same. A refusal with 404 tells the truth about a deletion. -/
def Permits (actor : ObjectKey) (request : ApiCall) (before : Cluster) (answer : Answer request)
    (after : Cluster) : Prop :=
  ∃ surroundings : Surroundings,
    (answer = reply surroundings before request ∧
        after = effect surroundings actor before request) ∨
      ∃ error, refusal error request = some answer ∧
        (isNotFound error = true → deletesPresent before request = false) ∧
        (after = before ∨ after = effect surroundings actor before request)

/-- As `Permits`, and every read may be answered by anything. -/
def PermitsAny (actor : ObjectKey) (request : ApiCall) (before : Cluster)
    (answer : Answer request) (after : Cluster) : Prop :=
  Permits actor request before answer after ∨ (request.reads = true ∧ after = before)

/-- An answer is one of the refusals of its call. -/
def IsRefusal (request : ApiCall) (answer : Answer request) : Prop :=
  ∃ error, refusal error request = some answer

/-- A call is refused and changes nothing, or it takes effect and is answered by anything else. -/
def RefusesOrWorks (actor : ObjectKey) (request : ApiCall) (before : Cluster)
    (answer : Answer request) (after : Cluster) : Prop :=
  IsRefusal request answer ∧ after = before ∨
    ¬ IsRefusal request answer ∧
      ∃ surroundings, after = effect surroundings actor before request

/-! ### What a permitted call can do -/

section Effects

variable {actor : ObjectKey} {request : ApiCall} {before after : Cluster}
  {answer : Answer request}

/-- A permitted call takes its effect or none. -/
theorem Permits.after_eq (permitted : Permits actor request before answer after) :
    after = before ∨ ∃ surroundings, after = effect surroundings actor before request := by
  obtain ⟨surroundings, ⟨-, done⟩ | ⟨error, -, -, unchanged | done⟩⟩ := permitted
  · exact Or.inr ⟨surroundings, done⟩
  · exact Or.inl unchanged
  · exact Or.inr ⟨surroundings, done⟩

theorem PermitsAny.after_eq (permitted : PermitsAny actor request before answer after) :
    after = before ∨ ∃ surroundings, after = effect surroundings actor before request := by
  rcases permitted with permitted | ⟨-, unchanged⟩
  · exact permitted.after_eq
  · exact Or.inl unchanged

theorem Permits.any (permitted : Permits actor request before answer after) :
    PermitsAny actor request before answer after := Or.inl permitted

theorem permits_serve (surroundings : Surroundings) (actor : ObjectKey) (request : ApiCall)
    (cluster : Cluster) :
    Permits actor request cluster (serve surroundings actor request cluster).1
      (serve surroundings actor request cluster).2 :=
  ⟨surroundings, Or.inl ⟨rfl, rfl⟩⟩

/-- Refusals other than 404 are permitted. -/
theorem permits_serveRefusing {refuse : ApiCall → Option OperatorError}
    (honest : ∀ request error, refuse request = some error → isNotFound error = false)
    (surroundings : Surroundings) (actor : ObjectKey) (request : ApiCall) (cluster : Cluster) :
    Permits actor request cluster (serveRefusing refuse surroundings actor request cluster).1
      (serveRefusing refuse surroundings actor request cluster).2 := by
  unfold serveRefusing
  cases refused : (refuse request).bind fun error => refusal error request with
  | none => exact permits_serve surroundings actor request cluster
  | some answer =>
    obtain ⟨error, chosen, told⟩ := Option.bind_eq_some_iff.mp refused
    refine ⟨surroundings, Or.inr ⟨error, told, fun missing => ?_, Or.inl rfl⟩⟩
    rw [honest request error chosen] at missing
    cases missing

/-- The clock never goes back, and a reading is the time at which it is taken. -/
theorem PermitsAny.now {answer : Answer .now}
    (permitted : PermitsAny actor .now before answer after) :
    before.clock ≤ answer ∧ after = { before with clock := answer } := by
  rcases permitted with ⟨surroundings, ⟨told, done⟩ | ⟨error, refused, -, -⟩⟩ | ⟨reads, -⟩
  · subst told
    exact ⟨Int.le_add_of_nonneg_right (Int.natCast_nonneg _), done⟩
  · exact absurd refused (by simp [refusal])
  · exact absurd reads (by simp [ApiCall.reads])

end Effects

/-! ### Refusals of the server at its best -/

section Refusals

variable {actor : ObjectKey} {request : ApiCall}

theorem releaseExperiment_of_absent {experiments : Store ObjectKey ExperimentObject}
    {key : ObjectKey} (absent : experiments.lookup key = none) :
    releaseExperiment experiments key = experiments := by
  rw [releaseExperiment, absent]

/-- A creation is refused under a taken name, and a request for an object that is not there. -/
theorem effect_of_isRefusal {surroundings : Surroundings} {cluster : Cluster}
    (refused : IsRefusal request (reply surroundings cluster request)) :
    effect surroundings actor cluster request = cluster := by
  have taken {Value : Type} {store : Store ObjectKey Value} {key : ObjectKey}
      (refused : ∃ error, some (.error error) =
        some (creationAnswer (store.lookup key).isSome)) (value : Value) :
      store.create key value = store := by
    cases present : (store.lookup key).isSome with
    | true => rw [Store.create, if_pos present]
    | false =>
      rw [present] at refused
      obtain ⟨error, same⟩ := refused
      cases same
  have absent {Value : Type} {store : Store ObjectKey Value} {key : ObjectKey}
      (refused : ∃ error, some (.error error) =
        some (presenceAnswer (store.lookup key).isSome)) : store.lookup key = none := by
    cases present : store.lookup key with
    | none => rfl
    | some value =>
      rw [present] at refused
      obtain ⟨error, same⟩ := refused
      cases same
  cases request with
  | createJob ns job => simp only [effect, taken refused]
  | createVirtualService ns document => simp only [effect, taken refused]
  | deleteJob ns name => simp only [effect, Store.erase_of_absent (absent refused)]
  | deleteVirtualService ns name => simp only [effect, Store.erase_of_absent (absent refused)]
  | patchExperimentStatus ns name status =>
    simp only [effect, Store.update_of_absent (absent refused)]
  | addFinalizer ns name => simp only [effect, Store.update_of_absent (absent refused)]
  | removeFinalizer ns name => simp only [effect, releaseExperiment_of_absent (absent refused)]
  | now =>
    obtain ⟨error, same⟩ := refused
    cases same
  | _ => rfl

theorem refusesOrWorks_serve (surroundings : Surroundings) (actor : ObjectKey) (request : ApiCall)
    (cluster : Cluster) :
    RefusesOrWorks actor request cluster (serve surroundings actor request cluster).1
      (serve surroundings actor request cluster).2 := by
  by_cases refused : IsRefusal request (reply surroundings cluster request)
  · exact Or.inl ⟨refused, effect_of_isRefusal refused⟩
  · exact Or.inr ⟨refused, surroundings, rfl⟩

theorem refusesOrWorks_serveRefusing (refuse : ApiCall → Option OperatorError)
    (surroundings : Surroundings) (actor : ObjectKey) (request : ApiCall) (cluster : Cluster) :
    RefusesOrWorks actor request cluster (serveRefusing refuse surroundings actor request cluster).1
      (serveRefusing refuse surroundings actor request cluster).2 := by
  unfold serveRefusing
  cases refused : (refuse request).bind fun error => refusal error request with
  | none => exact refusesOrWorks_serve surroundings actor request cluster
  | some answer =>
    obtain ⟨error, -, told⟩ := Option.bind_eq_some_iff.mp refused
    exact Or.inl ⟨⟨error, told⟩, rfl⟩

/-- A program run to its end against a server that refuses some calls. -/
theorem reaches_refusing {Value : Type} (refuse : ApiCall → Option OperatorError)
    (surroundings : Surroundings) (actor : ObjectKey) (program : Handler Value)
    (cluster : Cluster) :
    Program.Reaches (RefusesOrWorks actor) program cluster
      (program.transcript (serveRefusing refuse surroundings actor) cluster)
      (program.exec (serveRefusing refuse surroundings actor) cluster).1.remaining
      (program.exec (serveRefusing refuse surroundings actor) cluster).2 :=
  Program.reaches_serving (refusesOrWorks_serveRefusing refuse surroundings actor) program cluster

end Refusals

end ChimpChaos
