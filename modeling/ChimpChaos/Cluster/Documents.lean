/-
This file models the API server as the client meets it: experiments are stored as documents, and
each request reads or patches a document as a whole.

The status of an experiment is a subresource. A patch of the status leaves the rest of the document
alone, a patch of the document leaves the status alone, and a document that is marked for deletion
goes away when a patch takes its last finalizer. Jobs and VirtualServices carry the mark of their
creator, as in the cluster.
-/

import ChimpChaos.Operator.KubeClient

namespace ChimpChaos

open Library Relation

/-! ### Documents -/

/-- The metadata of a stored object. -/
def documentMetadata (document : Json) : Json := (document.get? "metadata").getD .null

/-- A patch of the status. -/
def statusPatched (document patch : Json) : Json :=
  document.withField "status" ((Json.mergePatch document patch).get? "status")

/-- A patch of everything but the status. -/
def resourcePatched (document patch : Json) : Json :=
  (Json.mergePatch document patch).withField "status" (document.get? "status")

/-- Is a document marked for deletion and without finalizers? -/
def isReleased (document : Json) : Bool :=
  match ObjectMeta.parse (documentMetadata document) with
  | some metadata => metadata.deletionTimestamp.isSome && (metadata.finalizers.getD []).isEmpty
  | none => false

/-- Store a patched document. -/
def storePatched (experiments : Store ObjectKey Json) (key : ObjectKey) (patch : Json) :
    Store ObjectKey Json :=
  match experiments.lookup key with
  | none => experiments
  | some document =>
    if isReleased (resourcePatched document patch) then AList.erase key experiments
    else AList.insert key (resourcePatched document patch) experiments

structure Documents where
  experiments : Store ObjectKey Json
  jobs : Store ObjectKey (Tracked Job)
  virtualServices : Store ObjectKey (Tracked Json)
  pods : Store ObjectKey ListedPod
  services : Store ObjectKey StoredService
  clock : Int

/-- What is told and not stored: how long a reading of the clock takes, the random identifier, the
response of Prometheus, and the text with which a document is found unreadable. -/
structure Circumstances where
  elapsed : Nat
  experimentId : String
  response : HttpAnswer
  unreadable : String

/-! ### The server at its best -/

def missing : KubeError := .api 404 "not found"

def kubeCreation (taken : Bool) : Except KubeError Unit :=
  if taken then .error (.api 409 "already exists") else .ok ()

def kubePresence (present : Bool) : Except KubeError Unit :=
  if present then .ok () else .error missing

namespace Documents

/-- The stored objects of a namespace. -/
def within {Value : Type} (store : Store ObjectKey Value) (ns : String) :
    List (ObjectKey × Value) :=
  store.listing.filter fun entry => entry.1.1 = ns

variable (circumstances : Circumstances) (actor : ObjectKey) (documents : Documents)

/-- The answer to a patch: the client reads the patched document. -/
def readPatched (key : ObjectKey) (patched : Json → Json) : Except KubeError ChaosExperiment :=
  match documents.experiments.lookup key with
  | none => .error missing
  | some document =>
    match ChaosExperiment.parse (patched document) with
    | some experiment => .ok experiment
    | none => .error (.other circumstances.unreadable)

/-- The answer to a request. -/
def reply : (request : KubeRequest) → KubeAnswer request
  | .createJob ns job => kubeCreation (documents.jobs.lookup (jobKey ns job)).isSome
  | .listJobs ns labelSelector =>
    .ok ((documents.jobs.listing.filter fun entry =>
      entry.1.1 = ns && matchesSelector labelSelector entry.2.value).map fun entry =>
        entry.2.value)
  | .deleteJob ns name => kubePresence (documents.jobs.lookup (ns, name)).isSome
  | .listPods ns => .ok ((within documents.pods ns).map Prod.snd)
  | .getService ns name =>
    match documents.services.lookup (ns, name) with
    | none => .error missing
    | some service => .ok service
  | .createVirtualService ns document =>
    kubeCreation (documents.virtualServices.lookup (documentKey ns document)).isSome
  | .listVirtualServices ns =>
    .ok ((within documents.virtualServices ns).map fun entry => (entry.1.2, entry.2.value))
  | .deleteVirtualService ns name =>
    kubePresence (documents.virtualServices.lookup (ns, name)).isSome
  | .patchStatus ns name patch =>
    documents.readPatched circumstances (ns, name) fun document => statusPatched document patch
  | .patch ns name patch =>
    documents.readPatched circumstances (ns, name) fun document => resourcePatched document patch
  | .http _ => circumstances.response
  | .now => documents.clock + circumstances.elapsed
  | .newExperimentId => circumstances.experimentId

/-- The documents after a request made on behalf of an experiment. -/
def effect : KubeRequest → Documents
  | .createJob ns job =>
    { documents with jobs := documents.jobs.create (jobKey ns job) ⟨job, some actor⟩ }
  | .deleteJob ns name => { documents with jobs := AList.erase (ns, name) documents.jobs }
  | .createVirtualService ns document =>
    { documents with
      virtualServices :=
        documents.virtualServices.create (documentKey ns document) ⟨document, some actor⟩ }
  | .deleteVirtualService ns name =>
    { documents with virtualServices := AList.erase (ns, name) documents.virtualServices }
  | .patchStatus ns name patch =>
    { documents with
      experiments := documents.experiments.update (ns, name) fun document =>
        statusPatched document patch }
  | .patch ns name patch =>
    { documents with experiments := storePatched documents.experiments (ns, name) patch }
  | .now => { documents with clock := documents.clock + circumstances.elapsed }
  | _ => documents

/-- Does a request delete an object that is there? -/
def deletes : KubeRequest → Bool
  | .deleteJob ns name => (documents.jobs.lookup (ns, name)).isSome
  | .deleteVirtualService ns name => (documents.virtualServices.lookup (ns, name)).isSome
  | _ => false

end Documents

/-! ### The server as the client may meet it -/

/-- The answer with which a request is refused. -/
def kubeRefusal (error : KubeError) : (request : KubeRequest) → Option (KubeAnswer request)
  | .createJob .. => some (.error error)
  | .listJobs .. => some (.error error)
  | .deleteJob .. => some (.error error)
  | .listPods .. => some (.error error)
  | .getService .. => some (.error error)
  | .createVirtualService .. => some (.error error)
  | .listVirtualServices .. => some (.error error)
  | .deleteVirtualService .. => some (.error error)
  | .patchStatus .. => some (.error error)
  | .patch .. => some (.error error)
  | .http _ => none
  | .now => none
  | .newExperimentId => none

/-- A request is answered from the documents, or refused with an error, in which case it may have
taken effect all the same. A refusal with 404 tells the truth about a deletion. -/
def Responds (actor : ObjectKey) (request : KubeRequest) (before : Documents)
    (answer : KubeAnswer request) (after : Documents) : Prop :=
  ∃ circumstances,
    (answer = before.reply circumstances request ∧
        after = before.effect circumstances actor request) ∨
      ∃ error, kubeRefusal error request = some answer ∧
        (isNotFound (.kube error) = true → before.deletes request = false) ∧
        (after = before ∨ after = before.effect circumstances actor request)

/-! ### What others do -/

/-- What the operator reads of two documents is the same. -/
structure ReadsAlike (document edited : Json) : Prop where
  metadata :
    ObjectMeta.parse (documentMetadata edited) = ObjectMeta.parse (documentMetadata document)
  spec : edited.get? "spec" = document.get? "spec"
  status : edited.get? "status" = document.get? "status"

/-- The mark of a deletion. A mark stays as it is. -/
def markForDeletion (document : Json) (timestamp : String) : Json :=
  match (ObjectMeta.parse (documentMetadata document)).bind ObjectMeta.deletionTimestamp with
  | some _ => document
  | none => document.withField "metadata"
      (some ((documentMetadata document).withField "deletionTimestamp" (some (.string timestamp))))

/-- Does a document have a finalizer? -/
def holdsFinalizer (document : Json) : Bool :=
  match ObjectMeta.parse (documentMetadata document) with
  | some metadata => !(metadata.finalizers.getD []).isEmpty
  | none => false

/-- A user's request to delete an experiment. -/
def deleteDocument (experiments : Store ObjectKey Json) (key : ObjectKey) (timestamp : String) :
    Store ObjectKey Json :=
  match experiments.lookup key with
  | none => experiments
  | some document =>
    if holdsFinalizer document then
      AList.insert key (markForDeletion document timestamp) experiments
    else AList.erase key experiments

/-- A step of somebody else. What the operator does not read of an experiment may be edited, and
Pods and Services may change in any way. -/
inductive OutsideDocuments : Documents → Documents → Prop
  | deletion (documents : Documents) (key : ObjectKey) (timestamp : String) :
      OutsideDocuments documents
        { documents with experiments := deleteDocument documents.experiments key timestamp }
  | edit {documents : Documents} {key : ObjectKey} {document edited : Json}
      (stored : documents.experiments.lookup key = some document)
      (alike : ReadsAlike document edited) :
      OutsideDocuments documents
        { documents with experiments := AList.insert key edited documents.experiments }
  | jobGone (documents : Documents) (key : ObjectKey) :
      OutsideDocuments documents { documents with jobs := AList.erase key documents.jobs }
  | jobProgress (documents : Documents) (key : ObjectKey) (status : Option JobStatus) :
      OutsideDocuments documents
        { documents with
          jobs := documents.jobs.update key fun tracked =>
            { tracked with value := { tracked.value with status } } }
  | virtualServiceGone (documents : Documents) (key : ObjectKey) :
      OutsideDocuments documents
        { documents with virtualServices := AList.erase key documents.virtualServices }
  | pods (documents : Documents) (pods : Store ObjectKey ListedPod) :
      OutsideDocuments documents { documents with pods }
  | services (documents : Documents) (services : Store ObjectKey StoredService) :
      OutsideDocuments documents { documents with services }
  | time (documents : Documents) (elapsed : Nat) :
      OutsideDocuments documents { documents with clock := documents.clock + elapsed }

/-! ### The operator on documents -/

/-- The documents with every version of an experiment that was stored so far. -/
structure WatchedDocuments where
  documents : Documents
  seen : ObjectKey → Json → Prop

namespace WatchedDocuments

def observe (watched : WatchedDocuments) (documents : Documents) : WatchedDocuments where
  documents
  seen key document :=
    watched.seen key document ∨ documents.experiments.lookup key = some document

def start (documents : Documents) : WatchedDocuments where
  documents
  seen key document := documents.experiments.lookup key = some document

end WatchedDocuments

abbrev DocumentPool : Type :=
  Pool WatchedDocuments ChaosExperiment KubeRequest KubeAnswer OperatorError ReconcileResult

/-- The passes of the operator with its clients, on any stored version that can be read. -/
def onDocuments (context : OperatorContext) (crates : Crates) (parseF64 : String → Option F64) :
    Rules WatchedDocuments ChaosExperiment KubeRequest KubeAnswer OperatorError
      ReconcileResult where
  answers experiment request before answer after := ∃ documents,
    Responds (actorOf experiment) request before.documents answer documents ∧
      after = before.observe documents
  launches state experiment program := ∃ key document,
    state.seen key document ∧ ChaosExperiment.parse document = some experiment ∧
      program = (context.clients parseF64).lower ((context.deployment crates).pass experiment)
  outside before after := ∃ documents,
    OutsideDocuments before.documents documents ∧ after = before.observe documents

def idleDocuments (documents : Documents) : DocumentPool := ⟨.start documents, []⟩

/-- A pool that a run of the operator reaches from some documents. -/
def ReachableDocuments (context : OperatorContext) (crates : Crates)
    (parseF64 : String → Option F64) (initial : Documents) (pool : DocumentPool) : Prop :=
  ReflTransGen (Pool.Moves (onDocuments context crates parseF64)) (idleDocuments initial) pool

end ChimpChaos
