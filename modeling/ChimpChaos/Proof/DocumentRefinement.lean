/-
This file proves that the operator with its clients, on stored documents, does nothing that the
reconciler could not do in the cluster.

A document describes an object when the operator reads the object from it. A patch that the client
sends makes of such a document what the call makes of the object, every answer of the server is
understood as an answer that the cluster may give, and so every run on documents is a run of the
reconciler, pass by pass and call by call.
-/

import ChimpChaos.Cluster.Documents

namespace ChimpChaos

open Library Relation

/-! ### Metadata -/

section Metadata

variable {json changed : Json} {metadata : ObjectMeta}

/-- The fields of which metadata are made. -/
theorem ObjectMeta.parse_eq_some_iff : ObjectMeta.parse json = some metadata ↔
    ∃ name ns uid finalizers deletionTimestamp,
      RecordField.readOptional ValueCodec.string.toCodec (json.get? "name") = some name ∧
      RecordField.readOptional ValueCodec.string.toCodec (json.get? "namespace") = some ns ∧
      RecordField.readOptional ValueCodec.string.toCodec (json.get? "uid") = some uid ∧
      RecordField.readOptional textsCodec (json.get? "finalizers") = some finalizers ∧
      RecordField.readOptional ValueCodec.string.toCodec (json.get? "deletionTimestamp") =
        some deletionTimestamp ∧
      metadata = { name, ns, uid, finalizers, deletionTimestamp } := by
  unfold ObjectMeta.parse
  simp only [Option.bind_eq_bind, Option.bind_eq_some_iff]
  constructor
  · rintro ⟨name, readName, ns, readNs, uid, readUid, finalizers, readFinalizers, deletion,
      readDeletion, same⟩
    exact ⟨name, ns, uid, finalizers, deletion, readName, readNs, readUid, readFinalizers,
      readDeletion, (Option.some.inj same).symm⟩
  · rintro ⟨name, ns, uid, finalizers, deletion, readName, readNs, readUid, readFinalizers,
      readDeletion, rfl⟩
    exact ⟨name, readName, ns, readNs, uid, readUid, finalizers, readFinalizers, deletion,
      readDeletion, rfl⟩

/-- What is read of metadata of which one field has changed. -/
theorem ObjectMeta.parse_finalizers (parsed : ObjectMeta.parse json = some metadata)
    (others : ∀ key, key ≠ "finalizers" → changed.get? key = json.get? key)
    {finalizers : List String}
    (written : changed.get? "finalizers" = some (.array (finalizers.map .string))) :
    ObjectMeta.parse changed = some { metadata with finalizers := some finalizers } := by
  have read : RecordField.readOptional textsCodec (some (.array (finalizers.map .string))) =
      some (some finalizers) :=
    RecordField.readOptional_of_read rfl (textsCodec.read_write finalizers trivial)
  rw [ObjectMeta.parse_eq_some_iff] at parsed ⊢
  obtain ⟨name, ns, uid, earlier, deletion, readName, readNs, readUid, -, readDeletion, rfl⟩ :=
    parsed
  rw [others "name" (by decide), others "namespace" (by decide), others "uid" (by decide),
    others "deletionTimestamp" (by decide), written]
  exact ⟨name, ns, uid, _, deletion, readName, readNs, readUid, read, readDeletion, rfl⟩

theorem ObjectMeta.parse_deletionTimestamp (parsed : ObjectMeta.parse json = some metadata)
    (others : ∀ key, key ≠ "deletionTimestamp" → changed.get? key = json.get? key)
    {timestamp : String} (written : changed.get? "deletionTimestamp" = some (.string timestamp)) :
    ObjectMeta.parse changed = some { metadata with deletionTimestamp := some timestamp } := by
  rw [ObjectMeta.parse_eq_some_iff] at parsed ⊢
  obtain ⟨name, ns, uid, finalizers, earlier, readName, readNs, readUid, readFinalizers, -, rfl⟩ :=
    parsed
  rw [others "name" (by decide), others "namespace" (by decide), others "uid" (by decide),
    others "finalizers" (by decide), written]
  exact ⟨name, ns, uid, finalizers, _, readName, readNs, readUid, readFinalizers, rfl, rfl⟩

end Metadata

/-! ### Documents that show an object -/

/-- The operator reads an object from a document. -/
structure Describes (key : ObjectKey) (document : Json) (object : ExperimentObject) : Prop where
  metadata : ObjectMeta.parse (documentMetadata document) = some {
    name := some key.2
    ns := some key.1
    uid := some object.uid
    finalizers := object.finalizers
    deletionTimestamp := object.deletionTimestamp }
  spec : (document.get? "spec").bind ChaosExperimentSpec.parse = some object.spec
  status : (document.get? "status").getD .null = object.status

/-- The metadata of a document whose finalizers are patched. -/
theorem documentMetadata_resourcePatched (document : Json) (finalizers : List String) :
    documentMetadata (resourcePatched document (finalizersPatch finalizers)) =
      Json.mergePatch (documentMetadata document)
        (.object [("finalizers", .array (finalizers.map .string))]) := by
  rw [documentMetadata, resourcePatched, Json.get?_withField, if_neg (by decide),
    finalizersPatch, Json.get?_mergePatch_single, if_pos rfl]
  rfl

namespace Describes

variable {key : ObjectKey} {document edited : Json} {object : ExperimentObject}

/-- The experiment that is read from a document is the snapshot of the object. -/
theorem parse_eq (describes : Describes key document object) :
    ChaosExperiment.parse document = object.snapshot key := by
  have metadata : ObjectMeta.parse ((document.get? "metadata").getD .null) = _ := describes.metadata
  unfold ChaosExperiment.parse
  rw [metadata, describes.spec, describes.status]
  simp only [Option.bind_eq_bind, Option.bind_some, readStatus, ExperimentObject.snapshot]
  split_ifs <;> rfl

theorem readsAlike (describes : Describes key document object)
    (alike : ReadsAlike document edited) : Describes key edited object where
  metadata := alike.metadata.trans describes.metadata
  spec := by rw [alike.spec, describes.spec]
  status := by rw [alike.status, describes.status]

theorem statusPatched (describes : Describes key document object) (status : ChaosExperimentStatus) :
    Describes key (ChimpChaos.statusPatched document (.object [("status", status.toJson)]))
      (object.patchStatus status) where
  metadata := by
    rw [documentMetadata, ChimpChaos.statusPatched, Json.get?_withField, if_neg (by decide)]
    exact describes.metadata
  spec := by
    rw [ChimpChaos.statusPatched, Json.get?_withField, if_neg (by decide)]
    exact describes.spec
  status := by
    rw [ChimpChaos.statusPatched, Json.get?_withField, if_pos rfl,
      Json.get?_mergePatch_single, if_pos rfl, ExperimentObject.patchStatus, ← describes.status]
    rfl

theorem resourcePatched (describes : Describes key document object) (finalizers : List String) :
    Describes key (ChimpChaos.resourcePatched document (finalizersPatch finalizers))
      (object.setFinalizers finalizers) where
  metadata := by
    rw [documentMetadata_resourcePatched]
    refine ObjectMeta.parse_finalizers describes.metadata (fun other different => ?_) ?_
    · rw [Json.get?_mergePatch_single, if_neg different]
    · rw [Json.get?_mergePatch_single, if_pos rfl]
      exact RecordField.patchedValue_array _ _
  spec := by
    rw [ChimpChaos.resourcePatched, Json.get?_withField, if_neg (by decide), finalizersPatch,
      Json.get?_mergePatch_single, if_neg (by decide)]
    exact describes.spec
  status := by
    rw [ChimpChaos.resourcePatched, Json.get?_withField, if_pos rfl]
    exact describes.status

theorem isReleased (describes : Describes key document object) :
    ChimpChaos.isReleased document =
      (object.deletionTimestamp.isSome && (object.finalizers.getD []).isEmpty) := by
  rw [ChimpChaos.isReleased, describes.metadata]

theorem holdsFinalizer (describes : Describes key document object) :
    ChimpChaos.holdsFinalizer document = object.isHeld := by
  rw [ChimpChaos.holdsFinalizer, describes.metadata]
  rfl

theorem markForDeletion (describes : Describes key document object) (timestamp : String) :
    Describes key (ChimpChaos.markForDeletion document timestamp)
      { object with
        deletionTimestamp := some (object.deletionTimestamp.getD timestamp) } := by
  unfold ChimpChaos.markForDeletion
  rw [describes.metadata, Option.bind_some]
  cases marked : object.deletionTimestamp with
  | some earlier =>
    have same : { object with deletionTimestamp := some earlier } = object := by rw [← marked]
    rw [Option.getD_some, same]
    exact describes
  | none =>
    refine ⟨?_, ?_, ?_⟩
    · dsimp only
      rw [documentMetadata, Json.get?_withField, if_pos rfl, Option.getD_some]
      refine ObjectMeta.parse_deletionTimestamp describes.metadata (fun other different => ?_) ?_
      · rw [Json.get?_withField, if_neg different]
      · rw [Json.get?_withField, if_pos rfl]
        rfl
    · dsimp only
      rw [Json.get?_withField, if_neg (by decide)]
      exact describes.spec
    · dsimp only
      rw [Json.get?_withField, if_neg (by decide)]
      exact describes.status

end Describes

/-! ### Documents that represent a cluster -/

/-- Every stored document describes the object that is stored under its key. -/
def DescribesAll (documents : Store ObjectKey Json) (objects : Store ObjectKey ExperimentObject) :
    Prop :=
  ∀ key, Option.Rel (Describes key) (documents.lookup key) (objects.lookup key)

namespace DescribesAll

variable {documents : Store ObjectKey Json} {objects : Store ObjectKey ExperimentObject}
  {key : ObjectKey} {document : Json} {object : ExperimentObject}

theorem insert (all : DescribesAll documents objects) (describes : Describes key document object) :
    DescribesAll (AList.insert key document documents) (AList.insert key object objects) := by
  intro other
  by_cases same : other = key
  · rw [same, AList.lookup_insert, AList.lookup_insert]
    exact .some describes
  · rw [AList.lookup_insert_ne same, AList.lookup_insert_ne same]
    exact all other

theorem erase (all : DescribesAll documents objects) (key : ObjectKey) :
    DescribesAll (AList.erase key documents) (AList.erase key objects) := by
  intro other
  rw [Store.lookup_erase_ite, Store.lookup_erase_ite]
  split_ifs
  · exact .none
  · exact all other

/-- What is stored under a key on both sides. -/
theorem cases (all : DescribesAll documents objects) (key : ObjectKey) :
    (documents.lookup key = none ∧ objects.lookup key = none) ∨
      ∃ document object, documents.lookup key = some document ∧
        objects.lookup key = some object ∧ Describes key document object := by
  have related := all key
  generalize documents.lookup key = first at related
  generalize objects.lookup key = second at related
  cases related with
  | none => exact Or.inl ⟨rfl, rfl⟩
  | some describes => exact Or.inr ⟨_, _, rfl, rfl, describes⟩

theorem update (all : DescribesAll documents objects) (key : ObjectKey) {change : Json → Json}
    {change' : ExperimentObject → ExperimentObject}
    (changes : ∀ document object, Describes key document object →
      Describes key (change document) (change' object)) :
    DescribesAll (documents.update key change) (objects.update key change') := by
  obtain ⟨absent, absent'⟩ | ⟨document, object, found, found', describes⟩ := all.cases key
  · rw [Store.update_of_absent absent, Store.update_of_absent absent']
    exact all
  · rw [Store.update, found, Store.update, found']
    exact all.insert (changes document object describes)

/-- The patch that adds the finalizer. -/
theorem addFinalizer (all : DescribesAll documents objects) (key : ObjectKey) :
    DescribesAll (storePatched documents key (finalizersPatch [finalizerName]))
      (objects.update key fun object => object.setFinalizers [finalizerName]) := by
  obtain ⟨absent, absent'⟩ | ⟨document, object, found, found', describes⟩ := all.cases key
  · rw [storePatched, absent, Store.update_of_absent absent']
    exact all
  · have patched := describes.resourcePatched [finalizerName]
    have held : isReleased (resourcePatched document (finalizersPatch [finalizerName])) = false :=
      patched.isReleased.trans (Bool.and_false _)
    rw [storePatched, found, Store.update, found']
    dsimp only
    rw [if_neg (by rw [held]; exact Bool.false_ne_true)]
    exact all.insert patched

/-- The patch that removes the finalizer. -/
theorem removeFinalizer (all : DescribesAll documents objects) (key : ObjectKey) :
    DescribesAll (storePatched documents key (finalizersPatch []))
      (releaseExperiment objects key) := by
  obtain ⟨absent, absent'⟩ | ⟨document, object, found, found', describes⟩ := all.cases key
  · rw [storePatched, absent, releaseExperiment_of_absent absent']
    exact all
  · have patched := describes.resourcePatched []
    have released : isReleased (resourcePatched document (finalizersPatch [])) =
        object.deletionTimestamp.isSome := patched.isReleased.trans (Bool.and_true _)
    rw [storePatched, found, releaseExperiment, found']
    dsimp only
    rw [released]
    split_ifs
    · exact all.erase key
    · exact all.insert patched

theorem deletion (all : DescribesAll documents objects) (key : ObjectKey) (timestamp : String) :
    DescribesAll (deleteDocument documents key timestamp)
      (requestDeletion objects key timestamp) := by
  obtain ⟨absent, absent'⟩ | ⟨document, object, found, found', describes⟩ := all.cases key
  · rw [deleteDocument, absent, requestDeletion, absent']
    exact all
  · rw [deleteDocument, found, requestDeletion, found']
    dsimp only
    rw [describes.holdsFinalizer]
    split_ifs
    · exact all.insert (describes.markForDeletion timestamp)
    · exact all.erase key

end DescribesAll

/-- Documents as they stand for a cluster. Pods and Services are not in it. -/
structure Represents (documents : Documents) (cluster : Cluster) : Prop where
  experiments : DescribesAll documents.experiments cluster.experiments
  jobs : documents.jobs = cluster.jobs
  virtualServices : documents.virtualServices = cluster.virtualServices
  clock : documents.clock = cluster.clock

/-! ### Answers -/

section Answers

variable {context : OperatorContext} {parseF64 : String → Option F64} {documents : Documents}
  {cluster : Cluster}

/-- What is read from outside the cluster, as far as the circumstances decide it. -/
def Circumstances.surroundings (circumstances : Circumstances) : Surroundings where
  targetNodes := .ok []
  serviceSelector := .ok []
  resolvedEdge := .error (.prometheus "")
  elapsed := circumstances.elapsed
  experimentId := circumstances.experimentId

theorem mapError_kubeCreation (taken : Bool) :
    (kubeCreation taken).mapError OperatorError.kube = creationAnswer taken := by
  cases taken <;> rfl

theorem mapError_kubePresence (present : Bool) :
    (kubePresence present).mapError OperatorError.kube = presenceAnswer present := by
  cases present <;> rfl

/-- The answer to a patch is that of the cluster, or the patched document cannot be read. -/
theorem readPatched_cases (represents : Represents documents cluster)
    (circumstances : Circumstances) (key : ObjectKey) (patched : Json → Json) :
    ((documents.readPatched circumstances key patched).map fun _ => ()).mapError
        OperatorError.kube = presenceAnswer (cluster.experiments.lookup key).isSome ∨
      ((documents.readPatched circumstances key patched).map fun _ => ()).mapError
        OperatorError.kube = .error (.kube (.other circumstances.unreadable)) := by
  unfold Documents.readPatched
  obtain ⟨absent, absent'⟩ | ⟨document, object, found, found', -⟩ :=
    represents.experiments.cases key
  · rw [absent, absent']
    exact Or.inl rfl
  · rw [found, found']
    dsimp only
    cases ChaosExperiment.parse (patched document) with
    | none => exact Or.inr rfl
    | some experiment => exact Or.inl rfl

variable (context parseF64) in
/-- What the server answers at its best is an answer of the cluster, or the refusal of a patch
after which the document cannot be read. -/
theorem exists_reply (represents : Represents documents cluster) (circumstances : Circumstances)
    (request : ApiCall) :
    ∃ surroundings : Surroundings, surroundings.elapsed = circumstances.elapsed ∧
      (context.answerOf parseF64 request (documents.reply circumstances (context.put request)) =
          reply surroundings cluster request ∨
        refusal (.kube (.other circumstances.unreadable)) request = some
          (context.answerOf parseF64 request
            (documents.reply circumstances (context.put request)))) := by
  have patches (key : ObjectKey) (patched : Json → Json) :=
    (readPatched_cases represents circumstances key patched).imp_right fun same =>
      (congrArg some same).symm
  cases request with
  | createJob ns job =>
    refine ⟨circumstances.surroundings, rfl, Or.inl ?_⟩
    refine (mapError_kubeCreation _).trans ?_
    rw [represents.jobs]
    rfl
  | listJobs ns labelSelector =>
    refine ⟨circumstances.surroundings, rfl, Or.inl ?_⟩
    show Except.ok _ = Except.ok _
    rw [represents.jobs]
  | deleteJob ns name =>
    refine ⟨circumstances.surroundings, rfl, Or.inl ?_⟩
    refine (mapError_kubePresence _).trans ?_
    rw [represents.jobs]
    rfl
  | listTargetNodes ns =>
    exact ⟨{ circumstances.surroundings with targetNodes := _ }, rfl, Or.inl rfl⟩
  | getServiceSelector ns name =>
    exact ⟨{ circumstances.surroundings with serviceSelector := _ }, rfl, Or.inl rfl⟩
  | createVirtualService ns document =>
    refine ⟨circumstances.surroundings, rfl, Or.inl ?_⟩
    refine (mapError_kubeCreation _).trans ?_
    rw [represents.virtualServices]
    rfl
  | listVirtualServicesForHost ns host =>
    refine ⟨circumstances.surroundings, rfl, Or.inl ?_⟩
    show Except.ok (List.map _ (List.map _ (Documents.within documents.virtualServices ns))) = _
    rw [represents.virtualServices, List.map_map]
    rfl
  | deleteVirtualService ns name =>
    refine ⟨circumstances.surroundings, rfl, Or.inl ?_⟩
    refine (mapError_kubePresence _).trans ?_
    rw [represents.virtualServices]
    rfl
  | patchExperimentStatus ns name status =>
    exact ⟨circumstances.surroundings, rfl, patches (ns, name) _⟩
  | addFinalizer ns name => exact ⟨circumstances.surroundings, rfl, patches (ns, name) _⟩
  | removeFinalizer ns name => exact ⟨circumstances.surroundings, rfl, patches (ns, name) _⟩
  | resolveEdge source destination ns =>
    exact ⟨{ circumstances.surroundings with resolvedEdge := _ }, rfl, Or.inl rfl⟩
  | now =>
    refine ⟨circumstances.surroundings, rfl, Or.inl ?_⟩
    exact congrArg (· + (circumstances.elapsed : Int)) represents.clock
  | newExperimentId => exact ⟨circumstances.surroundings, rfl, Or.inl rfl⟩

variable (parseF64) in
/-- A refused request is a refused call. -/
theorem refusal_answerOf {error : KubeError} {request : ApiCall}
    {answer : KubeAnswer (context.put request)}
    (refused : kubeRefusal error (context.put request) = some answer) :
    refusal (.kube error) request = some (context.answerOf parseF64 request answer) := by
  cases request with
  | resolveEdge | now | newExperimentId => cases refused
  | _ =>
    obtain rfl := Option.some.inj refused
    rfl

theorem deletes_put (represents : Represents documents cluster) (request : ApiCall) :
    documents.deletes (context.put request) = deletesPresent cluster request := by
  cases request with
  | deleteJob ns name =>
    exact congrArg (fun jobs => (AList.lookup (ns, name) jobs).isSome) represents.jobs
  | deleteVirtualService ns name =>
    exact congrArg (fun services => (AList.lookup (ns, name) services).isSome)
      represents.virtualServices
  | _ => rfl

variable (context) in
/-- A request does to the documents what its call does to the cluster. -/
theorem Represents.effect (represents : Represents documents cluster) (actor : ObjectKey)
    {circumstances : Circumstances} {surroundings : Surroundings}
    (same : surroundings.elapsed = circumstances.elapsed) (request : ApiCall) :
    Represents (documents.effect circumstances actor (context.put request))
      (ChimpChaos.effect surroundings actor cluster request) := by
  obtain ⟨experiments, jobs, virtualServices, clock⟩ := represents
  cases request with
  | createJob ns job =>
    exact ⟨experiments, congrArg (fun store => store.create (jobKey ns job)
      (⟨job, some actor⟩ : Tracked Job)) jobs, virtualServices, clock⟩
  | deleteJob ns name =>
    exact ⟨experiments, congrArg (AList.erase (ns, name)) jobs, virtualServices, clock⟩
  | createVirtualService ns document =>
    exact ⟨experiments, jobs, congrArg (fun store => store.create (documentKey ns document)
      (⟨document, some actor⟩ : Tracked Json)) virtualServices, clock⟩
  | deleteVirtualService ns name =>
    exact ⟨experiments, jobs, congrArg (AList.erase (ns, name)) virtualServices, clock⟩
  | patchExperimentStatus ns name status =>
    refine ⟨?_, jobs, virtualServices, clock⟩
    exact experiments.update (ns, name) fun _ _ describes => describes.statusPatched status
  | addFinalizer ns name =>
    exact ⟨experiments.addFinalizer (ns, name), jobs, virtualServices, clock⟩
  | removeFinalizer ns name =>
    exact ⟨experiments.removeFinalizer (ns, name), jobs, virtualServices, clock⟩
  | now =>
    refine ⟨experiments, jobs, virtualServices, ?_⟩
    show documents.clock + _ = cluster.clock + _
    rw [clock, same]
  | _ => exact ⟨experiments, jobs, virtualServices, clock⟩

/-- Every answer of the server is understood as one that the cluster may give. -/
theorem permits_of_responds (represents : Represents documents cluster) {actor : ObjectKey}
    {request : ApiCall} {answer : KubeAnswer (context.put request)} {after : Documents}
    (responds : Responds actor (context.put request) documents answer after) :
    ∃ cluster', Permits actor request cluster (context.answerOf parseF64 request answer) cluster' ∧
      Represents after cluster' := by
  obtain ⟨circumstances, ⟨rfl, rfl⟩ | ⟨error, refused, honest, done⟩⟩ := responds
  · obtain ⟨surroundings, same, told⟩ :=
      exists_reply context parseF64 represents circumstances request
    have represents' := represents.effect context actor same request
    rcases told with told | told
    · exact ⟨_, ⟨surroundings, Or.inl ⟨told, rfl⟩⟩, represents'⟩
    · exact ⟨_, ⟨surroundings, Or.inr ⟨_, told, (fun missing => nomatch missing), Or.inr rfl⟩⟩,
        represents'⟩
  · have refused' := refusal_answerOf parseF64 refused
    have honest' : isNotFound (.kube error) = true → deletesPresent cluster request = false :=
      fun missing => (deletes_put represents request).symm.trans (honest missing)
    rcases done with rfl | rfl
    · exact ⟨cluster, ⟨circumstances.surroundings, Or.inr ⟨_, refused', honest', Or.inl rfl⟩⟩,
        represents⟩
    · exact ⟨_, ⟨circumstances.surroundings, Or.inr ⟨_, refused', honest', Or.inr rfl⟩⟩,
        represents.effect context actor rfl request⟩

end Answers

/-! ### Runs -/

/-- The documents represent the cluster, and every version of a document describes a version of its
object. -/
structure MatchesWatched (low : WatchedDocuments) (watched : Watched) : Prop where
  represents : Represents low.documents watched.cluster
  current : watched.Current
  versions : ∀ key document, low.seen key document →
    ∃ object, watched.seen key object ∧ Describes key document object

section Runs

variable {low : WatchedDocuments} {watched : Watched} {documents : Documents} {cluster : Cluster}

theorem matchesWatched_start (represents : Represents documents cluster) :
    MatchesWatched (.start documents) (.start cluster) where
  represents := represents
  current := Watched.current_start cluster
  versions key document seen := by
    obtain ⟨absent, -⟩ | ⟨_, object, found, found', describes⟩ := represents.experiments.cases key
    · exact absurd (seen.symm.trans absent) (Option.some_ne_none _)
    · obtain rfl := Option.some.inj (seen.symm.trans found)
      exact ⟨object, found', describes⟩

/-- Both sides move. -/
theorem MatchesWatched.observe (matched : MatchesWatched low watched)
    (represents : Represents documents cluster) :
    MatchesWatched (low.observe documents) (watched.observe cluster) where
  represents := represents
  current := watched.current_observe cluster
  versions key document seen := by
    rcases seen with seen | stored
    · obtain ⟨object, seen', describes⟩ := matched.versions key document seen
      exact ⟨object, Or.inl seen', describes⟩
    · obtain ⟨object, seen', describes⟩ :=
        (matchesWatched_start represents).versions key document stored
      exact ⟨object, Or.inr seen', describes⟩

/-- The documents move, and the cluster stays as it is. -/
theorem MatchesWatched.observeDocuments (matched : MatchesWatched low watched)
    (represents : Represents documents watched.cluster) :
    MatchesWatched (low.observe documents) watched where
  represents := represents
  current := matched.current
  versions key document seen := by
    rcases seen with seen | stored
    · exact matched.versions key document seen
    · obtain ⟨object, seen', describes⟩ :=
        (matchesWatched_start represents).versions key document stored
      exact ⟨object, matched.current key object seen', describes⟩

/-- A step of somebody else is one in the cluster, or is not seen there. -/
theorem outside_of_outsideDocuments (represents : Represents low.documents watched.cluster)
    (moved : OutsideDocuments low.documents documents) :
    (∃ cluster, Outside watched.cluster cluster ∧ Represents documents cluster) ∨
      Represents documents watched.cluster := by
  obtain ⟨experiments, jobs, virtualServices, clock⟩ := represents
  generalize low.documents = before at moved experiments jobs virtualServices clock
  cases moved with
  | deletion key timestamp =>
    exact Or.inl ⟨_, .deletion _ key timestamp, experiments.deletion key timestamp, jobs,
      virtualServices, clock⟩
  | @edit key document edited stored alike =>
    refine Or.inr ⟨?_, jobs, virtualServices, clock⟩
    obtain ⟨absent, -⟩ | ⟨_, object, found, found', describes⟩ := experiments.cases key
    · exact absurd (stored.symm.trans absent) (Option.some_ne_none _)
    · obtain rfl := Option.some.inj (stored.symm.trans found)
      intro other
      have same : watched.cluster.experiments.lookup other =
          AList.lookup other (AList.insert key object watched.cluster.experiments) := by
        by_cases named : other = key
        · rw [named, AList.lookup_insert, found']
        · rw [AList.lookup_insert_ne named]
      rw [same]
      exact experiments.insert (describes.readsAlike alike) other
  | jobGone key =>
    exact Or.inl ⟨_, .jobGone _ key, experiments, congrArg (AList.erase key) jobs,
      virtualServices, clock⟩
  | jobProgress key status =>
    exact Or.inl ⟨_, .jobProgress _ key status, experiments,
      congrArg (fun jobs => Store.update jobs key fun tracked =>
        ({ tracked with value := { tracked.value with status } } : Tracked Job)) jobs,
      virtualServices, clock⟩
  | virtualServiceGone key =>
    exact Or.inl ⟨_, .virtualServiceGone _ key, experiments, jobs,
      congrArg (AList.erase key) virtualServices, clock⟩
  | pods => exact Or.inr ⟨experiments, jobs, virtualServices, clock⟩
  | services => exact Or.inr ⟨experiments, jobs, virtualServices, clock⟩
  | time elapsed =>
    exact Or.inl ⟨_, .time _ elapsed, experiments, jobs, virtualServices,
      congrArg (· + (elapsed : Int)) clock⟩

/-- The operator on documents keeps to the rules of the operator in the cluster. -/
theorem clients_implement (context : OperatorContext) (crates : Crates)
    (parseF64 : String → Option F64) :
    (context.clients parseF64).Implements (onDocuments context crates parseF64)
      (overlapping (context.deployment crates) apiServer) MatchesWatched where
  answers experiment request before watched answer after matched answered := by
    obtain ⟨documents, responds, rfl⟩ := answered
    obtain ⟨cluster, permitted, represents⟩ := permits_of_responds matched.represents responds
    exact ⟨watched.observe cluster, ⟨cluster, permitted, rfl⟩, matched.observe represents⟩
  launches before watched experiment program matched launched := by
    obtain ⟨key, document, seen, parsed, rfl⟩ := launched
    obtain ⟨object, seen', describes⟩ := matched.versions key document seen
    exact ⟨_, rfl, key, object, seen', describes.parse_eq.symm.trans parsed, rfl⟩
  outside before watched after matched moved := by
    obtain ⟨documents, moved, rfl⟩ := moved
    rcases outside_of_outsideDocuments matched.represents moved with
      ⟨cluster, moved', represents⟩ | represents
    · exact ⟨watched.observe cluster, .single ⟨cluster, moved', rfl⟩, matched.observe represents⟩
    · exact ⟨watched, .refl, matched.observeDocuments represents⟩

variable {context : OperatorContext} {crates : Crates} {parseF64 : String → Option F64}

theorem matchesPool_of_reachable (represents : Represents documents cluster) {pool : DocumentPool}
    (reachable : ReachableDocuments context crates parseF64 documents pool) :
    ∃ operator : OperatorPool,
      Reachable (context.deployment crates) apiServer cluster operator ∧
        (context.clients parseF64).MatchesPool MatchesWatched pool operator :=
  (clients_implement context crates parseF64).simulates.run reachable
    ⟨matchesWatched_start represents, .nil⟩

/-- Every run of the operator with its clients on documents is a run of the reconciler in the
cluster they represent: with the same passes, which have made the same calls with the answers as the
clients understand them, and with a cluster that the documents represent again. -/
theorem operator_refines (context : OperatorContext) (crates : Crates)
    (parseF64 : String → Option F64) (documents : Documents) (cluster : Cluster)
    (represents : Represents documents cluster) (pool : DocumentPool)
    (reachable : ReachableDocuments context crates parseF64 documents pool) :
    ∃ operator : OperatorPool,
      Reachable (context.deployment crates) apiServer cluster operator ∧
        Represents pool.state.documents operator.state.cluster ∧
        List.Forall₂ (context.clients parseF64).Carries pool.threads operator.threads := by
  obtain ⟨operator, run, matched⟩ := matchesPool_of_reachable represents reachable
  exact ⟨operator, run, matched.state.represents, matched.threads⟩

end Runs

/-! ### A small store of documents -/

def sampleDocument (object : ExperimentObject) : Json :=
  .object [("metadata", .object (Json.recordFields [
      ("finalizers", object.finalizers.map fun names => .array (names.map .string)),
      ("name", some (.string sampleKey.2)), ("namespace", some (.string sampleKey.1)),
      ("uid", some (.string object.uid))])),
    ("spec", object.spec.toJson)]

def podOn (node : String) : ListedPod where
  spec := some { containers := [], nodeName := some node, restartPolicy := none,
                 serviceAccountName := none }

/-- One experiment without a status, and Pods on two nodes of its namespace. -/
def sampleDocuments (object : ExperimentObject) : Documents where
  experiments := (∅ : Store ObjectKey Json).createAll [(sampleKey, sampleDocument object)]
  jobs := ∅
  virtualServices := ∅
  pods := (∅ : Store ObjectKey ListedPod).createAll
    [(("shop", "payment-1"), podOn "node-b"), (("shop", "payment-2"), podOn "node-a"),
      (("shop", "ledger-1"), podOn "node-b"), (("books", "ledger-1"), podOn "node-c")]
  services := ∅
  clock := 0

def sampleContext : OperatorContext := .start "http://prometheus:9090" none

def sampleCircumstances : Circumstances where
  elapsed := 0
  experimentId := "unused"
  response := .error "no data"
  unreadable := "no experiment"

def serveWatched (request : KubeRequest) (watched : WatchedDocuments) :
    KubeAnswer request × WatchedDocuments :=
  (watched.documents.reply sampleCircumstances request,
    watched.observe (watched.documents.effect sampleCircumstances sampleKey request))

def samplePass (object : ExperimentObject) :
    Program KubeRequest KubeAnswer OperatorError ReconcileResult :=
  (sampleContext.clients fun _ => none).lower
    ((sampleContext.deployment sampleCrates).pass (freshSnapshot sampleKey object))

def sampleTrace (object : ExperimentObject) : List (Exchange KubeRequest KubeAnswer) :=
  (samplePass object).transcript serveWatched (.start (sampleDocuments object))

/-- The pool after one pass on the experiment. -/
def samplePool (object : ExperimentObject) : DocumentPool :=
  let ended := (samplePass object).exec serveWatched (.start (sampleDocuments object))
  ⟨ended.2, [⟨freshSnapshot sampleKey object, (sampleTrace object).reverse ++ [],
    ended.1.remaining⟩]⟩

theorem represents_sample {object : ExperimentObject}
    (describes : Describes sampleKey (sampleDocument object) object) :
    Represents (sampleDocuments object) (sampleCluster [(sampleKey, object)]) where
  experiments := DescribesAll.insert (fun _ => .none) describes
  jobs := rfl
  virtualServices := rfl
  clock := rfl

theorem reachable_samplePool {object : ExperimentObject}
    (describes : Describes sampleKey (sampleDocument object) object)
    (fresh : object.status = .null) :
    ReachableDocuments sampleContext sampleCrates (fun _ => none) (sampleDocuments object)
      (samplePool object) := by
  have read : ChaosExperiment.parse (sampleDocument object) =
      some (freshSnapshot sampleKey object) := by
    rw [describes.parse_eq, ExperimentObject.snapshot, fresh]
    rfl
  have reaches : Program.Reaches
      ((onDocuments sampleContext sampleCrates fun _ => none).answers
        (freshSnapshot sampleKey object)) (samplePass object) (.start (sampleDocuments object))
        (sampleTrace object) _ _ :=
    Program.reaches_serving
      (fun _ _ => ⟨_, ⟨sampleCircumstances, Or.inl ⟨rfl, rfl⟩⟩, rfl⟩) (samplePass object) _
  exact .head ⟨_, .launch ⟨sampleKey, sampleDocument object, rfl, read, rfl⟩⟩
    (Pool.run_thread reaches [] [] [])

/-- A pass that starts two runners. -/
theorem operator_refines_sample : ∃ operator : OperatorPool,
    Reachable (sampleContext.deployment sampleCrates) apiServer
        (sampleCluster [(sampleKey, samplePod)]) operator ∧
      Represents (samplePool samplePod).state.documents operator.state.cluster ∧
      List.Forall₂ (sampleContext.clients fun _ => none).Carries (samplePool samplePod).threads
        operator.threads :=
  have describes : Describes sampleKey (sampleDocument samplePod) samplePod := ⟨rfl, rfl, rfl⟩
  operator_refines sampleContext sampleCrates (fun _ => none) _ _ (represents_sample describes) _
    (reachable_samplePool describes rfl)

end ChimpChaos
