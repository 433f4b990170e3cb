/-
This file settles what the operator does to the stored documents, and on which nodes its runners
are put.

A run on documents is a run of the reconciler, whose calls are known. So the operator changes
nothing of an experiment but its status and its finalizers, takes away only what is marked for
deletion, and starts a runner on a node only when the node has been seen with a Pod of the target
namespace, and only once in a pass.
-/

import ChimpChaos.Library.Histories
import ChimpChaos.Proof.DocumentRefinement

namespace ChimpChaos

open Library Relation Program

/-! ### One Job for each node -/

def ApiCall.createdJob : ApiCall → Option Job
  | .createJob _ job => some job
  | _ => none

/-- The Jobs that a pass has asked for. -/
def createdJobs (history : History) : List Job :=
  history.filterMap fun exchange => exchange.1.createdJob

/-- The nodes of the Jobs that a pass has asked for. -/
def createdNodes (history : History) : List (Option String) :=
  (createdJobs history).map Job.nodeName

/-- No list of nodes has repetitions. -/
def ListsDistinct (history : History) : Prop :=
  ∀ ns nodes, ⟨.listTargetNodes ns, .ok nodes⟩ ∈ history → nodes.Nodup

/-- A Job is asked for on a node for which none has been asked, if no node is listed twice. -/
def CreatesOnce (history : History) (request : ApiCall) : Prop :=
  ∀ job, request.createdJob = some job → ListsDistinct history →
    job.nodeName ∉ createdNodes history

section Once

variable {crates : Crates} {config : ReconcilerConfig} {experiment : ChaosExperiment}
  {history : History}

/-- A call that asks for no Job. -/
theorem createsOnce_of_none {request : ApiCall} (other : request.createdJob = none) :
    CreatesOnce history request := fun _ created => nomatch other.symm.trans created

theorem createdNodes_of_none {exchange : Exchange ApiCall Answer}
    (other : exchange.1.createdJob = none) :
    createdNodes (exchange :: history) = createdNodes history := by
  unfold createdNodes createdJobs
  rw [List.filterMap_cons, other]

theorem createdNodes_of_some {exchange : Exchange ApiCall Answer} {job : Job}
    (created : exchange.1.createdJob = some job) :
    createdNodes (exchange :: history) = job.nodeName :: createdNodes history := by
  unfold createdNodes createdJobs
  rw [List.filterMap_cons, created]
  rfl

theorem ListsDistinct.tail {exchange : Exchange ApiCall Answer}
    (distinct : ListsDistinct (exchange :: history)) : ListsDistinct history :=
  fun ns nodes listed => distinct ns nodes (List.mem_cons_of_mem _ listed)

theorem createJobs_once (id : String) (todo : List String)
    (ahead : ListsDistinct history →
      todo.Nodup ∧ ∀ node ∈ todo, some node ∉ createdNodes history) :
    (createJobs crates config experiment id todo).Follows CreatesOnce (fun _ _ => True)
      history := by
  induction todo generalizing history with
  | nil => trivial
  | cons node rest inductionHypothesis =>
    rw [createJobs]
    cases built : jobOfNode crates config experiment id node with
    | none => trivial
    | some job =>
      have pinned : job.nodeName = some node := buildRunnerJob_nodeName built
      refine ⟨fun _ same distinct => ?_, fun answer => ?_⟩
      · obtain rfl := Option.some.inj same
        rw [pinned]
        exact (ahead distinct).2 node List.mem_cons_self
      · have continues := @inductionHypothesis
          (⟨.createJob (expNamespace experiment) job, answer⟩ :: history) fun distinct => by
            obtain ⟨unique, absent⟩ := ahead distinct.tail
            refine ⟨(List.nodup_cons.mp unique).2, fun other member created => ?_⟩
            rw [createdNodes_of_some rfl] at created
            rcases List.mem_cons.mp created with same | created
            · obtain rfl := Option.some.inj (same.trans pinned)
              exact (List.nodup_cons.mp unique).1 member
            · exact absent other (List.mem_cons_of_mem _ member) created
        have goesOn : Follows CreatesOnce (fun _ _ => True)
            (createJobs crates config experiment id rest >>= fun jobNames =>
              .done (job.metadata.name.getD "" :: jobNames))
            (⟨.createJob (expNamespace experiment) job, answer⟩ :: history) :=
          continues.bind (fun _ _ _ => trivial) fun _ _ _ => trivial
        show Follows _ _ (tolerate isAlreadyExists answer >>= _) _
        unfold tolerate
        split
        · exact goesOn
        · split_ifs
          · exact goesOn
          · trivial

variable (crates config experiment) in
theorem handlePendingPod_once (id : String) (fresh : createdNodes history = []) :
    (handlePendingPod crates config experiment id).Follows CreatesOnce (fun _ _ => True)
      history := by
  refine ⟨createsOnce_of_none rfl, fun answer => ?_⟩
  cases answer with
  | error error => trivial
  | ok nodes =>
    show Follows _ _ (if nodes.isEmpty = true then _ else _) _
    split_ifs
    · exact ⟨createsOnce_of_none rfl, fun answer => by cases answer <;> trivial⟩
    · refine (createJobs_once id nodes fun distinct => ?_).bind (fun later jobNames _ => ?_)
        fun _ _ _ => trivial
      · refine ⟨distinct _ nodes List.mem_cons_self, fun node _ => ?_⟩
        rw [createdNodes_of_none rfl, fresh]
        exact List.not_mem_nil
      · exact ⟨createsOnce_of_none rfl, fun time =>
          ⟨createsOnce_of_none rfl, fun answer => by cases answer <;> trivial⟩⟩

/-- A pass that starts runners asks for the identifier first. -/
theorem pass_pendingPod {deployment : Deployment} (starting : Starting experiment)
    (pod : experiment.spec.scenario.isEdgeChaos = false) :
    deployment.pass experiment = (experimentIdOf experiment >>= fun id =>
      handlePendingPod deployment.crates deployment.config experiment id) >>= fun _ =>
        .done (.requeue (requeueDuration .running)) := by
  obtain ⟨⟨⟨kept, alive⟩, pending⟩, valid⟩ := starting
  simp [Deployment.pass, reconcile, kept, alive, pending, handlePending, valid, pod]

theorem pass_once (deployment : Deployment) (experiment : ChaosExperiment) :
    (deployment.pass experiment).Follows CreatesOnce (fun _ _ => True) [] := by
  by_cases starts : Starting experiment ∧ experiment.spec.scenario.isEdgeChaos = false
  · rw [pass_pendingPod starts.1 starts.2]
    have creates (history : History) (fresh : createdNodes history = []) (id : String) :=
      handlePendingPod_once deployment.crates deployment.config experiment id fresh
    have handles : (experimentIdOf experiment >>= fun id =>
        handlePendingPod deployment.crates deployment.config experiment id).Follows CreatesOnce
          (fun _ _ => True) [] := by
      unfold experimentIdOf
      split
      · exact creates [] rfl _
      · exact creates [] rfl _
      · exact ⟨createsOnce_of_none rfl, fun id => creates [⟨.newExperimentId, id⟩] rfl id⟩
    exact handles.bind (fun _ _ _ => trivial) fun _ _ _ => trivial
  · refine (deployment.pass_follows experiment).imp fun history request issued job asked => ?_
    cases request with
    | createJob ns job =>
      cases issued.issues with
      | createJob starting pod => exact absurd ⟨starting, pod⟩ starts
    | _ => cases asked

/-- A call of a pass, and one by which no node gets a second Job. -/
def IssuedOnce (deployment : Deployment) (experiment : ChaosExperiment) (history : History)
    (request : ApiCall) : Prop :=
  deployment.Issued experiment history request ∧ CreatesOnce history request

/-- A history in which each node is asked for once. -/
theorem nodup_createdNodes {deployment : Deployment}
    (obeys : Pool.Obeys (IssuedOnce deployment experiment) history)
    (distinct : ListsDistinct history) : (createdNodes history).Nodup := by
  induction history with
  | nil => exact List.nodup_nil
  | cons last earlier inductionHypothesis =>
    have rest := inductionHypothesis obeys.2 distinct.tail
    cases created : last.1.createdJob with
    | none =>
      rw [createdNodes_of_none created]
      exact rest
    | some job =>
      rw [createdNodes_of_some created]
      exact List.nodup_cons.mpr ⟨obeys.1.2 job created distinct.tail, rest⟩

end Once

/-! ### Passes on documents -/

def KubeRequest.createdJob : KubeRequest → Option Job
  | .createJob _ job => some job
  | _ => none

abbrev KubeHistory : Type := List (Exchange KubeRequest KubeAnswer)

/-- The Jobs that a pass has requested. -/
def requestedJobs (history : KubeHistory) : List Job :=
  history.filterMap fun exchange => exchange.1.createdJob

section Passes

variable {context : OperatorContext} {crates : Crates} {parseF64 : String → Option F64}
  {documents : Documents} {cluster : Cluster} {pool : DocumentPool}

/-- The pass of the reconciler that a thread carries out, with all that is known of it. -/
theorem exists_pass (represents : Represents documents cluster)
    (reachable : ReachableDocuments context crates parseF64 documents pool)
    {front back : List (Thread ChaosExperiment KubeRequest KubeAnswer OperatorError
      ReconcileResult)}
    {thread : Thread ChaosExperiment KubeRequest KubeAnswer OperatorError ReconcileResult}
    (threads : pool.threads = front ++ thread :: back) :
    ∃ upper : Thread ChaosExperiment ApiCall Answer OperatorError ReconcileResult,
      (context.clients parseF64).Carries thread upper ∧
        Pool.Obeys (IssuedOnce (context.deployment crates) thread.tag) upper.history ∧
        upper.rest.Follows (IssuedOnce (context.deployment crates) thread.tag)
          (fun _ _ => True) upper.history := by
  obtain ⟨operator, run, matched⟩ := matchesPool_of_reachable represents reachable
  have carried := matched.threads
  rw [threads] at carried
  obtain ⟨front', upper, back', same, -, carries, -⟩ := Lowering.exists_split front carried
  have keeps : Pool.Keeps (overlapping (context.deployment crates) apiServer)
      (Pool.obeying Watched (IssuedOnce (context.deployment crates))) :=
    Pool.keeps_obeying fun state experiment program launches => by
      obtain ⟨-, rfl⟩ := worksOnVersion_of_launch launches
      exact ((context.deployment crates).pass_follows experiment).and (pass_once _ experiment)
  have meets : Pool.Meets (Pool.obeying Watched (IssuedOnce (context.deployment crates)))
      (idlePool cluster) := ⟨trivial, fun _ absent => absurd absent List.not_mem_nil⟩
  have known := (meets.run keeps run).threads upper
    (same ▸ List.mem_append_right front' List.mem_cons_self)
  rw [carries.tag]
  exact ⟨upper, carries, known⟩

theorem createdJob_put (request : ApiCall) :
    (context.put request).createdJob = request.createdJob := by
  cases request <;> rfl

variable {low : KubeHistory} {history : History}

/-- The Jobs of a pass are those of its requests. -/
theorem requestedJobs_eq
    (translated : List.Forall₂ (context.clients parseF64).Translates low history) :
    requestedJobs low = createdJobs history := by
  induction translated with
  | nil => rfl
  | @cons _ exchange _ _ translates _ inductionHypothesis =>
    obtain ⟨answer, rfl, -⟩ := translates.exists_answer
    have same : ((context.clients parseF64).put exchange.1).createdJob = exchange.1.createdJob :=
      createdJob_put exchange.1
    rw [requestedJobs, List.filterMap_cons, createdJobs, List.filterMap_cons, same]
    split
    · exact inductionHypothesis
    · exact congrArg _ inductionHypothesis

/-- A list of nodes is the list of the nodes of some listed Pods. -/
theorem listPods_of_listTargetNodes
    (translated : List.Forall₂ (context.clients parseF64).Translates low history)
    {ns : String} {nodes : List String}
    (listed : ⟨.listTargetNodes ns, .ok nodes⟩ ∈ history) :
    ∃ pods, ⟨.listPods ns, .ok pods⟩ ∈ low ∧ nodes = targetNodes pods := by
  induction translated with
  | nil => cases listed
  | cons translates _ inductionHypothesis =>
    rcases List.mem_cons.mp listed with rfl | listed
    · obtain ⟨answer, rfl, same⟩ := translates.exists_answer
      cases answer with
      | error error => cases same
      | ok pods => exact ⟨pods, List.mem_cons_self, Except.ok.inj same⟩
    · obtain ⟨pods, member, same⟩ := inductionHypothesis listed
      exact ⟨pods, List.mem_cons_of_mem _ member, same⟩

theorem listsDistinct_of_translated
    (translated : List.Forall₂ (context.clients parseF64).Translates low history) :
    ListsDistinct history := by
  intro ns nodes listed
  obtain ⟨pods, -, rfl⟩ := listPods_of_listTargetNodes translated listed
  exact nodup_targetNodes pods

/-- The Pods that are listed are those of the namespace. -/
theorem stored_of_listed {actor : ObjectKey} {ns : String} {before after : Documents}
    {pods : List ListedPod} (responds : Responds actor (.listPods ns) before (.ok pods) after)
    {pod : ListedPod} (member : pod ∈ pods) :
    ∃ place, before.pods.lookup place = some pod ∧ place.1 = ns := by
  obtain ⟨circumstances, ⟨told, -⟩ | ⟨error, refused, -⟩⟩ := responds
  · obtain rfl := Except.ok.inj told
    obtain ⟨⟨place, stored⟩, entry, rfl⟩ := List.mem_map.mp member
    obtain ⟨listed, named⟩ := List.mem_filter.mp entry
    exact ⟨place, (Store.mem_listing _ _ _).mp listed, of_decide_eq_true named⟩
  · cases refused

end Passes

/-- A runner is put on a node only after a Pod of the target namespace has been seen there, and a
pass asks for at most one Job on each node. -/
theorem runners_pinned (context : OperatorContext) (crates : Crates)
    (parseF64 : String → Option F64) (documents : Documents) (cluster : Cluster)
    (represents : Represents documents cluster) (taken : List (Pool.Taken WatchedDocuments
      ChaosExperiment KubeRequest KubeAnswer OperatorError ReconcileResult))
    (pool : DocumentPool)
    (run : Pool.Run (onDocuments context crates parseF64) (idleDocuments documents) taken pool)
    (thread : Thread ChaosExperiment KubeRequest KubeAnswer OperatorError ReconcileResult)
    (member : thread ∈ pool.threads) :
    ((requestedJobs thread.history).map Job.nodeName).Nodup ∧
      ∀ job ∈ requestedJobs thread.history, ∃ node, job.nodeName = some node ∧
        ∃ step ∈ taken,
          step.event = .call thread.tag (.listPods (targetNamespace thread.tag)) ∧
            ∃ place pod, step.before.state.documents.pods.lookup place = some pod ∧
              place.1 = targetNamespace thread.tag ∧ pod.nodeName = some node := by
  obtain ⟨front, back, threads⟩ := List.append_of_mem member
  obtain ⟨upper, carries, obeys, -⟩ := exists_pass represents run.moves threads
  rw [requestedJobs_eq carries.history]
  refine ⟨nodup_createdNodes obeys (listsDistinct_of_translated carries.history),
    fun job created => ?_⟩
  obtain ⟨⟨request, answer⟩, made, asked⟩ := List.mem_filterMap.mp created
  obtain ⟨earlier, within, issued, -⟩ := obeys.of_mem made
  cases request with
  | createJob ns job' =>
    obtain rfl := Option.some.inj asked
    cases issued.issues with
    | createJob starting pod id identified nodes listed node inNodes _ built =>
      refine ⟨node, buildRunnerJob_nodeName built, ?_⟩
      obtain ⟨pods, seen, rfl⟩ := listPods_of_listTargetNodes carries.history (within listed)
      obtain ⟨step, stepped, event, documents', responds, -⟩ :=
        run.exchanged rfl thread member _ seen
      obtain ⟨listedPod, inPods, onNode⟩ := mem_targetNodes.mp inNodes
      obtain ⟨place, stored, named⟩ := stored_of_listed responds inPods
      exact ⟨step, stepped, event, place, listedPod, stored, named, onNode⟩
  | _ => cases asked

/-- The runner on the node that comes last. -/
theorem runners_pinned_sample : ∃ taken : List (Pool.Taken WatchedDocuments ChaosExperiment
      KubeRequest KubeAnswer OperatorError ReconcileResult),
    Pool.Run (onDocuments sampleContext sampleCrates fun _ => none) (idleDocuments
        (sampleDocuments samplePod)) taken (samplePool samplePod) ∧
      ∃ step ∈ taken, ∃ place pod, step.before.state.documents.pods.lookup place = some pod ∧
        place.1 = "shop" ∧ pod.nodeName = some "node-b" := by
  have describes : Describes sampleKey (sampleDocument samplePod) samplePod := ⟨rfl, rfl, rfl⟩
  obtain ⟨taken, run⟩ := Pool.exists_run (reachable_samplePool describes rfl)
  have last : some "node-b" ∈
      (requestedJobs ((sampleTrace samplePod).reverse ++ [])).map Job.nodeName := by
    decide +kernel
  obtain ⟨job, requested, onLast⟩ := List.mem_map.mp last
  obtain ⟨node, pinned, step, member, -, place, pod, stored, named, onNode⟩ :=
    (runners_pinned sampleContext sampleCrates (fun _ => none) _ _ (represents_sample describes)
      taken _ run _ List.mem_cons_self).2 job requested
  obtain rfl := Option.some.inj (onLast.symm.trans pinned)
  exact ⟨taken, run, step, member, place, pod, stored, named, onNode⟩

/-! ### What is left of a document -/

/-- A document is as it was but for its status and its finalizers. -/
structure Spared (document document' : Json) : Prop where
  fields : ∀ key, key ≠ "metadata" → key ≠ "status" → document'.get? key = document.get? key
  metadata : ∀ key, key ≠ "finalizers" →
    (documentMetadata document').get? key = (documentMetadata document).get? key

def IsMarked (document : Json) : Prop :=
  ∃ metadata, ObjectMeta.parse (documentMetadata document) = some metadata ∧
    metadata.deletionTimestamp.isSome = true

/-- What a request made on behalf of an experiment makes of the documents: it changes no other
experiment and makes no new one, and it takes away only what is marked for deletion. -/
structure SparesExperiments (actor : ObjectKey) (before after : Store ObjectKey Json) : Prop where
  kept : ∀ key document', after.lookup key = some document' →
    ∃ document, before.lookup key = some document ∧ Spared document document' ∧
      (key ≠ actor → document' = document)
  gone : ∀ key document, before.lookup key = some document → after.lookup key = none →
    key = actor ∧ IsMarked document

section Spares

variable {actor key : ObjectKey} {document : Json} {experiments : Store ObjectKey Json}

theorem spared_refl (document : Json) : Spared document document :=
  ⟨fun _ _ _ => rfl, fun _ _ => rfl⟩

theorem spared_statusPatched (document status : Json) :
    Spared document (statusPatched document (.object [("status", status)])) where
  fields key _ different := by rw [statusPatched, Json.get?_withField, if_neg different]
  metadata key _ := by
    rw [documentMetadata, statusPatched, Json.get?_withField, if_neg (by decide), documentMetadata]

theorem spared_resourcePatched (document : Json) (finalizers : List String) :
    Spared document (resourcePatched document (finalizersPatch finalizers)) where
  fields key notMetadata notStatus := by
    rw [resourcePatched, Json.get?_withField, if_neg notStatus, finalizersPatch,
      Json.get?_mergePatch_single, if_neg notMetadata]
  metadata key different := by
    rw [documentMetadata_resourcePatched, Json.get?_mergePatch_single, if_neg different]

theorem sparesExperiments_refl (actor : ObjectKey) (experiments : Store ObjectKey Json) :
    SparesExperiments actor experiments experiments where
  kept _ document found := ⟨document, found, spared_refl document, fun _ => rfl⟩
  gone _ _ found absent := absurd (found.symm.trans absent) (Option.some_ne_none _)

theorem sparesExperiments_insert (stored : experiments.lookup key = some document)
    {document' : Json} (spared : Spared document document') :
    SparesExperiments key experiments (AList.insert key document' experiments) where
  kept other found' found := by
    by_cases same : other = key
    · subst same
      rw [AList.lookup_insert] at found
      obtain rfl := Option.some.inj found
      exact ⟨document, stored, spared, fun different => absurd rfl different⟩
    · rw [AList.lookup_insert_ne same] at found
      exact ⟨found', found, spared_refl found', fun _ => rfl⟩
  gone other found' found absent := by
    by_cases same : other = key
    · rw [same, AList.lookup_insert] at absent
      cases absent
    · rw [AList.lookup_insert_ne same] at absent
      exact absurd (found.symm.trans absent) (Option.some_ne_none _)

theorem sparesExperiments_erase (stored : experiments.lookup key = some document)
    (marked : IsMarked document) :
    SparesExperiments key experiments (AList.erase key experiments) where
  kept other found' found := by
    rw [Store.lookup_erase_ite] at found
    split_ifs at found with same
    exact ⟨found', found, spared_refl found', fun _ => rfl⟩
  gone other found' found absent := by
    by_cases same : other = key
    · subst same
      obtain rfl := Option.some.inj (stored.symm.trans found)
      exact ⟨rfl, marked⟩
    · rw [AList.lookup_erase_ne same] at absent
      exact absurd (found.symm.trans absent) (Option.some_ne_none _)

theorem sparesExperiments_patch {objects : Store ObjectKey ExperimentObject}
    (all : DescribesAll experiments objects) (key : ObjectKey) (finalizers : List String) :
    SparesExperiments key experiments
      (storePatched experiments key (finalizersPatch finalizers)) := by
  obtain ⟨absent, -⟩ | ⟨document, object, stored, -, describes⟩ := all.cases key
  · rw [storePatched, absent]
    exact sparesExperiments_refl key experiments
  · rw [storePatched, stored]
    dsimp only
    split_ifs with released
    · rw [(describes.resourcePatched finalizers).isReleased, Bool.and_eq_true] at released
      exact sparesExperiments_erase stored ⟨_, describes.metadata, released.1⟩
    · exact sparesExperiments_insert stored (spared_resourcePatched document finalizers)

theorem sparesExperiments_patchStatus (key : ObjectKey) (status : Json) :
    SparesExperiments key experiments (experiments.update key fun document =>
      statusPatched document (.object [("status", status)])) := by
  cases stored : experiments.lookup key with
  | none =>
    rw [Store.update_of_absent stored]
    exact sparesExperiments_refl key experiments
  | some document =>
    rw [Store.update, stored]
    exact sparesExperiments_insert stored (spared_statusPatched document status)

/-- A call of a pass spares the experiments. -/
theorem sparesExperiments_effect {context : OperatorContext} {crates : Crates}
    {documents : Documents} {objects : Store ObjectKey ExperimentObject}
    (all : DescribesAll documents.experiments objects) {experiment : ChaosExperiment}
    {history : History} {request : ApiCall}
    (issued : (context.deployment crates).Issued experiment history request)
    (circumstances : Circumstances) (actor : ObjectKey) :
    SparesExperiments (actorOf experiment) documents.experiments
      (documents.effect circumstances actor (context.put request)).experiments := by
  cases issued.issues with
  | addFinalizer => exact sparesExperiments_patch all _ [finalizerName]
  | removeFinalizer => exact sparesExperiments_patch all _ []
  | patch status => exact sparesExperiments_patchStatus _ status.toJson
  | _ => exact sparesExperiments_refl _ _

end Spares

/-- Whatever is requested in a run of the operator, of every experiment everything but its status
and its finalizers stays as it is, only the experiment of the pass is written at all, no experiment
is made, and one goes away only when it is marked for deletion. -/
theorem documents_spared (context : OperatorContext) (crates : Crates)
    (parseF64 : String → Option F64) (documents : Documents) (cluster : Cluster)
    (represents : Represents documents cluster) (pool pool' : DocumentPool)
    (reachable : ReachableDocuments context crates parseF64 documents pool)
    (experiment : ChaosExperiment) (request : KubeRequest)
    (step : Pool.Step (onDocuments context crates parseF64) (.call experiment request) pool pool') :
    SparesExperiments (actorOf experiment) pool.state.documents.experiments
      pool'.state.documents.experiments := by
  obtain ⟨operator, -, matched⟩ := matchesPool_of_reachable represents reachable
  have all := matched.state.represents.experiments
  cases step with
  | call answered =>
    obtain ⟨⟨tag, history, rest⟩, carries, -, follows⟩ := exists_pass represents reachable rfl
    have carried := carries.rest
    cases rest with
    | call asked next =>
      cases carried
      obtain ⟨documents', ⟨circumstances, answers⟩, rfl⟩ := answered
      have spares := sparesExperiments_effect all follows.1.1 circumstances (actorOf experiment)
      obtain ⟨-, rfl⟩ | ⟨error, -, -, rfl | rfl⟩ := answers
      · exact spares
      · exact sparesExperiments_refl _ _
      · exact spares
    | _ => cases carried

/-- An experiment that does not have the finalizer yet. -/
def sampleUnheld : ExperimentObject := { samplePod with finalizers := none }

def KubeRequest.isPatch : KubeRequest → Bool
  | .patch .. => true
  | _ => false

/-- The step that adds the finalizer. -/
theorem documents_spared_sample : ∃ request : KubeRequest, request.isPatch = true ∧
    ∃ pool pool' : DocumentPool,
      Pool.Step (onDocuments sampleContext sampleCrates fun _ => none)
        (.call (freshSnapshot sampleKey sampleUnheld) request) pool pool' ∧
      SparesExperiments sampleKey pool.state.documents.experiments
        pool'.state.documents.experiments := by
  have describes : Describes sampleKey (sampleDocument sampleUnheld) sampleUnheld := ⟨rfl, rfl, rfl⟩
  obtain ⟨taken, run⟩ := Pool.exists_run (reachable_samplePool describes rfl)
  have patches : ((sampleTrace sampleUnheld).reverse ++ []).any
      (fun exchange => exchange.1.isPatch) = true := by
    decide +kernel
  obtain ⟨⟨request, answer⟩, made, patch⟩ := List.any_eq_true.mp patches
  obtain ⟨step, member, event, -⟩ := run.exchanged rfl _ List.mem_cons_self _ made
  have stepped := run.taken step member
  rw [event] at stepped
  exact ⟨request, patch, step.before, step.after, stepped, documents_spared sampleContext
    sampleCrates (fun _ => none) _ _ (represents_sample describes) _ _ (run.before step member) _ _
    stepped⟩

end ChimpChaos
