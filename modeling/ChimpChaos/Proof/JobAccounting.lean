/-
This file follows the Jobs of a pod experiment from their creation to the list in its status.

A pass records the names of the nodes it has listed, so a Job that an earlier pass created
for a node that is no longer listed is forgotten. As long as every pass that takes the
experiment out of Pending lists the nodes of the Jobs that are there, none is.
-/

import ChimpChaos.Proof.Lifecycle

namespace ChimpChaos

open Library Relation

/-- Every Job the operator created for the experiment is in the experiment's namespace and,
once the experiment has left Pending, in the recorded list. -/
def JobsAccounted (key : ObjectKey) (cluster : Cluster) : Prop :=
  ∀ status, storedStatus key cluster = some status → ∀ place tracked,
    CreatedJob key cluster place tracked →
    place.1 = key.1 ∧ (status.phase ≠ .pending → place.2 ∈ status.runnerJobs)

/-- A pass has been given the node of every Job that the operator had created before. -/
def ListsNodesOf (key : ObjectKey) (before : Cluster) (experiment : ChaosExperiment)
    (history : History) : Prop :=
  ∀ place tracked, CreatedJob key before place tracked →
    ∃ uid nodes node, experiment.metadata.uid = some uid ∧
      ⟨.listTargetNodes (targetNamespace experiment), .ok nodes⟩ ∈ history ∧ node ∈ nodes ∧
      makeJobName uid node = some place.2

/-- A pass that takes the experiment out of Pending has been given the node of every Job that
the operator had created before. -/
def ListsEarlierNodes (key : ObjectKey) : PassCondition := fun before experiment history after =>
  (statusOf experiment).phase = .pending →
    (∃ status, storedStatus key after = some status ∧ status.phase ≠ .pending) →
    ListsNodesOf key before experiment history

section Accounting

variable {deployment : Deployment} {key : ObjectKey} {service : Service} {before after : Cluster}
  {experiment : ChaosExperiment} {history : History}

/-- The Jobs of the experiment after a pass were there before it, or were asked for by it. -/
theorem Handled.createdJob (handled : Handled deployment key experiment before history after)
    {place : ObjectKey} {tracked : Tracked Job} (created : CreatedJob key after place tracked) :
    (∃ earlier, CreatedJob key before place earlier) ∨
      ∃ earlier ns job, earlier ⊆ history ∧
        deployment.Issued experiment earlier (.createJob ns job) ∧ place = jobKey ns job := by
  rcases handled.job place tracked created.1 with
    ⟨earlier, stored, same⟩ | ⟨earlier, ns, job, subset, asked, same, -⟩
  · exact Or.inl ⟨earlier, stored, same.1.trans created.2⟩
  · exact Or.inr ⟨earlier, ns, job, subset, asked, same⟩

/-- A pass on a pending experiment that leaves it pending, or writes nothing, keeps the
account. -/
theorem jobsAccounted_of_kept (handled : Handled deployment key experiment before history after)
    (snapshot : actorOf experiment = key) (accounted : JobsAccounted key before)
    {status : ChaosExperimentStatus} (stored : storedStatus key before = some status)
    (same : statusOf experiment = status) {place : ObjectKey} {tracked : Tracked Job}
    (created : CreatedJob key after place tracked) :
    place.1 = key.1 ∧ (status.phase ≠ .pending → place.2 ∈ status.runnerJobs) := by
  rcases handled.createdJob created with ⟨earlier, found⟩ | ⟨earlier, ns, job, -, asked, rfl⟩
  · exact accounted status stored place earlier found
  · have known := asked.issues.jobAsked
    refine ⟨by rw [jobKey, known.place, ← snapshot]; rfl, fun started => ?_⟩
    rw [← same] at started
    exact absurd known.starting.1.2 started

/-- The account after the write that takes a pending experiment to `Running`. -/
theorem jobsAccounted_of_runningPod
    (pass : Pass deployment service key before experiment history after)
    (handled : Handled deployment key experiment before history after)
    (unrecorded : (statusOf experiment).experimentId = none)
    (lists : ListsNodesOf key before experiment history)
    {uid : String} (known : experiment.metadata.uid = some uid) {earlier : History}
    (subset : earlier ⊆ history) {id : String} (identified : IsExperimentId experiment earlier id)
    {nodes jobNames : List String}
    (listed : ⟨.listTargetNodes (targetNamespace experiment), .ok nodes⟩ ∈ earlier)
    (recorded : JobsCreated deployment.crates deployment.config experiment earlier id nodes
      jobNames)
    {place : ObjectKey} {tracked : Tracked Job} (created : CreatedJob key after place tracked) :
    place.2 ∈ jobNames := by
  obtain rfl := identified.eq_uid (Or.inl unrecorded) known
  rcases handled.createdJob created with ⟨first, found⟩ | ⟨older, ns, job, subsetOlder, asked, rfl⟩
  · obtain ⟨uid, others, node, same, listedOthers, member, named⟩ := lists place first found
    obtain rfl := Option.some.inj (known.symm.trans same)
    obtain rfl := Except.ok.inj (pass.listedOnce _ _ (subset listed) listedOthers)
    exact recorded.name_mem member named
  · obtain ⟨other, others, node, identifiedOther, listedOthers, member, built⟩ :=
      asked.issues.jobAsked.source
    obtain rfl := identifiedOther.eq_uid (Or.inl unrecorded) known
    obtain rfl := Except.ok.inj
      (pass.listedOnce _ _ (subset listed) (subsetOlder listedOthers))
    exact recorded.name_mem member (jobOfNode_name built)

/-- Whoever created a Job that is there after a pass, the pass has listed a node for it. -/
theorem listed_of_createdJob
    (pass : Pass deployment service key before experiment history after)
    (handled : Handled deployment key experiment before history after)
    (lists : ListsNodesOf key before experiment history) {place : ObjectKey}
    {tracked : Tracked Job} (created : CreatedJob key after place tracked) :
    Starting experiment ∧ experiment.spec.scenario.isEdgeChaos = false ∧ ∃ nodes node,
      ⟨.listTargetNodes (targetNamespace experiment), .ok nodes⟩ ∈ history ∧ node ∈ nodes := by
  have listing : ∃ nodes node,
      ⟨.listTargetNodes (targetNamespace experiment), .ok nodes⟩ ∈ history ∧ node ∈ nodes := by
    rcases handled.createdJob created with ⟨first, found⟩ | ⟨older, ns, job, subset, asked, rfl⟩
    · obtain ⟨-, nodes, node, -, listed, member, -⟩ := lists place first found
      exact ⟨nodes, node, listed, member⟩
    · obtain ⟨-, nodes, node, -, listed, member, -⟩ := asked.issues.jobAsked.source
      exact ⟨nodes, node, subset listed, member⟩
  obtain ⟨nodes, node, listed, member⟩ := listing
  obtain ⟨_, -, asked⟩ := pass.issued _ listed
  have known := asked.issues.nodesAsked
  exact ⟨known.starting, known.pod, nodes, node, listed, member⟩

/-- A pass that fails a pending experiment leaves no Job of it behind. -/
theorem not_createdJob_of_failed
    (pass : Pass deployment service key before experiment history after)
    (handled : Handled deployment key experiment before history after)
    (lists : ListsNodesOf key before experiment history) {earlier : History}
    (subset : earlier ⊆ history) {message : String}
    (reason : FailureReason experiment earlier message) {place : ObjectKey}
    {tracked : Tracked Job} (created : CreatedJob key after place tracked) : False := by
  obtain ⟨starting, pod, nodes, node, listed, member⟩ :=
    listed_of_createdJob pass handled lists created
  cases reason with
  | invalid error refused =>
    rw [starting.2] at refused
    cases refused
  | noTargetNodes _ empty =>
    obtain rfl := Except.ok.inj (pass.listedOnce _ _ (subset empty) listed)
    cases member
  | sourceServiceNotFound edgeChaos | conflictingVirtualService edgeChaos | unresolved edgeChaos
  | noFault edgeChaos => exact absurd (pod.symm.trans edgeChaos) Bool.false_ne_true

/-- Every turn keeps the account. -/
theorem jobsAccounted_turn (within : service.Within) {stage : Stage}
    (turn : Turn deployment service key (ListsEarlierNodes key) before after)
    (rendered : Renders deployment.crates key before stage)
    (accounted : JobsAccounted key before) : JobsAccounted key after := by
  intro status' stored' place tracked created
  obtain ⟨object', found, parsed'⟩ := storedStatus_eq_some.mp stored'
  rcases turn with outside | ⟨experiment, history, pass, lists⟩
  · obtain ⟨object, timestamp, stored, -, rfl⟩ := outside.drift.object key object' found
    obtain ⟨earlier, foundJob, same⟩ := outside.drift.job place tracked created.1
    exact accounted status' (storedStatus_eq_some.mpr ⟨object, stored, parsed'⟩) place earlier
      ⟨foundJob, same.1.trans created.2⟩
  · have handled := pass.handled within
    obtain ⟨object, stored, snapshot⟩ := pass.snapshot
    obtain ⟨message, parsed, -⟩ := rendered object stored
    have storedBefore := storedStatus_eq_some.mpr ⟨object, stored, snapshot.status⟩
    have kept :=
      jobsAccounted_of_kept handled snapshot.actorOf_eq accounted storedBefore rfl created
    have status : statusOf experiment = stage.status deployment.crates message :=
      Option.some.inj (snapshot.status.symm.trans parsed)
    obtain ⟨origin, storedOrigin, -, -, moves⟩ := handled.object object' found
    rw [stored] at storedOrigin
    obtain rfl := Option.some.inj storedOrigin
    generalize document : object'.status = stored'' at moves parsed'
    cases moves with
    | kept =>
      obtain rfl := Option.some.inj (snapshot.status.symm.trans parsed')
      exact kept
    | written earlier subset written writes =>
      rw [ChaosExperimentStatus.parse_mergePatch _ _ _ snapshot.status] at parsed'
      obtain rfl := Option.some.inj parsed'
      refine ⟨kept.1, fun started => ?_⟩
      cases writes with
      | failed pending message' reason =>
        exact (not_createdJob_of_failed pass handled
          (lists pending.2 ⟨_, stored', started⟩) subset reason created).elim
      | runningPod starting pod id identified nodes jobNames listed nonempty recorded time read =>
        have unrecorded := Stage.pending_unrecorded status starting.1.2
        rw [ChaosExperimentStatus.merge_runnerJobs_of_nil unrecorded.2]
        exact jobsAccounted_of_runningPod pass handled unrecorded.1
          (lists starting.1.2 ⟨_, stored', started⟩) snapshot.uid subset identified listed recorded
          created
      | runningEdge starting edgeChaos id identified edge sourceLabels checked document' built
          answer requested accepted time read =>
        obtain ⟨-, pod, -⟩ := listed_of_createdJob pass handled
          (lists starting.1.2 ⟨_, stored', started⟩) created
        exact absurd (pod.symm.trans edgeChaos) Bool.false_ne_true
      | completed active running phase terminal message' time read =>
        rw [merge_completed]
        exact kept.2 (by rw [running]; nofun)
      | cleaned active terminal unclean jobs services =>
        rw [merge_cleaned]
        refine kept.2 fun pending => ?_
        rw [pending] at terminal
        cases terminal

end Accounting

/-- In every state a run reaches, every Job the operator created for the experiment is recorded
once the experiment has left Pending, when the passes that take it out of Pending have been
given the nodes of the Jobs that were there. -/
theorem createdJob_recorded (deployment : Deployment) (key : ObjectKey) (initial final : Cluster)
    (object : ExperimentObject) (stored : initial.experiments.lookup key = some object)
    (fresh : object.status = .null)
    (untouched : ∀ place tracked, ¬ CreatedJob key initial place tracked)
    (run : ReflTransGen (Turn deployment anyListings key (ListsEarlierNodes key)) initial final)
    (status : ChaosExperimentStatus) (found : storedStatus key final = some status)
    (started : status.phase ≠ .pending) (place : ObjectKey) (tracked : Tracked Job)
    (created : CreatedJob key final place tracked) :
    place.1 = key.1 ∧ place.2 ∈ status.runnerJobs := by
  let Keeps (cluster : Cluster) : Prop :=
    (∃ stage, Renders deployment.crates key cluster stage) ∧ JobsAccounted key cluster
  have kept : Keeps final := by
    refine invariant_of_run run ⟨⟨_, renders_fresh deployment.crates stored fresh⟩, ?_⟩ ?_
    · intro _ _ place tracked created
      exact absurd created (untouched place tracked)
    · rintro before after ⟨⟨stage, rendered⟩, accounted⟩ turn
      obtain ⟨stage', -, rendered'⟩ := turn_simulates anyListings_within _ _ _ turn rendered
      exact ⟨⟨stage', rendered'⟩, jobsAccounted_turn anyListings_within turn rendered accounted⟩
  obtain ⟨inside, recorded⟩ := kept.2 status found place tracked created
  exact ⟨inside, recorded started⟩

/-- A server that lists some nodes and fails to create the Job of one of them. -/
def brokenNodeServer (nodes : List String) (brokenJob : String) : Server := fun experiment =>
  serveRefusing
    (fun request =>
      match request with
      | .createJob _ job =>
        if job.metadata.name = some brokenJob then some (.kube (.api 500 "unavailable")) else none
      | _ => none)
    { sampleSurroundings with targetNodes := .ok nodes } (actorOf experiment)

theorem brokenNodeServer_serves (nodes : List String) (brokenJob : String) :
    (brokenNodeServer nodes brokenJob).Serves apiServer := by
  refine fun _ _ _ => permits_serveRefusing ?_ _ _ _ _
  intro request error refused
  cases request with
  | createJob ns job =>
    simp only at refused
    split_ifs at refused
    obtain rfl := Option.some.inj refused
    rfl
  | _ => cases refused

/-- The cluster after a pass that has created the Job of `node-a` and failed on that of `node-b`. -/
def halfStarted : Cluster :=
  runPass sampleDeployment (brokenNodeServer ["node-a", "node-b"] "chaos-runner-0b8f5c1e-node-b")
    sampleKey (sampleCluster [(sampleKey, samplePod)])

/-- The nodes that an exchange lists, with the namespace. -/
def nodesTold : Exchange ApiCall Answer → Option (String × List String)
  | ⟨.listTargetNodes ns, .ok nodes⟩ => some (ns, nodes)
  | _ => none

theorem listed_of_nodesTold {history : History} {ns : String} {nodes : List String}
    (told : (ns, nodes) ∈ history.filterMap nodesTold) :
    ⟨.listTargetNodes ns, .ok nodes⟩ ∈ history := by
  obtain ⟨⟨request, answer⟩, member, same⟩ := List.mem_filterMap.mp told
  cases request with
  | listTargetNodes other =>
    cases answer with
    | error error => cases same
    | ok others =>
      obtain ⟨rfl, rfl⟩ := Prod.mk.inj (Option.some.inj same)
      exact member
  | _ => cases same

/-- The pass after it is given both nodes. -/
theorem listsNodesOf_halfStarted (experiment : ChaosExperiment)
    (decoded : (halfStarted.experiments.lookup sampleKey).bind (fun object =>
      object.snapshot sampleKey) = some experiment) :
    ListsNodesOf sampleKey halfStarted experiment (passHistory sampleDeployment
      (brokenNodeServer ["node-a", "node-b"] "") experiment halfStarted) := by
  intro place tracked created
  have evaluated : ((halfStarted.experiments.lookup sampleKey).bind fun object =>
      object.snapshot sampleKey).map (fun experiment => (experiment.metadata.uid,
        (passHistory sampleDeployment (brokenNodeServer ["node-a", "node-b"] "") experiment
          halfStarted).filterMap nodesTold == [(targetNamespace experiment, ["node-a", "node-b"])],
        halfStarted.jobs.listing.map fun entry => entry.1.2)) =
      some (some "0b8f5c1e-7d54-4f6a-9d0e-3c2a1b4d5e6f", true,
        ["chaos-runner-0b8f5c1e-node-a"]) := by decide +kernel
  rw [decoded] at evaluated
  obtain ⟨uid, rest⟩ := Prod.mk.inj (Option.some.inj evaluated)
  obtain ⟨told, jobs⟩ := Prod.mk.inj rest
  have named := List.mem_map_of_mem (f := fun entry => entry.1.2)
    ((Store.mem_listing halfStarted.jobs place tracked).mpr created.1)
  rw [jobs, List.mem_singleton] at named
  refine ⟨_, ["node-a", "node-b"], "node-a", uid, listed_of_nodesTold ?_,
    List.mem_cons_self, ?_⟩
  · rw [eq_of_beq told]
    exact List.mem_singleton.mpr rfl
  · rw [show place.2 = "chaos-runner-0b8f5c1e-node-a" from named]
    decide +kernel

/-- After a pass that has failed half way, a pass that is given both nodes records both Jobs. -/
theorem createdJob_recorded_sample :
    let final := runPass sampleDeployment (brokenNodeServer ["node-a", "node-b"] "") sampleKey
      halfStarted
    halfStarted.jobs.listing.map (fun entry => entry.1.2) = ["chaos-runner-0b8f5c1e-node-a"] ∧
      (storedStatus sampleKey final).map (fun status => (status.phase, status.runnerJobs)) =
        some (.running, ["chaos-runner-0b8f5c1e-node-a", "chaos-runner-0b8f5c1e-node-b"]) ∧
      ∀ status, storedStatus sampleKey final = some status → status.phase ≠ .pending →
        ∀ place tracked, CreatedJob sampleKey final place tracked →
          place.1 = sampleKey.1 ∧ place.2 ∈ status.runnerJobs := by
  intro final
  refine ⟨by decide +kernel, by decide +kernel, ?_⟩
  have first : ReflTransGen (Turn sampleDeployment anyListings sampleKey
      (ListsEarlierNodes sampleKey)) (sampleCluster [(sampleKey, samplePod)]) halfStarted :=
    turn_runPass (brokenNodeServer_serves _ _).any _ fun _ _ _ _ place tracked created =>
      absurd created (not_createdJob_sample _ _ place tracked)
  have second : ReflTransGen (Turn sampleDeployment anyListings sampleKey
      (ListsEarlierNodes sampleKey)) halfStarted final :=
    turn_runPass (brokenNodeServer_serves _ _).any _ fun experiment decoded _ _ =>
      listsNodesOf_halfStarted experiment decoded
  exact createdJob_recorded sampleDeployment sampleKey (sampleCluster [(sampleKey, samplePod)]) _
    samplePod rfl rfl (not_createdJob_sample _ sampleKey) (first.trans second)

/-- The first pass creates the Job of `node-a` and fails on `node-b`. The second is given
`node-b` alone, and the Job of `node-a` is forgotten. -/
theorem createdJob_forgotten :
    ¬ ∀ (deployment : Deployment) (key : ObjectKey) (initial final : Cluster)
      (object : ExperimentObject), initial.experiments.lookup key = some object →
      object.status = .null → object.spec.scenario.isEdgeChaos = false →
      (∀ place tracked, ¬ CreatedJob key initial place tracked) →
      ReflTransGen (Turn deployment anyListings key anyPass) initial final →
      ∀ status, storedStatus key final = some status → status.phase ≠ .pending →
      ∀ place tracked, CreatedJob key final place tracked → place.2 ∈ status.runnerJobs := by
  intro claim
  let servers := [brokenNodeServer ["node-a", "node-b"] "chaos-runner-0b8f5c1e-node-b",
    brokenNodeServer ["node-b"] ""]
  have run : ReflTransGen (Turn sampleDeployment anyListings sampleKey anyPass)
      (sampleCluster [(sampleKey, samplePod)])
      (runPasses sampleDeployment sampleKey (sampleCluster [(sampleKey, samplePod)]) servers) := by
    refine run_runPasses ?_ (fun _ _ _ _ => trivial) _
    intro server member
    simp only [servers, List.mem_cons, List.not_mem_nil, or_false] at member
    rcases member with rfl | rfl <;> exact (brokenNodeServer_serves _ _).any
  have recorded : (storedStatus sampleKey (runPasses sampleDeployment sampleKey
      (sampleCluster [(sampleKey, samplePod)]) servers)).map
      (fun status => (status.phase, status.runnerJobs)) =
        some (.running, ["chaos-runner-0b8f5c1e-node-b"]) := by decide +kernel
  obtain ⟨status, found, same⟩ := Option.map_eq_some_iff.mp recorded
  obtain ⟨tracked, left⟩ : ∃ tracked, CreatedJob sampleKey (runPasses sampleDeployment sampleKey
      (sampleCluster [(sampleKey, samplePod)]) servers)
      ("chaos", "chaos-runner-0b8f5c1e-node-a") tracked :=
    createdJob_of_creator (by decide +kernel)
  obtain ⟨phase, jobs⟩ := Prod.mk.inj same
  have named := claim sampleDeployment sampleKey _ _ samplePod rfl rfl rfl
    (not_createdJob_sample _ sampleKey) run status found (by rw [phase]; nofun) _ tracked left
  rw [jobs] at named
  exact absurd named (by decide)

end ChimpChaos
