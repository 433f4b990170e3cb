/-
This file says when a pod experiment that is marked `Running` has a Job on every node.

The name of a Job is cut from the uid and the node's name to the 63 characters a name may have.
A name that is taken counts as created. So two nodes whose names agree as far as they are kept
share one Job, and the second of them is left out without an error.
-/

import ChimpChaos.Library.DnsName
import ChimpChaos.Proof.Starting

namespace ChimpChaos

open Library

/-! ### Names of Jobs -/

/-- With an identifier of at least eight ASCII characters, a Job's name keeps eight of them and
41 of the node's name. -/
theorem makeJobName_of_isAscii {id node : String} (asciiId : IsAscii id) (long : 8 ≤ byteLength id)
    (asciiNode : IsAscii node) :
    makeJobName id node = some ("chaos-runner-" ++ String.ofList (id.toList.take 8) ++ "-" ++
      String.ofList (node.toList.take 41)) := by
  have kept : sliceTo id (min 8 (byteLength id)) = some (String.ofList (id.toList.take 8)) := by
    rw [Nat.min_eq_left long, sliceTo_of_isAscii asciiId 8 long]
  have asciiKept : IsAscii (String.ofList (id.toList.take 8)) := by
    intro char member
    rw [String.toList_ofList] at member
    exact asciiId char (List.mem_of_mem_take member)
  have eight : byteLength (String.ofList (id.toList.take 8)) = 8 := by
    rw [byteLength_of_isAscii asciiId] at long
    rw [byteLength_of_isAscii asciiKept, String.toList_ofList, List.length_take,
      Nat.min_eq_left long]
  have short : sliceTo node (min 41 (byteLength node)) =
      some (String.ofList (node.toList.take 41)) := by
    rw [sliceTo_of_isAscii asciiNode _ (Nat.min_le_right _ _), byteLength_of_isAscii asciiNode,
      ← List.take_eq_take_min]
  simp only [makeJobName, kept, Option.bind_eq_bind, Option.bind_some, eight, Nat.reduceSub, short,
    Option.pure_def]

/-! ### Coverage -/

/-- A Job of this experiment is pinned to the node. -/
def NodeCovered (experiment : ChaosExperiment) (cluster : Cluster) (node : String) : Prop :=
  ∃ name tracked, cluster.jobs.lookup (expNamespace experiment, name) = some tracked ∧
    tracked.value.label experimentLabel = some (expName experiment) ∧
    tracked.value.nodeName = some node

/-- There is no Job of this experiment. -/
def WithoutJobs (experiment : ChaosExperiment) (cluster : Cluster) : Prop :=
  ∀ name tracked, cluster.jobs.lookup (expNamespace experiment, name) = some tracked →
    tracked.value.label experimentLabel ≠ some (expName experiment)

/-- Every node is covered, and the recorded names are one for each node. -/
structure Covered (experiment : ChaosExperiment) (nodes : List String) (cluster : Cluster)
    (status : ChaosExperimentStatus) : Prop where
  jobs : ∀ node ∈ nodes, NodeCovered experiment cluster node
  each : status.runnerJobs.length = nodes.length
  distinct : status.runnerJobs.Nodup

/-- The names of the Jobs of these nodes differ, and none of them is taken. -/
structure JobNamesFree (experiment : ChaosExperiment) (uid : String) (nodes : List String)
    (cluster : Cluster) : Prop where
  distinct : (nodes.map (makeJobName ((statusOf experiment).experimentId.getD uid))).Nodup
  free : ∀ node ∈ nodes, ∀ name,
    makeJobName ((statusOf experiment).experimentId.getD uid) node = some name →
      cluster.jobs.lookup (expNamespace experiment, name) = none

section Coverage

variable {deployment : Deployment} {experiment : ChaosExperiment} {history : History}

/-- A requested Job is the Job of a listed node. -/
theorem RequestedJob.ofNode {uid : String} (known : experiment.metadata.uid = some uid)
    {place : ObjectKey} {tracked : Tracked Job}
    (requested : RequestedJob deployment experiment history place tracked) :
    ∃ nodes node name,
      ⟨.listTargetNodes (targetNamespace experiment), .ok nodes⟩ ∈ history ∧ node ∈ nodes ∧
      makeJobName ((statusOf experiment).experimentId.getD uid) node = some name ∧
      place = (expNamespace experiment, name) ∧
      tracked.value.label experimentLabel = some (expName experiment) ∧
      tracked.value.nodeName = some node := by
  obtain ⟨earlier, subset, ns, job, issued, rfl, rfl⟩ := requested
  have asked := issued.issues.jobAsked
  obtain ⟨id, nodes, node, identified, listed, member, built⟩ := asked.source
  have named := jobOfNode_name built
  rw [identified.eq_getD known] at named
  refine ⟨nodes, node, _, subset listed, member, named, ?_, buildRunnerJob_label built,
    buildRunnerJob_nodeName built⟩
  rw [jobKey, asked.place]

/-- When a pass writes `Running` for a pod experiment, it has created a Job for every node of
a list it has been given. -/
theorem Writes.jobsCreated {crates : Crates} {edgeResolver : Bool} {config : ReconcilerConfig}
    {status : ChaosExperimentStatus}
    (writes : Writes crates edgeResolver config experiment history status)
    (running : status.phase = .running) (pod : experiment.spec.scenario.isEdgeChaos = false)
    {uid : String} (known : experiment.metadata.uid = some uid) :
    Starting experiment ∧ ∃ nodes,
      ⟨.listTargetNodes (targetNamespace experiment), .ok nodes⟩ ∈ history ∧
      JobsCreated crates config experiment history ((statusOf experiment).experimentId.getD uid)
        nodes status.runnerJobs := by
  rcases writes.running_cases running known with ⟨starting, ⟨-, created⟩ | ⟨edgeChaos, -⟩⟩
  · exact ⟨starting, created⟩
  · exact absurd (pod.symm.trans edgeChaos) Bool.false_ne_true

end Coverage

/-- When a pass on a pod experiment without Jobs has written `Running`, every listed node has its
Job and the recorded names are one for each node, if and only if the names of these Jobs
differ and none of them was taken when the pass began. -/
theorem covered_iff (deployment : Deployment) (experiment : ChaosExperiment) (uid : String)
    (nodes : List String) (before after : Cluster) (trace : History)
    (rest : Handler ReconcileResult) (known : experiment.metadata.uid = some uid)
    (pod : experiment.spec.scenario.isEdgeChaos = false)
    (untouched : WithoutJobs experiment before)
    (reaches : Program.Reaches (truthfulServer experiment) (deployment.pass experiment) before
      trace rest after)
    (listed : ⟨.listTargetNodes (targetNamespace experiment), .ok nodes⟩ ∈ trace)
    (ns name : String) (status : ChaosExperimentStatus) (answer : Except OperatorError Unit)
    (written : ⟨.patchExperimentStatus ns name status, answer⟩ ∈ trace)
    (running : status.phase = .running) :
    Covered experiment nodes after status ↔ JobNamesFree experiment uid nodes before := by
  have once := listedOnce_of_reaches reaches
  have listedNodes (others : List String)
      (received : ⟨.listTargetNodes (targetNamespace experiment), .ok others⟩ ∈ trace.reverse) :
      others = nodes :=
    Except.ok.inj (once _ _ received (List.mem_reverse.mpr listed))
  obtain ⟨earlier, subset, issued⟩ :=
    issued_of_reaches reaches _ (List.mem_reverse.mpr written)
  obtain ⟨starting, others, received, created⟩ :=
    issued.issues.writes.jobsCreated running pod known
  obtain rfl := listedNodes others (subset received)
  have started := started_of_reaches starting.1 reaches
  constructor
  · intro covered
    refine ⟨?_, fun node member jobName named => ?_⟩
    · rw [created.names]
      exact covered.distinct.map fun _ _ => Option.some.inj
    · obtain ⟨present, tracked, found, label, pinned⟩ := covered.jobs node member
      rcases started.jobs.gained _ _ found with held | ⟨free, requested⟩
      · exact absurd label (untouched present tracked held)
      · obtain ⟨-, node', jobName', -, -, named', place, -, pinned'⟩ := requested.ofNode known
        obtain rfl := Option.some.inj (pinned'.symm.trans pinned)
        obtain rfl := Option.some.inj (named'.symm.trans named)
        rw [(Prod.mk.inj place).2] at free
        exact free
  · intro names
    refine ⟨fun node member => ?_, (List.Forall₂.length_eq created).symm, ?_⟩
    · obtain ⟨job, told, built, requested, accepted⟩ := created.accepted member
      have named := jobOfNode_name built
      obtain ⟨tracked, found⟩ := Option.isSome_iff_exists.mp
        (started.jobTaken _ _ _ (subset requested) accepted)
      rcases started.jobs.gained _ _ found with held | ⟨-, asked⟩
      · rw [jobKey, names.free node member _ named] at held
        cases held
      · obtain ⟨nodes', node', jobName', received', member', named', place, label, pinned⟩ :=
          asked.ofNode known
        obtain rfl := listedNodes nodes' received'
        have sameName : makeJobName ((statusOf experiment).experimentId.getD uid) node' =
            makeJobName ((statusOf experiment).experimentId.getD uid) node := by
          rw [named', named, ← (Prod.mk.inj place).2]
        obtain rfl := List.inj_on_of_nodup_map names.distinct member' member sameName
        exact ⟨_, tracked, found, label, pinned⟩
    · have distinct := names.distinct
      rw [created.names] at distinct
      exact distinct.of_map _

/-- The sample has its Jobs on both nodes after its first pass. -/
theorem covered_sample : ∃ status, Covered (freshSnapshot sampleKey samplePod)
    ["node-a", "node-b"] (clusterAfter sampleDeployment (sampleServer 0)
      (freshSnapshot sampleKey samplePod) (sampleCluster [(sampleKey, samplePod)])) status := by
  let experiment := freshSnapshot sampleKey samplePod
  let before := sampleCluster [(sampleKey, samplePod)]
  obtain ⟨rest, reaches⟩ := reaches_serve sampleDeployment sampleSurroundings experiment before
  obtain ⟨ns, name, status, answer, written, running⟩ : ∃ ns name status answer,
      ⟨.patchExperimentStatus ns name status, answer⟩ ∈
        passTranscript sampleDeployment sampleSurroundings experiment before ∧
      status.phase = .running := written_of_any (by decide +kernel)
  have untouched : WithoutJobs experiment before := fun _ _ found => by cases found
  refine ⟨status, (covered_iff sampleDeployment experiment sampleUid ["node-a", "node-b"] before _
    _ rest rfl rfl untouched reaches List.mem_cons_self ns name status answer written
    running).mpr ⟨by decide +kernel, fun _ _ _ _ => rfl⟩⟩

/-! ### Two nodes with one Job -/

/-- Two nodes of one pool. What the name of their Job keeps of them ends with a letter. -/
def poolNodes : List String :=
  ["gke-production-europe-west10-default-pool-4f2a9c1b",
    "gke-production-europe-west10-default-pool-8d3e7a60"]

/-- The server that lists the two nodes. -/
def poolSurroundings : Surroundings := { sampleSurroundings with targetNodes := .ok poolNodes }

/-- The second of the two nodes is left without a Job. -/
theorem nodeUncovered : ¬ ∀ (deployment : Deployment) (surroundings : Surroundings)
    (experiment : ChaosExperiment) (uid : String) (nodes : List String) (before : Cluster),
    experiment.metadata.uid = some uid → experiment.spec.scenario.isEdgeChaos = false →
    surroundings.targetNodes = .ok nodes → nodes.Nodup →
    (∀ node ∈ nodes, IsDnsSubdomain node.toList ∧ node.toList.length ≤ 253) →
    WithoutJobs experiment before →
    ∀ ns name status answer, ⟨.patchExperimentStatus ns name status, answer⟩ ∈
      passTranscript deployment surroundings experiment before → status.phase = .running →
    Covered experiment nodes (clusterAfter deployment
      (fun experiment => serve surroundings (actorOf experiment)) experiment before) status := by
  intro claim
  let experiment := freshSnapshot sampleKey samplePod
  let before := sampleCluster [(sampleKey, samplePod)]
  obtain ⟨ns, name, status, answer, written, running⟩ : ∃ ns name status answer,
      ⟨.patchExperimentStatus ns name status, answer⟩ ∈
        passTranscript sampleDeployment poolSurroundings experiment before ∧
      status.phase = .running := written_of_any (by decide +kernel)
  have untouched : WithoutJobs experiment before := fun _ _ found => by cases found
  have covered := claim sampleDeployment poolSurroundings experiment sampleUid poolNodes before
    rfl rfl rfl (by decide +kernel) (by decide +kernel) untouched ns name status answer written
    running
  obtain ⟨present, tracked, found, -, pinned⟩ := covered.jobs
    "gke-production-europe-west10-default-pool-8d3e7a60" (by decide +kernel)
  have elsewhere : (clusterAfter sampleDeployment
      (fun experiment => serve poolSurroundings (actorOf experiment)) experiment
      before).jobs.listing.all (fun entry =>
        entry.2.value.nodeName != some "gke-production-europe-west10-default-pool-8d3e7a60") =
      true := by
    decide +kernel
  have other := List.all_eq_true.mp elsewhere _ ((Store.mem_listing _ _ _).mpr found)
  rw [pinned, bne_self_eq_false] at other
  cases other

end ChimpChaos
