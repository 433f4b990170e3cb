/-
This file proves that what the operator creates for an experiment has one name, however many
passes overlap.

Every pass derives its identifier from the status of its snapshot or else from the uid. Both
agree in every version that was ever stored, because a version records an identifier only
after some pass has derived it in the same way; so the names that two passes ask for are the
same, and the API server lets only one of two creations under one name succeed.
-/

import ChimpChaos.Cluster.Overlap
import ChimpChaos.Proof.CleanupGuarantee

namespace ChimpChaos

open Library Relation

/-! ### The invariant of one experiment -/

/-- The stored identifier is unset or the uid, and the recorded Jobs are those of nodes. -/
structure Identified (origin : ExperimentObject) (status : ChaosExperimentStatus) : Prop where
  id : status.experimentId = none ∨ status.experimentId = some origin.uid
  jobs : ∀ name ∈ status.runnerJobs, origin.spec.scenario.isEdgeChaos = false ∧
    ∃ node, makeJobName origin.uid node = some name

/-- A Job is where and what the operator makes it for a node of the experiment. -/
structure JobOf (key : ObjectKey) (origin : ExperimentObject) (place : ObjectKey) (job : Job) :
    Prop where
  pod : origin.spec.scenario.isEdgeChaos = false
  inside : place.1 = key.1
  name : ∃ node, job.nodeName = some node ∧ makeJobName origin.uid node = some place.2

/-- A VirtualService is where and what the operator makes it for the experiment. -/
structure ServiceOf (key : ObjectKey) (origin : ExperimentObject) (place : ObjectKey)
    (document : Json) : Prop where
  edgeChaos : origin.spec.scenario.isEdgeChaos = true
  inside : place.1 = servicesNamespace key origin.spec
  name : virtualServiceName origin.uid = some place.2
  owned : ∀ name, isOwnedBy name (documentLabels document) = true ↔ name = key.2

/-- What holds of every version of an experiment and of everything created for it. -/
structure Identity (key : ObjectKey) (origin : ExperimentObject) (watched : Watched) : Prop where
  version : ∀ object, watched.seen key object → object.uid = origin.uid ∧
    object.spec = origin.spec ∧ ∃ status, ChaosExperimentStatus.parse object.status = some status ∧
      Identified origin status
  job : ∀ place tracked, CreatedJob key watched.cluster place tracked →
    JobOf key origin place tracked.value
  service : ∀ place tracked, CreatedService key watched.cluster place tracked →
    ServiceOf key origin place tracked.value

section Identity

variable {deployment : Deployment} {service : Service} {key : ObjectKey}
  {origin : ExperimentObject} {before after : Watched} {experiment : ChaosExperiment}
  {history : History}

theorem identity_start {initial : Cluster} (stored : initial.experiments.lookup key = some origin)
    (fresh : origin.status = .null)
    (untouchedJobs : ∀ place tracked, ¬ CreatedJob key initial place tracked)
    (untouchedServices : ∀ place tracked, ¬ CreatedService key initial place tracked) :
    Identity key origin (.start initial) where
  version := fun object seen => by
    change initial.experiments.lookup key = some object at seen
    rw [stored] at seen
    obtain rfl := Option.some.inj seen
    exact ⟨rfl, rfl, default, by rw [fresh]; rfl, ⟨Or.inl rfl, fun _ member => nomatch member⟩⟩
  job := fun place tracked created => absurd created (untouchedJobs place tracked)
  service := fun place tracked created => absurd created (untouchedServices place tracked)

/-- The snapshot of a version of this experiment. -/
structure SnapshotOf (key : ObjectKey) (origin : ExperimentObject) (experiment : ChaosExperiment) :
    Prop where
  actor : actorOf experiment = key
  uid : experiment.metadata.uid = some origin.uid
  spec : experiment.spec = origin.spec
  namespace_eq : targetNamespace experiment = servicesNamespace key origin.spec
  status : Identified origin (statusOf experiment)

theorem Identity.snapshot (identity : Identity key origin before)
    (works : WorksOnVersion experiment before) (actor : actorOf experiment = key) :
    SnapshotOf key origin experiment := by
  obtain ⟨object, seen, snapshot⟩ := works
  rw [actor] at seen snapshot
  obtain ⟨sameUid, sameSpec, status, parsed, identified⟩ := identity.version object seen
  obtain rfl := Option.some.inj (snapshot.status.symm.trans parsed)
  exact ⟨actor, by rw [snapshot.uid, sameUid], by rw [snapshot.spec, sameSpec],
    by rw [snapshot.targetNamespace_eq, sameSpec], identified⟩

/-- Every status a pass writes is identified, merged into whatever is stored. -/
theorem identified_of_writes (snapshot : SnapshotOf key origin experiment)
    {written stored : ChaosExperimentStatus} (writes : deployment.Writes experiment history written)
    (identified : Identified origin stored) : Identified origin (stored.merge written) := by
  have own : Identified origin written := by
    cases writes with
    | failed pending message reason => exact ⟨Or.inl rfl, fun _ member => nomatch member⟩
    | runningPod starting pod id named nodes jobNames listed nonempty created time read =>
      obtain rfl := named.eq_uid snapshot.status.id snapshot.uid
      refine ⟨Or.inr rfl, fun name member => ?_⟩
      obtain ⟨node, -, same⟩ := created.named member
      exact ⟨by rw [← snapshot.spec]; exact pod, node, same⟩
    | runningEdge starting edgeChaos id named edge sourceLabels checked document built answer
        requested accepted time read =>
      obtain rfl := named.eq_uid snapshot.status.id snapshot.uid
      exact ⟨Or.inr rfl, fun _ member => nomatch member⟩
    | completed active running phase terminal message time read =>
      exact ⟨snapshot.status.id, snapshot.status.jobs⟩
    | cleaned active terminal unclean jobs services =>
      exact ⟨snapshot.status.id, snapshot.status.jobs⟩
  constructor
  · have merged : (stored.merge written).experimentId =
        written.experimentId.or stored.experimentId := rfl
    rw [merged]
    rcases own.id with absent | present
    · rw [absent, Option.none_or]
      exact identified.id
    · rw [present, Option.some_or]
      exact Or.inr rfl
  · intro name member
    change name ∈ if written.runnerJobs.isEmpty then _ else _ at member
    split_ifs at member
    · exact identified.jobs name member
    · exact own.jobs name member

/-- The Job a pass asks for. -/
theorem jobOf_of_asked (snapshot : SnapshotOf key origin experiment) {ns : String} {job : Job}
    (asked : JobAsked deployment.crates deployment.config experiment history ns job) :
    JobOf key origin (jobKey ns job) job := by
  obtain ⟨id, nodes, node, identified, listed, member, built⟩ := asked.source
  obtain rfl := identified.eq_uid snapshot.status.id snapshot.uid
  refine ⟨by rw [← snapshot.spec]; exact asked.pod, ?_, node, buildRunnerJob_nodeName built,
    jobOfNode_name built⟩
  rw [jobKey, asked.place, ← snapshot.actor]
  rfl

/-- The VirtualService a pass asks for. -/
theorem serviceOf_of_asked (snapshot : SnapshotOf key origin experiment) {ns : String}
    {document : Json}
    (asked : ServiceAsked deployment.edgeResolver experiment history ns document) :
    ServiceOf key origin (documentKey ns document) document := by
  obtain ⟨id, edge, sourceLabels, identified, checked, built⟩ := asked.source
  obtain rfl := identified.eq_uid snapshot.status.id snapshot.uid
  obtain ⟨vsName, fault, named, -, rfl⟩ := built.built
  refine ⟨by rw [← snapshot.spec]; exact asked.edgeChaos, ?_, ?_, fun name => ?_⟩
  · rw [documentKey, asked.place, snapshot.namespace_eq]
  · rw [documentKey, documentName_build, Option.getD_some]
    exact named
  · rw [documentLabels_build, ← snapshot.actor]
    show (true && some (expName experiment) == some name) = true ↔ _
    rw [Bool.true_and, beq_iff_eq, Option.some.injEq, eq_comm]
    rfl

theorem jobOf_of_same {place : ObjectKey} {first second : Tracked Job} (same : SameJob first second)
    (known : JobOf key origin place first.value) : JobOf key origin place second.value := by
  refine ⟨known.pod, known.inside, ?_⟩
  have sameNode : second.value.nodeName = first.value.nodeName := by
    rw [Job.nodeName, Job.nodeName, same.2.2]
  rw [sameNode]
  exact known.name

/-! ### The invariant along a run -/

theorem identity_drift (identity : Identity key origin before) (current : before.Current)
    {cluster : Cluster} (drift : Drift before.cluster cluster) :
    Identity key origin (before.observe cluster) where
  version := fun object seen => by
    rcases seen with seen | stored
    · exact identity.version object seen
    · obtain ⟨earlier, timestamp, storedEarlier, -, rfl⟩ := drift.object key object stored
      exact identity.version earlier (current key earlier storedEarlier)
  job := fun place tracked created => by
    obtain ⟨earlier, found, same⟩ := drift.job place tracked created.1
    exact jobOf_of_same same (identity.job place earlier ⟨found, same.1.trans created.2⟩)
  service := fun place tracked created =>
    identity.service place tracked ⟨drift.virtualService place tracked created.1, created.2⟩

/-- One call of any pass, for this experiment or another, keeps the invariant. -/
theorem identity_call (identity : Identity key origin before) (current : before.Current)
    (works : WorksOnVersion experiment before) {request : ApiCall}
    (issued : deployment.Issued experiment history request) {cluster : Cluster}
    (advance : Advance (actorOf experiment) request before.cluster cluster) :
    Identity key origin (before.observe cluster) where
  version := fun object seen => by
    rcases seen with seen | stored
    · exact identity.version object seen
    · obtain ⟨earlier, timestamp, storedEarlier, -, rewrites⟩ := advance.object key object stored
      obtain ⟨sameUid, sameSpec, status, parsed, identified⟩ :=
        identity.version earlier (current key earlier storedEarlier)
      cases rewrites with
      | patched written =>
        have target := issued.issues.patched
        have snapshot := identity.snapshot works (Prod.ext target.1.symm target.2.symm)
        exact ⟨sameUid, sameSpec, _, ChaosExperimentStatus.parse_mergePatch _ _ _ parsed,
          identified_of_writes snapshot issued.issues.writes identified⟩
      | kept | marked | released => exact ⟨sameUid, sameSpec, status, parsed, identified⟩
  job := fun place tracked created => by
    rcases advance.job place tracked created.1 with
      ⟨earlier, found, same⟩ | ⟨ns, job, rfl, rfl, rfl⟩
    · exact jobOf_of_same same (identity.job place earlier ⟨found, same.1.trans created.2⟩)
    · exact jobOf_of_asked (identity.snapshot works (Option.some.inj created.2))
        issued.issues.jobAsked
  service := fun place tracked created => by
    rcases advance.virtualService place tracked created.1 with found | ⟨ns, document, rfl, rfl, rfl⟩
    · exact identity.service place tracked ⟨found, created.2⟩
    · exact serviceOf_of_asked (identity.snapshot works (Option.some.inj created.2))
        issued.issues.serviceAsked

/-- The contract of the passes with respect to one experiment. -/
def identityContract (deployment : Deployment) (key : ObjectKey) (origin : ExperimentObject) :
    Pool.Contract Watched ChaosExperiment ApiCall Answer where
  Global watched := watched.Current ∧ Identity key origin watched
  Local experiment _ watched := WorksOnVersion experiment watched
  allowed := deployment.Issued
  Later := Watched.Later

theorem identity_keeps (within : service.Within) :
    Pool.Keeps (overlapping deployment service) (identityContract deployment key origin) where
  launch := fun state experiment program _ launches => by
    obtain ⟨works, rfl⟩ := worksOnVersion_of_launch launches
    exact ⟨works, deployment.pass_follows experiment⟩
  call := fun experiment history request state answer after global works issued answered => by
    obtain ⟨cluster, served, rfl⟩ := answered
    have advance := (within _ _ _ _ _ served).advance
    refine ⟨⟨state.current_observe cluster, ?_⟩, works.later (state.later_observe cluster),
      state.later_observe cluster⟩
    exact identity_call global.2 global.1 works issued advance
  outside := fun state after global moved => by
    obtain ⟨cluster, outside, rfl⟩ := moved
    exact ⟨⟨state.current_observe cluster, identity_drift global.2 global.1 outside.drift⟩,
      state.later_observe cluster⟩
  stable := fun experiment history state after later works => works.later later

/-- Every pool a run reaches meets the contract. -/
theorem identity_reachable (within : service.Within) {initial : Cluster} {pool : OperatorPool}
    (stored : initial.experiments.lookup key = some origin) (fresh : origin.status = .null)
    (untouchedJobs : ∀ place tracked, ¬ CreatedJob key initial place tracked)
    (untouchedServices : ∀ place tracked, ¬ CreatedService key initial place tracked)
    (reachable : Reachable deployment service initial pool) :
    Pool.Meets (identityContract deployment key origin) pool := by
  have start : Pool.Meets (identityContract deployment key origin) (idlePool initial) :=
    ⟨⟨Watched.current_start initial,
      identity_start stored fresh untouchedJobs untouchedServices⟩, fun _ member => nomatch member⟩
  exact start.run (identity_keeps within) reachable

/-! ### One name for everything -/

/-- What the operator asks for and creates for one experiment, at one point of a run. -/
structure OneIdentity (deployment : Deployment) (service : Service) (key : ObjectKey)
    (origin : ExperimentObject) (pool : OperatorPool) : Prop where
  experimentId : ∀ object, pool.state.cluster.experiments.lookup key = some object →
    ∃ status, ChaosExperimentStatus.parse object.status = some status ∧
      (status.experimentId = none ∨ status.experimentId = some origin.uid)
  serviceRequest : ∀ experiment ns document pool',
    Pool.Step (overlapping deployment service)
      (.call experiment (.createVirtualService ns document)) pool pool' →
    actorOf experiment = key → ns = servicesNamespace key origin.spec ∧
      documentName document = virtualServiceName origin.uid
  jobRequest : ∀ experiment ns job pool',
    Pool.Step (overlapping deployment service) (.call experiment (.createJob ns job)) pool pool' →
    actorOf experiment = key → ns = key.1 ∧ ∃ node, job.nodeName = some node ∧
      job.metadata.name = makeJobName origin.uid node
  oneService : ∀ place place' tracked tracked',
    CreatedService key pool.state.cluster place tracked →
    CreatedService key pool.state.cluster place' tracked' → place = place'
  oneJob : ∀ place place' tracked tracked', CreatedJob key pool.state.cluster place tracked →
    CreatedJob key pool.state.cluster place' tracked' →
    tracked.value.nodeName = tracked'.value.nodeName → place = place'

theorem oneIdentity_of_meets {pool : OperatorPool}
    (meets : Pool.Meets (identityContract deployment key origin) pool) :
    OneIdentity deployment service key origin pool where
  experimentId := fun object stored => by
    obtain ⟨-, -, status, parsed, identified⟩ :=
      meets.global.2.version object (meets.global.1 key object stored)
    exact ⟨status, parsed, identified.id⟩
  serviceRequest := fun experiment ns document pool' step actor => by
    obtain ⟨history, answer, works, issued, -⟩ := meets.called step
    have snapshot := meets.global.2.snapshot works actor
    have asked := issued.issues.serviceAsked
    obtain ⟨id, edge, sourceLabels, identified, checked, built⟩ := asked.source
    obtain rfl := identified.eq_uid snapshot.status.id snapshot.uid
    obtain ⟨vsName, fault, named, -, rfl⟩ := built.built
    exact ⟨by rw [asked.place, snapshot.namespace_eq], by rw [documentName_build, named]; rfl⟩
  jobRequest := fun experiment ns job pool' step actor => by
    obtain ⟨history, answer, works, issued, -⟩ := meets.called step
    have snapshot := meets.global.2.snapshot works actor
    have asked := issued.issues.jobAsked
    obtain ⟨id, nodes, node, identified, listed, member, built⟩ := asked.source
    obtain rfl := identified.eq_uid snapshot.status.id snapshot.uid
    exact ⟨by rw [asked.place, ← snapshot.actor]; rfl, node, buildRunnerJob_nodeName built,
      buildRunnerJob_name built⟩
  oneService := fun place place' tracked tracked' created created' => by
    have known := meets.global.2.service place tracked created
    have known' := meets.global.2.service place' tracked' created'
    exact Prod.ext (known.inside.trans known'.inside.symm)
      (Option.some.inj (known.name.symm.trans known'.name))
  oneJob := fun place place' tracked tracked' created created' sameNode => by
    have known := meets.global.2.job place tracked created
    have known' := meets.global.2.job place' tracked' created'
    obtain ⟨node, pinned, named⟩ := known.name
    obtain ⟨node', pinned', named'⟩ := known'.name
    rw [sameNode, pinned'] at pinned
    obtain rfl := Option.some.inj pinned
    exact Prod.ext (known.inside.trans known'.inside.symm)
      (Option.some.inj (named.symm.trans named'))

end Identity

/-- However many passes overlap, on whatever stored versions, everything the operator asks for
and creates for an experiment has the one name derived from its uid: there is at most one
VirtualService, and at most one Job for each node. -/
theorem oneIdentity (deployment : Deployment) (key : ObjectKey) (origin : ExperimentObject)
    (initial : Cluster) (pool : OperatorPool)
    (stored : initial.experiments.lookup key = some origin) (fresh : origin.status = .null)
    (untouchedJobs : ∀ place tracked, ¬ CreatedJob key initial place tracked)
    (untouchedServices : ∀ place tracked, ¬ CreatedService key initial place tracked)
    (reachable : Reachable deployment anyListings initial pool) :
    OneIdentity deployment anyListings key origin pool :=
  oneIdentity_of_meets
    (identity_reachable anyListings_within stored fresh untouchedJobs untouchedServices reachable)

/-- Two passes on the same fresh version, one after the other, create one VirtualService. -/
theorem oneIdentity_sample : ∃ pool,
    (pool.state.cluster.virtualServices.lookup ("shop", "chaos-edge-0b8f5c1e")).map
      Tracked.creator = some (some sampleKey) ∧
    OneIdentity sampleDeployment anyListings sampleKey sampleEdge pool := by
  let initial := sampleCluster [(sampleKey, sampleEdge)]
  have serves : (sampleServer 0).Serves anyListings := (sampleServer_serves 0).any
  have seen : (idlePool initial).state.seen sampleKey sampleEdge := rfl
  obtain ⟨middle, first, state, later, current⟩ := run_pass sampleDeployment serves
    (freshSnapshot sampleKey sampleEdge) seen (Watched.current_start initial) rfl
  obtain ⟨pool, second, final, -, -⟩ := run_pass sampleDeployment serves
    (freshSnapshot sampleKey sampleEdge) (later _ _ seen) current rfl
  refine ⟨pool, ?_, oneIdentity sampleDeployment sampleKey sampleEdge initial pool rfl rfl
    (not_createdJob_sample _ sampleKey) (not_createdService_sample _ sampleKey)
    (first.trans second)⟩
  rw [final, state]
  decide +kernel

end ChimpChaos
