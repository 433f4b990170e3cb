/-
This file settles how many VirtualServices of the operator there can be for one host.

The check for conflicts passes over what the operator manages itself, so two experiments with one
destination both create a VirtualService on its host. Each of them creates one only: the name is
cut from the identifier that every version of the experiment leads to, and the single host is its
destination. So the VirtualServices on a host are at most as many as the experiments that have it
as their destination. All that is assumed of the beginning is that there is no VirtualService.
-/

import ChimpChaos.Proof.Isolation

namespace ChimpChaos

open Library Relation

/-! ### The destination of an experiment -/

/-- The identifier that a stored experiment leads to: the recorded one, or else the uid. -/
def originId (origin : ExperimentObject) : String :=
  ((ChaosExperimentStatus.parse origin.status).bind ChaosExperimentStatus.experimentId).getD
    origin.uid

/-- A host is the destination of a stored experiment. -/
def HasDestination (key : ObjectKey) (origin : ExperimentObject) (host : String) : Prop :=
  ∃ edge, origin.spec.target.bind Target.edge = some edge ∧
    host = fqdn edge.destinationService (servicesNamespace key origin.spec)

/-- A later version of a stored experiment: it leads to the same identifier. -/
structure VersionOf (origin object : ExperimentObject) : Prop where
  uid : object.uid = origin.uid
  spec : object.spec = origin.spec
  readable : (ChaosExperimentStatus.parse object.status).isSome =
    (ChaosExperimentStatus.parse origin.status).isSome
  identifier : ∀ status, ChaosExperimentStatus.parse object.status = some status →
    status.experimentId.getD origin.uid = originId origin

/-- A VirtualService is where the operator makes it for an experiment, on its destination. -/
structure FaultOf (key : ObjectKey) (origin : ExperimentObject) (place : ObjectKey)
    (tracked : Tracked Json) : Prop where
  creator : tracked.creator = some key
  inside : place.1 = servicesNamespace key origin.spec
  name : virtualServiceName (originId origin) = some place.2
  host : ∃ host, HasDestination key origin host ∧ documentHosts tracked.value = [host]

/-- Every version comes from a stored experiment, and so does every VirtualService. -/
structure Destined (initial : Cluster) (watched : Watched) : Prop where
  current : watched.Current
  version : ∀ key object, watched.seen key object →
    ∃ origin, initial.experiments.lookup key = some origin ∧ VersionOf origin object
  service : ∀ place tracked, watched.cluster.virtualServices.lookup place = some tracked →
    ∃ key origin, initial.experiments.lookup key = some origin ∧ FaultOf key origin place tracked

theorem VersionOf.refl (origin : ExperimentObject) : VersionOf origin origin where
  uid := rfl
  spec := rfl
  readable := rfl
  identifier := fun status parsed => by rw [originId, parsed, Option.bind_some]

section Destined

variable {deployment : Deployment} {service : Service} {initial : Cluster}
  {before : Watched} {experiment : ChaosExperiment} {history : History}
  {key : ObjectKey} {origin object : ExperimentObject}

/-! ### Versions -/

/-- A pass on a version uses its identifier. -/
theorem VersionOf.identified (version : VersionOf origin object)
    (snapshot : IsSnapshot key object experiment) {id : String}
    (identified : IsExperimentId experiment history id) : id = originId origin := by
  rw [identified.eq_getD (snapshot.uid.trans (congrArg some version.uid))]
  exact version.identifier _ snapshot.status

/-- A status that a pass on a version writes records no identifier or the one it leads to. -/
theorem VersionOf.writes (version : VersionOf origin object)
    (snapshot : IsSnapshot key object experiment) {written : ChaosExperimentStatus}
    (writes : deployment.Writes experiment history written) :
    written.experimentId = none ∨ written.experimentId = some (originId origin) := by
  have kept : (statusOf experiment).experimentId = none ∨
      (statusOf experiment).experimentId = some (originId origin) := by
    rw [← version.identifier _ snapshot.status]
    cases (statusOf experiment).experimentId with
    | none => exact Or.inl rfl
    | some id => exact Or.inr rfl
  cases writes with
  | failed => exact Or.inl rfl
  | runningPod starting pod id identified =>
    exact Or.inr (congrArg some (version.identified snapshot identified))
  | runningEdge starting edgeChaos id identified =>
    exact Or.inr (congrArg some (version.identified snapshot identified))
  | completed => exact kept
  | cleaned => exact kept

/-- A status write makes a version of a version. -/
theorem VersionOf.patched (version : VersionOf origin object) {written : ChaosExperimentStatus}
    (readable : (ChaosExperimentStatus.parse origin.status).isSome = true)
    (own : written.experimentId = none ∨ written.experimentId = some (originId origin)) :
    VersionOf origin (object.patchStatus written) := by
  obtain ⟨stored, parsed⟩ := Option.isSome_iff_exists.mp (version.readable.trans readable)
  have merged := ChaosExperimentStatus.parse_mergePatch object.status stored written parsed
  refine ⟨version.uid, version.spec, ?_, ?_⟩
  · show (ChaosExperimentStatus.parse (Json.mergePatch object.status written.toJson)).isSome = _
    rw [merged, readable, Option.isSome_some]
  · intro status found
    obtain rfl := Option.some.inj (merged.symm.trans found)
    show (written.experimentId.or stored.experimentId).getD origin.uid = originId origin
    rcases own with absent | present
    · rw [absent, Option.none_or]
      exact version.identifier stored parsed
    · rw [present, Option.some_or, Option.getD_some]

/-- What a call makes of a version. -/
theorem VersionOf.rewrites (version : VersionOf origin object) {request : ApiCall}
    {later : ExperimentObject} {timestamp : Option String}
    (rewrites : Rewrites key { object with deletionTimestamp := timestamp } request later)
    (patches : ∀ written, request = .patchExperimentStatus key.1 key.2 written →
      (ChaosExperimentStatus.parse origin.status).isSome = true ∧
        (written.experimentId = none ∨ written.experimentId = some (originId origin))) :
    VersionOf origin later := by
  have moved : VersionOf origin { object with deletionTimestamp := timestamp } :=
    ⟨version.uid, version.spec, version.readable, version.identifier⟩
  cases rewrites with
  | kept => exact moved
  | patched written =>
    obtain ⟨readable, own⟩ := patches written rfl
    exact moved.patched readable own
  | marked => exact ⟨moved.uid, moved.spec, moved.readable, moved.identifier⟩
  | released => exact ⟨moved.uid, moved.spec, moved.readable, moved.identifier⟩

/-! ### The invariant along a run -/

theorem destined_start (bare : ∀ place, initial.virtualServices.lookup place = none) :
    Destined initial (.start initial) where
  current := Watched.current_start initial
  version := fun key object seen => ⟨object, seen, .refl object⟩
  service := fun place tracked found => absurd ((bare place).symm.trans found) (by simp)

theorem destined_drift (destined : Destined initial before) {cluster : Cluster}
    (drift : Drift before.cluster cluster) : Destined initial (before.observe cluster) where
  current := before.current_observe cluster
  version := fun key object seen => by
    rcases seen with seen | stored
    · exact destined.version key object seen
    · obtain ⟨earlier, timestamp, storedEarlier, -, rfl⟩ := drift.object key object stored
      obtain ⟨origin, known, version⟩ :=
        destined.version key earlier (destined.current key earlier storedEarlier)
      exact ⟨origin, known, version.uid, version.spec, version.readable, version.identifier⟩
  service := fun place tracked found =>
    destined.service place tracked (drift.virtualService place tracked found)

/-- A pass works on a version of a stored experiment that can be read. -/
theorem Destined.works (destined : Destined initial before)
    (works : WorksOnVersion experiment before) : ∃ origin object,
      initial.experiments.lookup (actorOf experiment) = some origin ∧ VersionOf origin object ∧
        IsSnapshot (actorOf experiment) object experiment ∧
        (ChaosExperimentStatus.parse origin.status).isSome = true := by
  obtain ⟨object, seen, snapshot⟩ := works
  obtain ⟨origin, stored, version⟩ := destined.version _ object seen
  refine ⟨origin, object, stored, version, snapshot, ?_⟩
  rw [← version.readable, snapshot.status, Option.isSome_some]

/-- The VirtualService that a pass on a version asks for. -/
theorem faultOf_of_asked (version : VersionOf origin object)
    (snapshot : IsSnapshot (actorOf experiment) object experiment) {ns : String}
    {document : Json}
    (asked : ServiceAsked deployment.edgeResolver experiment history ns document) :
    FaultOf (actorOf experiment) origin (documentKey ns document)
      ⟨document, some (actorOf experiment)⟩ := by
  obtain ⟨id, edge, sourceLabels, identified, checked, built⟩ := asked.source
  obtain rfl := version.identified snapshot identified
  obtain ⟨vsName, fault, named, -, rfl⟩ := built.built
  have inside :
      targetNamespace experiment = servicesNamespace (actorOf experiment) origin.spec := by
    rw [snapshot.targetNamespace_eq, version.spec]
  refine ⟨rfl, asked.place.trans inside, ?_, _, ⟨edge, ?_, rfl⟩, ?_⟩
  · rw [documentKey, documentName_build, Option.getD_some]
    exact named
  · rw [← version.spec, ← snapshot.spec]
    exact checked.target
  · rw [← inside]
    exact documentHosts_build _

/-- One call of any pass. -/
theorem destined_call (destined : Destined initial before)
    (works : WorksOnVersion experiment before) {request : ApiCall}
    (issued : deployment.Issued experiment history request) {cluster : Cluster}
    (advance : Advance (actorOf experiment) request before.cluster cluster) :
    Destined initial (before.observe cluster) where
  current := before.current_observe cluster
  version := fun key object seen => by
    rcases seen with seen | stored
    · exact destined.version key object seen
    · obtain ⟨earlier, timestamp, storedEarlier, -, rewrites⟩ := advance.object key object stored
      obtain ⟨origin, known, version⟩ :=
        destined.version key earlier (destined.current key earlier storedEarlier)
      refine ⟨origin, known, version.rewrites rewrites ?_⟩
      rintro written rfl
      obtain ⟨own, read, ownKnown, ownVersion, snapshot, readable⟩ := destined.works works
      have target := issued.issues.patched
      have same : actorOf experiment = key := Prod.ext target.1.symm target.2.symm
      rw [same, known] at ownKnown
      obtain rfl := Option.some.inj ownKnown
      exact ⟨readable, ownVersion.writes snapshot issued.issues.writes⟩
  service := fun place tracked found => by
    rcases advance.virtualService place tracked found with found | ⟨ns, document, rfl, rfl, rfl⟩
    · exact destined.service place tracked found
    · obtain ⟨origin, object, stored, version, snapshot, -⟩ := destined.works works
      exact ⟨_, origin, stored, faultOf_of_asked version snapshot issued.issues.serviceAsked⟩

/-- The contract of all passes with respect to destinations. -/
def destinedContract (deployment : Deployment) (initial : Cluster) :
    Pool.Contract Watched ChaosExperiment ApiCall Answer where
  Global := Destined initial
  Local experiment _ watched := WorksOnVersion experiment watched
  allowed := deployment.Issued
  Later := Watched.Later

theorem destined_keeps (within : service.Within) :
    Pool.Keeps (overlapping deployment service) (destinedContract deployment initial) where
  launch := fun state experiment program _ launches => by
    obtain ⟨works, rfl⟩ := worksOnVersion_of_launch launches
    exact ⟨works, deployment.pass_follows experiment⟩
  call := fun experiment history request state answer after destined works issued answered => by
    obtain ⟨cluster, served, rfl⟩ := answered
    have later := state.later_observe cluster
    exact ⟨destined_call destined works issued (within _ _ _ _ _ served).advance,
      works.later later, later⟩
  outside := fun state after destined moved => by
    obtain ⟨cluster, outside, rfl⟩ := moved
    exact ⟨destined_drift destined outside.drift, state.later_observe cluster⟩
  stable := fun experiment history state after later works => works.later later

end Destined

/-! ### One VirtualService for each experiment -/

/-- Every VirtualService is on the destination host of the experiment it was created for, and on
no other, and there is one for each experiment at most. -/
structure OnePerExperiment (initial cluster : Cluster) : Prop where
  destined : ∀ place tracked, cluster.virtualServices.lookup place = some tracked →
    ∃ key origin host, tracked.creator = some key ∧
      initial.experiments.lookup key = some origin ∧ HasDestination key origin host ∧
      documentHosts tracked.value = [host]
  unique : ∀ place place' tracked tracked',
    cluster.virtualServices.lookup place = some tracked →
    cluster.virtualServices.lookup place' = some tracked' →
    tracked.creator = tracked'.creator → place = place'

/-- In every run from a cluster without VirtualServices, with passes that overlap and work on old
versions, there is at most one VirtualService on a host for each experiment that has the host as
its destination, and none for any other. -/
theorem servicesOnHost_onePerExperiment (deployment : Deployment) (initial : Cluster)
    (bare : ∀ place, initial.virtualServices.lookup place = none) (pool : OperatorPool)
    (reachable : Reachable deployment anyListings initial pool) :
    OnePerExperiment initial pool.state.cluster := by
  have start : Pool.Meets (destinedContract deployment initial) (idlePool initial) :=
    ⟨destined_start bare, fun _ member => absurd member List.not_mem_nil⟩
  have destined := (start.run (destined_keeps anyListings_within) reachable).global
  refine ⟨fun place tracked found => ?_, ?_⟩
  · obtain ⟨key, origin, stored, known⟩ := destined.service place tracked found
    obtain ⟨host, destination, hosts⟩ := known.host
    exact ⟨key, origin, host, known.creator, stored, destination, hosts⟩
  · intro place place' tracked tracked' found found' same
    obtain ⟨key, origin, stored, known⟩ := destined.service place tracked found
    obtain ⟨key', origin', stored', known'⟩ := destined.service place' tracked' found'
    obtain rfl := Option.some.inj (known.creator.symm.trans (same.trans known'.creator))
    obtain rfl := Option.some.inj (stored.symm.trans stored')
    exact Prod.ext (known.inside.trans known'.inside.symm)
      (Option.some.inj (known.name.symm.trans known'.name))

/-- Two experiments with the same destination, both about to start. -/
def twoEdges : Cluster := sampleCluster [(sampleKey, sampleEdge), (otherKey, otherEdge)]

/-- A run in which both have created their VirtualService. -/
theorem twoEdges_run {service : Service} (serves : (sampleServer 0).Serves service) :
    ∃ pool, Reachable sampleDeployment service twoEdges pool ∧
      pool.state.cluster = [(sampleServer 0, sampleKey), (sampleServer 0, otherKey)].foldl
        (fun cluster entry => runPass sampleDeployment entry.1 entry.2 cluster) twoEdges := by
  have each : ∀ entry ∈ [(sampleServer 0, sampleKey), (sampleServer 0, otherKey)],
      entry.1.Serves service := by
    intro entry member
    rcases List.mem_pair.mp member with rfl | rfl <;> exact serves
  have start : (idlePool twoEdges).state.Current := Watched.current_start twoEdges
  obtain ⟨pool, reachable, state, -, -⟩ := run_storedPasses sampleDeployment each start
  exact ⟨pool, reachable, state⟩

/-- In that run each of the two experiments has its own VirtualService. -/
theorem servicesOnHost_onePerExperiment_sample : ∃ pool : OperatorPool,
    (pool.state.cluster.virtualServices.lookup ("shop", "chaos-edge-0b8f5c1e")).isSome = true ∧
      OnePerExperiment twoEdges pool.state.cluster := by
  obtain ⟨pool, reachable, state⟩ := twoEdges_run (sampleServer_serves 0).any
  exact ⟨pool, by rw [state]; decide +kernel,
    servicesOnHost_onePerExperiment sampleDeployment twoEdges (fun _ => rfl) pool reachable⟩

/-- Two experiments have created a VirtualService on one host. -/
theorem servicesOnHost_shared : ¬ ∀ (deployment : Deployment) (initial : Cluster)
    (pool : OperatorPool), (∀ place, initial.virtualServices.lookup place = none) →
    Reachable deployment apiServer initial pool →
    ∀ (host : String) (place place' : ObjectKey) (tracked tracked' : Tracked Json),
      pool.state.cluster.virtualServices.lookup place = some tracked →
      pool.state.cluster.virtualServices.lookup place' = some tracked' →
      host ∈ documentHosts tracked.value → host ∈ documentHosts tracked'.value →
      place = place' := by
  intro claim
  obtain ⟨pool, reachable, state⟩ := twoEdges_run (sampleServer_serves 0)
  have onHost (name : String) (listed : (pool.state.cluster.virtualServices.lookup
      ("shop", name)).map (fun tracked => documentHosts tracked.value) =
        some ["ledger.shop.svc.cluster.local"]) : ∃ tracked,
      pool.state.cluster.virtualServices.lookup ("shop", name) = some tracked ∧
        "ledger.shop.svc.cluster.local" ∈ documentHosts tracked.value := by
    obtain ⟨tracked, found, hosts⟩ := Option.map_eq_some_iff.mp listed
    exact ⟨tracked, found, by rw [hosts]; exact List.mem_singleton.mpr rfl⟩
  obtain ⟨first, foundFirst, firstOn⟩ :=
    onHost "chaos-edge-0b8f5c1e" (by rw [state]; decide +kernel)
  obtain ⟨second, foundSecond, secondOn⟩ :=
    onHost "chaos-edge-7c1d9a20" (by rw [state]; decide +kernel)
  have same := claim sampleDeployment twoEdges pool (fun _ => rfl) reachable _ _ _ _ _ foundFirst
    foundSecond firstOn secondOn
  exact absurd same (by decide)

end ChimpChaos
