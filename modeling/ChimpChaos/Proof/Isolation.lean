/-
This file says when the passes of one experiment leave alone what was created for another.

A pass deletes Jobs by the names its status records and VirtualServices by the names of those
in its target namespace that carry its experiment's name as a label. Names of Jobs and
VirtualServices are cut from the uid, and the label names no namespace, so two experiments
can get in each other's way when a name, or a label and a target namespace, coincide. When
they do not, no interleaving makes one delete what belongs to the other.
-/

import ChimpChaos.Proof.Identity

namespace ChimpChaos

open Library Relation

/-- A cluster in which the operator has not done anything yet. -/
structure Unstarted (initial : Cluster) : Prop where
  fresh : ∀ key object, initial.experiments.lookup key = some object → object.status = .null
  jobs : ∀ place tracked, initial.jobs.lookup place = some tracked → tracked.creator = none
  services : ∀ place tracked, initial.virtualServices.lookup place = some tracked →
    tracked.creator = none

/-- Two edge experiments inject their faults in one namespace. -/
structure ShareNamespace (initial : Cluster) (key key' : ObjectKey)
    (object object' : ExperimentObject) : Prop where
  distinct : key ≠ key'
  stored : initial.experiments.lookup key = some object
  stored' : initial.experiments.lookup key' = some object'
  edgeChaos : object.spec.scenario.isEdgeChaos = true
  edgeChaos' : object'.spec.scenario.isEdgeChaos = true
  inside : servicesNamespace key object.spec = servicesNamespace key' object'.spec

/-- No two experiments can be taken for one another. Edge experiments that share a namespace
differ in name and in the name of their VirtualService, and nobody else has labelled a
VirtualService of that name for one of them; pod experiments of one namespace have no Job name
in common. -/
structure Separated (initial : Cluster) : Prop where
  name : ∀ key key' object object', ShareNamespace initial key key' object object' →
    key.2 ≠ key'.2
  service : ∀ key key' object object', ShareNamespace initial key key' object object' →
    ∀ name, virtualServiceName object.uid = some name → virtualServiceName object'.uid ≠ some name
  foreign : ∀ key key' object object', ShareNamespace initial key key' object object' →
    ∀ place tracked, initial.virtualServices.lookup place = some tracked →
      place.1 = servicesNamespace key object.spec →
      isOwnedBy key.2 (documentLabels tracked.value) = true →
      virtualServiceName object'.uid ≠ some place.2
  job : ∀ key key' object object', key ≠ key' → initial.experiments.lookup key = some object →
    initial.experiments.lookup key' = some object' → object.spec.scenario.isEdgeChaos = false →
    object'.spec.scenario.isEdgeChaos = false → key.1 = key'.1 →
    ∀ node node' name, makeJobName object.uid node = some name →
      makeJobName object'.uid node' ≠ some name

section Isolation

variable {deployment : Deployment} {initial : Cluster} {before after : Watched}
  {experiment : ChaosExperiment} {history : History}

/-! ### The invariant of all experiments together -/

/-- Where a VirtualService comes from: it was there before the operator, or it was created for
one of the experiments. -/
inductive Origin (initial : Cluster) (place : ObjectKey) (labels : Labels) : Prop
  | foreign (tracked : Tracked Json)
      (found : initial.virtualServices.lookup place = some tracked)
      (same : labels = documentLabels tracked.value)
  | created (key : ObjectKey) (origin : ExperimentObject)
      (stored : initial.experiments.lookup key = some origin) (document : Json)
      (known : ServiceOf key origin place document) (same : labels = documentLabels document)

/-- What holds of a cluster with all its experiments. -/
structure Family (initial : Cluster) (watched : Watched) : Prop where
  current : watched.Current
  known : ∀ key object, watched.seen key object →
    ∃ origin, initial.experiments.lookup key = some origin
  identity : ∀ key origin, initial.experiments.lookup key = some origin →
    Identity key origin watched
  creator : ∀ place tracked, watched.cluster.virtualServices.lookup place = some tracked →
    (tracked.creator = none ∧ initial.virtualServices.lookup place = some tracked) ∨
      ∃ key origin, initial.experiments.lookup key = some origin ∧ tracked.creator = some key
  jobCreator : ∀ key place tracked, CreatedJob key watched.cluster place tracked →
    ∃ origin, initial.experiments.lookup key = some origin

theorem Family.origin (family : Family initial before) {place : ObjectKey}
    {tracked : Tracked Json} (found : before.cluster.virtualServices.lookup place = some tracked) :
    Origin initial place (documentLabels tracked.value) := by
  rcases family.creator place tracked found with ⟨-, untouched⟩ | ⟨key, origin, stored, creator⟩
  · exact .foreign tracked untouched rfl
  · exact .created key origin stored _
      ((family.identity key origin stored).service place tracked ⟨found, creator⟩) rfl

/-- A thread knows where every VirtualService it has seen listed comes from. -/
def ListingsKnown (initial : Cluster) (history : History) : Prop :=
  ∀ ns host services, ⟨.listVirtualServicesForHost ns host, .ok services⟩ ∈ history →
    ∀ vs ∈ services, Origin initial (ns, vs.name) vs.labels

theorem family_start (unstarted : Unstarted initial) : Family initial (.start initial) where
  current := Watched.current_start initial
  known := fun _ object seen => ⟨object, seen⟩
  identity := fun key origin stored => identity_start stored (unstarted.fresh key origin stored)
    (fun place tracked created => by
      have absent := unstarted.jobs place tracked created.1
      rw [created.2] at absent
      cases absent)
    (fun place tracked created => by
      have absent := unstarted.services place tracked created.1
      rw [created.2] at absent
      cases absent)
  creator := fun place tracked found => Or.inl ⟨unstarted.services place tracked found, found⟩
  jobCreator := fun key place tracked created => by
    have absent := unstarted.jobs place tracked created.1
    rw [created.2] at absent
    cases absent

theorem family_drift (family : Family initial before) {cluster : Cluster}
    (drift : Drift before.cluster cluster) : Family initial (before.observe cluster) where
  current := before.current_observe cluster
  known := fun key object seen => by
    rcases seen with seen | stored
    · exact family.known key object seen
    · obtain ⟨earlier, timestamp, storedEarlier, -, -⟩ := drift.object key object stored
      exact family.known key earlier (family.current key earlier storedEarlier)
  identity := fun key origin stored =>
    identity_drift (family.identity key origin stored) family.current drift
  creator := fun place tracked found =>
    family.creator place tracked (drift.virtualService place tracked found)
  jobCreator := fun key place tracked created => by
    obtain ⟨earlier, found, same⟩ := drift.job place tracked created.1
    exact family.jobCreator key place earlier ⟨found, same.1.trans created.2⟩

theorem family_call (family : Family initial before) (works : WorksOnVersion experiment before)
    {request : ApiCall} (issued : deployment.Issued experiment history request)
    {cluster : Cluster}
    (advance : Advance (actorOf experiment) request before.cluster cluster) :
    Family initial (before.observe cluster) where
  current := before.current_observe cluster
  known := fun key object seen => by
    rcases seen with seen | stored
    · exact family.known key object seen
    · obtain ⟨earlier, timestamp, storedEarlier, -, -⟩ := advance.object key object stored
      exact family.known key earlier (family.current key earlier storedEarlier)
  identity := fun key origin stored =>
    identity_call (family.identity key origin stored) family.current works issued advance
  creator := fun place tracked found => by
    rcases advance.virtualService place tracked found with found | ⟨ns, document, rfl, rfl, rfl⟩
    · exact family.creator place tracked found
    · obtain ⟨object, seen, -⟩ := works
      obtain ⟨origin, stored⟩ := family.known _ object seen
      exact Or.inr ⟨_, origin, stored, rfl⟩
  jobCreator := fun key place tracked created => by
    rcases advance.job place tracked created.1 with
      ⟨earlier, found, same⟩ | ⟨ns, job, rfl, rfl, rfl⟩
    · exact family.jobCreator key place earlier ⟨found, same.1.trans created.2⟩
    · obtain ⟨object, seen, -⟩ := works
      rw [← Option.some.inj created.2]
      exact family.known _ object seen

/-- The contract of all passes together. -/
def familyContract (deployment : Deployment) (initial : Cluster) :
    Pool.Contract Watched ChaosExperiment ApiCall Answer where
  Global := Family initial
  Local experiment history watched :=
    WorksOnVersion experiment watched ∧ ListingsKnown initial history
  allowed := deployment.Issued
  Later := Watched.Later

theorem family_keeps (deployment : Deployment) (initial : Cluster) :
    Pool.Keeps (overlapping deployment apiServer) (familyContract deployment initial) where
  launch := fun state experiment program _ launches => by
    obtain ⟨works, rfl⟩ := worksOnVersion_of_launch launches
    exact ⟨⟨works, fun _ _ _ member => nomatch member⟩, deployment.pass_follows experiment⟩
  call := fun experiment history request state answer after family known issued answered => by
    obtain ⟨cluster, served, rfl⟩ := answered
    have later := state.later_observe cluster
    refine ⟨family_call family known.1 issued served.any.advance,
      ⟨known.1.later later, fun ns host services member vs inside => ?_⟩, later⟩
    rcases List.mem_cons.mp member with here | member
    · cases here
      obtain ⟨tracked, found, same⟩ := Permits.of_listed served inside
      rw [same]
      exact family.origin found
    · exact known.2 ns host services member vs inside
  outside := fun state after family moved => by
    obtain ⟨cluster, outside, rfl⟩ := moved
    exact ⟨family_drift family outside.drift, state.later_observe cluster⟩
  stable := fun experiment history state after later known => ⟨known.1.later later, known.2⟩

/-! ### No pass deletes what belongs to another experiment -/

/-- The experiment a pass works for, with the snapshot it has of it. -/
theorem Family.own (family : Family initial before) (works : WorksOnVersion experiment before) :
    ∃ origin, initial.experiments.lookup (actorOf experiment) = some origin ∧
      SnapshotOf (actorOf experiment) origin experiment := by
  obtain ⟨object, seen, snapshot⟩ := works
  obtain ⟨origin, stored⟩ := family.known _ object seen
  exact ⟨origin, stored, (family.identity _ origin stored).snapshot ⟨object, seen, snapshot⟩ rfl⟩

/-- A pass asks for the deletion of no Job of another experiment. -/
theorem deleteJob_own (separated : Separated initial) (family : Family initial before)
    (works : WorksOnVersion experiment before) {ns name : String}
    (issued : deployment.Issued experiment history (.deleteJob ns name)) {other : ObjectKey}
    (distinct : actorOf experiment ≠ other) (tracked : Tracked Job) :
    ¬ CreatedJob other before.cluster (ns, name) tracked := by
  intro created
  obtain ⟨origin, stored, own⟩ := family.own works
  obtain ⟨inside, recorded⟩ := issued.issues.recorded
  obtain ⟨pod, node, named⟩ := own.status.jobs name recorded
  obtain ⟨origin', stored'⟩ := family.jobCreator other _ tracked created
  have known := (family.identity other origin' stored').job _ tracked created
  obtain ⟨node', -, named'⟩ := known.name
  exact separated.job _ other origin origin' distinct stored stored' pod known.pod
    (inside.symm.trans known.inside) node node' name named named'

/-- A pass asks for the deletion of no VirtualService of another experiment. -/
theorem deleteVirtualService_own (separated : Separated initial) (family : Family initial before)
    (works : WorksOnVersion experiment before) (listings : ListingsKnown initial history)
    {ns name : String}
    (issued : deployment.Issued experiment history (.deleteVirtualService ns name))
    {other : ObjectKey} (distinct : actorOf experiment ≠ other) (tracked : Tracked Json) :
    ¬ CreatedService other before.cluster (ns, name) tracked := by
  intro created
  obtain ⟨origin, stored, own⟩ := family.own works
  have asked := issued.issues.removalAsked
  obtain ⟨services, vs, listed, member, owned, rfl⟩ := asked.listed
  have place := asked.place.trans own.namespace_eq
  have edgeChaos : origin.spec.scenario.isEdgeChaos = true := by
    rw [← own.spec]
    exact asked.edgeChaos
  obtain ⟨other', origin', stored', same⟩ : ∃ other' origin',
      initial.experiments.lookup other' = some origin' ∧ tracked.creator = some other' := by
    rcases family.creator (ns, vs.name) tracked created.1 with ⟨absent, -⟩ | present
    · rw [created.2] at absent
      cases absent
    · exact present
  obtain rfl := Option.some.inj (created.2.symm.trans same)
  have known := (family.identity _ origin' stored').service _ tracked created
  have share : ShareNamespace initial (actorOf experiment) other origin origin' :=
    ⟨distinct, stored, stored', edgeChaos, known.edgeChaos, place.symm.trans known.inside⟩
  cases listings ns "" services listed vs member with
  | foreign tracked' found sameLabels =>
    rw [sameLabels] at owned
    exact separated.foreign _ _ _ _ share _ tracked' found place owned known.name
  | created key origin'' stored'' document listedAs sameLabels =>
    rw [sameLabels] at owned
    have sameName : (actorOf experiment).2 = key.2 := (listedAs.owned _).mp owned
    by_cases sameKey : actorOf experiment = key
    · subst sameKey
      obtain rfl := Option.some.inj (stored.symm.trans stored'')
      exact separated.service _ _ _ _ share vs.name listedAs.name known.name
    · exact separated.name _ _ _ _ ⟨sameKey, stored, stored'', edgeChaos, listedAs.edgeChaos,
        place.symm.trans listedAs.inside⟩ sameName

end Isolation

/-! ### Isolation in every run -/

/-- In every run, with passes that overlap and work on old versions, no call made for one
experiment takes away a Job or a VirtualService that was created for another, when no two
experiments can be taken for one another. -/
theorem experiments_isolated (deployment : Deployment) (initial : Cluster)
    (unstarted : Unstarted initial) (separated : Separated initial) (pool pool' : OperatorPool)
    (reachable : Reachable deployment apiServer initial pool) (experiment : ChaosExperiment)
    (request : ApiCall)
    (step : Pool.Step (overlapping deployment apiServer) (.call experiment request) pool pool')
    (other : ObjectKey) (distinct : actorOf experiment ≠ other) :
    (∀ place tracked, CreatedJob other pool.state.cluster place tracked →
      CreatedJob other pool'.state.cluster place tracked) ∧
    ∀ place tracked, CreatedService other pool.state.cluster place tracked →
      CreatedService other pool'.state.cluster place tracked := by
  have start : Pool.Meets (familyContract deployment initial) (idlePool initial) :=
    ⟨family_start unstarted, fun _ member => nomatch member⟩
  have meets := start.run (family_keeps deployment initial) reachable
  obtain ⟨history, answer, ⟨works, listings⟩, issued, cluster, permitted, state⟩ :=
    meets.called step
  rw [state]
  constructor
  · intro place tracked created
    refine ⟨Permits.job_kept permitted created.1 ?_, created.2⟩
    rintro rfl
    exact deleteJob_own separated meets.global works issued distinct tracked created
  · intro place tracked created
    refine ⟨Permits.service_kept permitted created.1 ?_, created.2⟩
    rintro rfl
    exact deleteVirtualService_own separated meets.global works listings issued distinct tracked
      created

/-- An edge experiment of another team, in the namespace of the sample. -/
def otherKey : ObjectKey := ("other", "demo")

def otherEdge : ExperimentObject :=
  { sampleEdge with uid := "7c1d9a20-11c4-4a8e-8f51-9b6f0e2d3c4b" }

theorem unstarted_sample {experiments : List (ObjectKey × ExperimentObject)}
    (fresh : ∀ entry ∈ experiments, entry.2.status = .null) :
    Unstarted (sampleCluster experiments) where
  fresh := fun _ _ stored => fresh _ (mem_of_lookup_sampleCluster stored)
  jobs := fun _ _ found => by cases found
  services := fun _ _ found => by cases found

/-- The other team has given it a name of its own. -/
def apartKey : ObjectKey := ("other", "latency")

def apartEdges : Cluster := sampleCluster [(sampleKey, sampleEdge), (apartKey, otherEdge)]

theorem separated_sample : Separated apartEdges := by
  have stored {key : ObjectKey} {object : ExperimentObject}
      (found : apartEdges.experiments.lookup key = some object) :
      (key = sampleKey ∧ object = sampleEdge) ∨ (key = apartKey ∧ object = otherEdge) := by
    rcases List.mem_pair.mp (mem_of_lookup_sampleCluster found) with same | same
    · exact Or.inl (Prod.mk.inj same)
    · exact Or.inr (Prod.mk.inj same)
  have services : virtualServiceName sampleEdge.uid ≠ virtualServiceName otherEdge.uid := by
    decide +kernel
  refine ⟨fun key key' object object' share => ?_, fun key key' object object' share name => ?_,
    fun _ _ _ _ _ place tracked found => ?_, fun key key' object object' _ found _ pod => ?_⟩
  · rcases stored share.stored with ⟨rfl, -⟩ | ⟨rfl, -⟩ <;>
      rcases stored share.stored' with ⟨rfl, -⟩ | ⟨rfl, -⟩
    · exact absurd rfl share.distinct
    · decide
    · decide
    · exact absurd rfl share.distinct
  · rcases stored share.stored with ⟨rfl, rfl⟩ | ⟨rfl, rfl⟩ <;>
      rcases stored share.stored' with ⟨rfl, rfl⟩ | ⟨rfl, rfl⟩
    · exact absurd rfl share.distinct
    · exact fun named named' => services (named.trans named'.symm)
    · exact fun named named' => services (named'.trans named.symm)
    · exact absurd rfl share.distinct
  · cases found
  · rcases stored found with ⟨-, rfl⟩ | ⟨-, rfl⟩ <;> cases pod

/-- Both faults are there, and the first experiment has just ended. -/
def apartRunning : Cluster :=
  [(sampleServer 0, sampleKey), (sampleServer 0, apartKey),
    (sampleServer 10000000000, sampleKey)].foldl
      (fun cluster entry => runPass sampleDeployment entry.1 entry.2 cluster) apartEdges

/-- The second call of its next pass deletes its VirtualService. -/
theorem services_apartRunning :
    (cutPass sampleDeployment (sampleServer 0) sampleKey 1 apartRunning).virtualServices.listing.map
        (fun entry => (entry.1, entry.2.creator)) =
      [(("shop", "chaos-edge-7c1d9a20"), some apartKey),
        (("shop", "chaos-edge-0b8f5c1e"), some sampleKey)] ∧
    (cutPass sampleDeployment (sampleServer 0) sampleKey 2 apartRunning).virtualServices.listing.map
        (fun entry => entry.1) = [("shop", "chaos-edge-7c1d9a20")] := by
  constructor <;> decide +kernel

/-- Two edge experiments with faults in one namespace. The call that deletes the VirtualService of
the one leaves that of the other where it is. -/
theorem experiments_isolated_sample : ∃ pool pool' : OperatorPool,
    pool.state.cluster.virtualServices.listing.map (fun entry => entry.1) =
      [("shop", "chaos-edge-7c1d9a20"), ("shop", "chaos-edge-0b8f5c1e")] ∧
    pool'.state.cluster.virtualServices.listing.map (fun entry => entry.1) =
      [("shop", "chaos-edge-7c1d9a20")] ∧
    ∃ tracked,
      CreatedService apartKey pool.state.cluster ("shop", "chaos-edge-7c1d9a20") tracked ∧
      CreatedService apartKey pool'.state.cluster ("shop", "chaos-edge-7c1d9a20") tracked := by
  have fresh : ∀ entry ∈ [(sampleKey, sampleEdge), (apartKey, otherEdge)],
      entry.2.status = .null := by
    intro entry member
    rcases List.mem_pair.mp member with rfl | rfl <;> rfl
  have serves : ∀ entry ∈ [(sampleServer 0, sampleKey), (sampleServer 0, apartKey),
      (sampleServer 10000000000, sampleKey)], entry.1.Serves apiServer := by
    intro entry member
    simp only [List.mem_cons, List.not_mem_nil, or_false] at member
    rcases member with rfl | rfl | rfl <;> exact sampleServer_serves _
  have start : (idlePool apartEdges).state.Current := Watched.current_start apartEdges
  obtain ⟨earlier, run, state, -, current⟩ := run_storedPasses sampleDeployment serves start
  obtain ⟨listed, listed'⟩ := services_apartRunning
  have names := congrArg (List.map Prod.fst) listed
  rw [List.map_map] at names
  have moves : cutPass sampleDeployment (sampleServer 0) sampleKey 2 apartRunning ≠
      cutPass sampleDeployment (sampleServer 0) sampleKey 1 apartRunning := by
    intro same
    rw [same] at listed'
    cases listed'.symm.trans names
  have state : earlier.state.cluster = apartRunning := state
  rw [← state] at moves listed listed' names
  obtain ⟨experiment, pool, pool', request, actor, steps, step, found, left⟩ :=
    step_storedPass sampleDeployment (sampleServer_serves 0) sampleKey current 1 moves
  rw [← found] at listed names
  rw [← left] at listed'
  obtain ⟨⟨place, tracked⟩, member, same⟩ := List.mem_map.mp (listed ▸ List.mem_cons_self :
    ((("shop", "chaos-edge-7c1d9a20"), some apartKey) : ObjectKey × Option ObjectKey) ∈ _)
  obtain ⟨rfl, creator⟩ := Prod.mk.inj same
  have created : CreatedService apartKey pool.state.cluster ("shop", "chaos-edge-7c1d9a20")
      tracked := ⟨(Store.mem_listing _ _ _).mp member, creator⟩
  refine ⟨pool, pool', names, listed', tracked, created, ?_⟩
  exact (experiments_isolated sampleDeployment apartEdges (unstarted_sample fresh) separated_sample
    pool pool' (run.trans steps) experiment request step apartKey (by rw [actor]; decide)).2 _ _
    created

/-- Two teams have an edge experiment of the same name in the same target namespace. When the
first one is cleaned up, the VirtualService of the second one goes as well. -/
theorem experiments_entangled :
    ¬ ∀ (deployment : Deployment) (initial : Cluster) (pool pool' : OperatorPool)
      (experiment : ChaosExperiment) (request : ApiCall) (other : ObjectKey),
      Unstarted initial → Reachable deployment apiServer initial pool →
      Pool.Step (overlapping deployment apiServer) (.call experiment request) pool pool' →
      actorOf experiment ≠ other →
      (∀ place tracked, CreatedJob other pool.state.cluster place tracked →
        CreatedJob other pool'.state.cluster place tracked) ∧
      ∀ place tracked, CreatedService other pool.state.cluster place tracked →
        CreatedService other pool'.state.cluster place tracked := by
  intro claim
  let initial := sampleCluster [(sampleKey, sampleEdge), (otherKey, otherEdge)]
  have fresh : ∀ entry ∈ [(sampleKey, sampleEdge), (otherKey, otherEdge)],
      entry.2.status = .null := by
    intro entry member
    rcases List.mem_pair.mp member with rfl | rfl <;> rfl
  let passes := [(sampleServer 0, sampleKey), (sampleServer 0, otherKey),
    (sampleServer 10000000000, sampleKey)]
  have serves : ∀ entry ∈ passes, entry.1.Serves apiServer := by
    intro entry member
    simp only [passes, List.mem_cons, List.not_mem_nil, or_false] at member
    rcases member with rfl | rfl | rfl <;> exact sampleServer_serves _
  have start : (idlePool initial).state.Current := Watched.current_start initial
  obtain ⟨pool, reachable, state, -, current⟩ := run_storedPasses sampleDeployment serves start
  let Kept (cluster : Cluster) : Prop :=
    ∃ tracked, CreatedService otherKey cluster ("shop", "chaos-edge-7c1d9a20") tracked
  have created : Kept pool.state.cluster := by
    refine createdService_of_creator ?_
    rw [state]
    decide +kernel
  obtain ⟨object, experiment, stored, decoded⟩ :=
    stored_of_decoded sampleKey pool.state.cluster (by rw [state]; decide +kernel)
  have kept : Kept (clusterAfter sampleDeployment (sampleServer 0) experiment
      pool.state.cluster) := by
    refine pass_keeps sampleDeployment (sampleServer_serves 0) experiment (current _ _ stored)
      current decoded reachable ?_ created
    rintro before after request reached step ⟨tracked, createdService⟩
    have apart : actorOf experiment ≠ otherKey := by
      rw [(isSnapshot_of_snapshot decoded).actorOf_eq]
      decide
    exact ⟨tracked, (claim sampleDeployment initial before after experiment request otherKey
      (unstarted_sample fresh) reached step apart).2 _ _ createdService⟩
  have gone : ((runPass sampleDeployment (sampleServer 0) sampleKey
      pool.state.cluster).virtualServices.lookup ("shop", "chaos-edge-7c1d9a20")).isNone
        = true := by
    rw [state]
    decide +kernel
  obtain ⟨tracked, found, -⟩ := kept
  rw [runPass, stored, Option.bind_some, decoded, found] at gone
  cases gone

end ChimpChaos
