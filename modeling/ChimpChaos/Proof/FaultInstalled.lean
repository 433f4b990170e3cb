/-
This file says when an edge experiment that is marked `Running` has its own fault in place.

The VirtualService of an experiment is named after the first eight bytes of its uid. A name
that is taken counts as created, and nobody looks at what holds it. So the mark means a fault
of the experiment's own exactly when the name was free, or such a fault was there already.
-/

import ChimpChaos.Proof.Starting

namespace ChimpChaos

open Library

/-- A VirtualService document of this experiment for this edge: it carries the operator's mark
and the experiment's label, the experiment owns it, and its host is the destination. -/
structure OwnFault (experiment : ChaosExperiment) (edge : EdgeTarget) (document : Json) :
    Prop where
  owned : isOwnedBy (expName experiment) (documentLabels document) = true
  owner : ∃ uid, experiment.metadata.uid = some uid ∧ uid ∈ documentOwners document
  host : documentHosts document = [fqdn edge.destinationService (targetNamespace experiment)]

/-- The experiment's own fault is in its target namespace. -/
def FaultInstalled (experiment : ChaosExperiment) (cluster : Cluster) : Prop :=
  ∃ edge name tracked, experiment.spec.target.bind Target.edge = some edge ∧
    cluster.virtualServices.lookup (targetNamespace experiment, name) = some tracked ∧
    OwnFault experiment edge tracked.value

/-- The name of the experiment's VirtualService is free in its target namespace. -/
def FaultNameFree (experiment : ChaosExperiment) (uid : String) (cluster : Cluster) : Prop :=
  ∃ name, virtualServiceName ((statusOf experiment).experimentId.getD uid) = some name ∧
    cluster.virtualServices.lookup (targetNamespace experiment, name) = none

section FaultInstalled

variable {deployment : Deployment} {experiment : ChaosExperiment} {history : History}

/-- The document the edge path asks for is the experiment's own fault. -/
theorem FaultBuilt.ownFault {id uid : String} {edge : EdgeTarget} {sourceLabels : Labels}
    {document : Json} (built : FaultBuilt experiment id edge sourceLabels document)
    (known : experiment.metadata.uid = some uid) : OwnFault experiment edge document where
  owned := built.owned
  owner := by
    obtain ⟨vsName, fault, -, -, rfl⟩ := built.built
    refine ⟨uid, known, ?_⟩
    rw [documentOwners_build, edgeVirtualService, known]
    exact List.mem_singleton_self _
  host := by
    obtain ⟨vsName, fault, -, -, rfl⟩ := built.built
    rw [documentHosts_build, edgeVirtualService]

/-- A requested VirtualService has the experiment's name for it and is its own fault. -/
theorem RequestedService.ownFault {uid : String} (known : experiment.metadata.uid = some uid)
    {place : ObjectKey} {tracked : Tracked Json}
    (requested : RequestedService deployment experiment history place tracked) :
    ∃ edge name, experiment.spec.target.bind Target.edge = some edge ∧
      virtualServiceName ((statusOf experiment).experimentId.getD uid) = some name ∧
      place = (targetNamespace experiment, name) ∧ OwnFault experiment edge tracked.value := by
  obtain ⟨earlier, -, ns, document, issued, rfl, rfl⟩ := requested
  have asked := issued.issues.serviceAsked
  obtain ⟨id, edge, sourceLabels, identified, checked, built⟩ := asked.source
  have own := built.ownFault known
  obtain ⟨name, fault, named, -, rfl⟩ := built.built
  rw [identified.eq_getD known] at named
  refine ⟨edge, name, checked.target, named, ?_, own⟩
  rw [documentKey, asked.place, documentName_build]
  rfl

/-- When a pass writes `Running` for an edge experiment, it counts the experiment's VirtualService
as created. -/
theorem Writes.serviceCreated {crates : Crates} {edgeResolver : Bool} {config : ReconcilerConfig}
    {status : ChaosExperimentStatus}
    (writes : Writes crates edgeResolver config experiment history status)
    (running : status.phase = .running) (edgeChaos : experiment.spec.scenario.isEdgeChaos = true)
    {uid : String} (known : experiment.metadata.uid = some uid) :
    Starting experiment ∧ ∃ document answer name,
      ⟨.createVirtualService (targetNamespace experiment) document, answer⟩ ∈ history ∧
      Created answer ∧
      virtualServiceName ((statusOf experiment).experimentId.getD uid) = some name ∧
      documentKey (targetNamespace experiment) document = (targetNamespace experiment, name) := by
  rcases writes.running_cases running known with ⟨starting, ⟨pod, -⟩ | ⟨-, created⟩⟩
  · exact absurd (pod.symm.trans edgeChaos) Bool.false_ne_true
  · obtain ⟨edge, sourceLabels, document, answer, built, requested, created⟩ := created
    obtain ⟨name, fault, named, -, rfl⟩ := built.built
    exact ⟨starting, _, answer, name, requested, created, named, rfl⟩

end FaultInstalled

/-- When a pass on an edge experiment has written `Running`, the experiment's own fault is in
its target namespace if and only if the name of its VirtualService was free when the pass began,
or the fault was there already. -/
theorem faultInstalled_iff (deployment : Deployment) (experiment : ChaosExperiment) (uid : String)
    (before after : Cluster) (trace : History) (rest : Handler ReconcileResult)
    (known : experiment.metadata.uid = some uid)
    (edgeChaos : experiment.spec.scenario.isEdgeChaos = true)
    (reaches : Program.Reaches (truthfulServer experiment) (deployment.pass experiment) before
      trace rest after)
    (ns name : String) (status : ChaosExperimentStatus) (answer : Except OperatorError Unit)
    (written : ⟨.patchExperimentStatus ns name status, answer⟩ ∈ trace)
    (running : status.phase = .running) :
    FaultInstalled experiment after ↔
      FaultNameFree experiment uid before ∨ FaultInstalled experiment before := by
  obtain ⟨earlier, subset, issued⟩ :=
    issued_of_reaches reaches _ (List.mem_reverse.mpr written)
  obtain ⟨starting, document, told, vsName, requested, created, named, place⟩ :=
    issued.issues.writes.serviceCreated running edgeChaos known
  have started := started_of_reaches starting.1 reaches
  constructor
  · rintro ⟨edge, present, tracked, target, found, own⟩
    rcases started.services.gained _ _ found with held | ⟨free, asked⟩
    · exact Or.inr ⟨edge, present, tracked, target, held, own⟩
    · obtain ⟨-, asName, -, sameName, samePlace, -⟩ := asked.ownFault known
      obtain rfl := (Prod.mk.inj samePlace).2
      exact Or.inl ⟨present, sameName, free⟩
  · rintro (⟨freeName, sameName, free⟩ | ⟨edge, present, tracked, target, held, own⟩)
    · obtain rfl := Option.some.inj (named.symm.trans sameName)
      obtain ⟨tracked, found⟩ := Option.isSome_iff_exists.mp
        (started.serviceTaken _ _ _ (subset requested) created)
      rw [place] at found
      rcases started.services.gained _ _ found with held | ⟨-, asked⟩
      · rw [free] at held
        cases held
      · obtain ⟨edge, -, target, -, -, own⟩ := asked.ownFault known
        exact ⟨edge, vsName, tracked, target, found, own⟩
    · exact ⟨edge, present, tracked, target, started.services.kept _ _ held, own⟩

/-- In an empty cluster the fault of the sample is in place after its first pass. -/
theorem faultInstalled_sample : FaultInstalled (freshSnapshot sampleKey sampleEdge)
    (clusterAfter sampleDeployment (sampleServer 0) (freshSnapshot sampleKey sampleEdge)
      (sampleCluster [(sampleKey, sampleEdge)])) := by
  let experiment := freshSnapshot sampleKey sampleEdge
  let before := sampleCluster [(sampleKey, sampleEdge)]
  obtain ⟨rest, reaches⟩ := reaches_serve sampleDeployment sampleSurroundings experiment before
  obtain ⟨ns, name, status, answer, written, running⟩ : ∃ ns name status answer,
      ⟨.patchExperimentStatus ns name status, answer⟩ ∈
        passTranscript sampleDeployment sampleSurroundings experiment before ∧
      status.phase = .running := written_of_any (by decide +kernel)
  refine (faultInstalled_iff sampleDeployment experiment sampleUid before _ _ rest rfl rfl reaches
    ns name status answer written running).mpr (Or.inl ⟨"chaos-edge-0b8f5c1e", ?_, rfl⟩)
  decide +kernel

/-- A VirtualService of another experiment, whose uid begins with the same eight characters. -/
def otherFault : Json :=
  buildVirtualServiceJson {
    name := "chaos-edge-0b8f5c1e"
    ns := "shop"
    experimentName := "slow-stock"
    experimentUid := "0b8f5c1e-11c4-4a8e-8f51-9b6f0e2d3c4b"
    destinationFqdn := fqdn "stock" "shop"
    sourceLabels := [("app", "payment")]
    fault := buildEdgeDelayFault 50 }

/-- The sample in a cluster in which the name of its VirtualService is taken. -/
def takenCluster : Cluster :=
  { sampleCluster [(sampleKey, sampleEdge)] with
    virtualServices := (∅ : Store ObjectKey (Tracked Json)).create
      ("shop", "chaos-edge-0b8f5c1e") ⟨otherFault, some ("chaos", "slow-stock")⟩ }

/-- When another experiment holds the name, the experiment runs without a fault. -/
theorem faultMissing : ¬ ∀ (deployment : Deployment) (experiment : ChaosExperiment) (uid : String)
    (before after : Cluster) (trace : History) (rest : Handler ReconcileResult),
    experiment.metadata.uid = some uid → experiment.spec.scenario.isEdgeChaos = true →
    Program.Reaches (truthfulServer experiment) (deployment.pass experiment) before trace rest
      after →
    ∀ ns name status answer, ⟨.patchExperimentStatus ns name status, answer⟩ ∈ trace →
      status.phase = .running → FaultInstalled experiment after := by
  intro claim
  let experiment := freshSnapshot sampleKey sampleEdge
  obtain ⟨rest, reaches⟩ :=
    reaches_serve sampleDeployment sampleSurroundings experiment takenCluster
  obtain ⟨ns, name, status, answer, written, running⟩ : ∃ ns name status answer,
      ⟨.patchExperimentStatus ns name status, answer⟩ ∈
        passTranscript sampleDeployment sampleSurroundings experiment takenCluster ∧
      status.phase = .running := written_of_any (by decide +kernel)
  obtain ⟨edge, vsName, tracked, -, found, own⟩ := claim sampleDeployment experiment sampleUid
    takenCluster _ _ rest rfl rfl reaches ns name status answer written running
  obtain ⟨uid, known, owner⟩ := own.owner
  obtain rfl : sampleUid = uid := Option.some.inj known
  have foreign : (clusterAfter sampleDeployment (sampleServer 0) experiment
      takenCluster).virtualServices.listing.all (fun entry =>
        !(documentOwners entry.2.value).contains sampleUid) = true := by
    decide +kernel
  have absent := List.all_eq_true.mp foreign _ ((Store.mem_listing _ _ _).mpr found)
  rw [List.contains_iff_mem.mpr owner] at absent
  cases absent

end ChimpChaos
