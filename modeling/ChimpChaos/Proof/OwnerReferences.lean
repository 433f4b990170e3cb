/-
This file says when the cluster's garbage collector can clean up after an experiment.

An owner reference counts in the owner's namespace only. Runner Jobs are created there. The
VirtualService of an edge experiment names the experiment as its owner as well, but it is
created in the target namespace, which may be another one.
-/

import ChimpChaos.Proof.EdgePath

namespace ChimpChaos

open Library Program

/-- What a call creates lies in the experiment's namespace and names the experiment as owner. -/
def TiedToOwner (experiment : ChaosExperiment) (uid : String) : ApiCall → Prop
  | .createJob ns job => ns = expNamespace experiment ∧
      ∃ owner ∈ job.metadata.ownerReferences.getD [],
        owner.name = expName experiment ∧ owner.uid = uid
  | .createVirtualService ns document => ns = expNamespace experiment ∧
      (expName experiment, uid) ∈ documentOwnerReferences document
  | _ => True

/-- However the calls of a pass are answered, everything it asks to create can be collected with
the experiment. -/
def CreationsCollectable (deployment : Deployment) (experiment : ChaosExperiment)
    (uid : String) : Prop :=
  ∀ trace rest, Reaches (fun _ (_ : Unit) _ _ => True) (deployment.pass experiment) () trace rest
    () → ∀ exchange ∈ trace, TiedToOwner experiment uid exchange.1

section OwnerReferences

variable {crates : Crates} {edgeResolver : Bool} {config : ReconcilerConfig}
  {experiment : ChaosExperiment} {history : History} {uid : String}

/-- Every Job a pass asks for is tied to the experiment. -/
theorem JobAsked.tiedToOwner {ns : String} {job : Job}
    (asked : JobAsked crates config experiment history ns job)
    (identified : experiment.metadata.uid = some uid) :
    TiedToOwner experiment uid (.createJob ns job) := by
  obtain ⟨id, nodes, node, -, -, -, built⟩ := asked.source
  refine ⟨asked.place, ownerRef experiment, ?_, rfl, ?_⟩
  · rw [buildRunnerJob_ownerReferences built]
    exact List.mem_singleton_self _
  · rw [ownerRef, identified, Option.getD_some]

/-- A VirtualService a pass asks for names the experiment as its owner. -/
theorem ServiceAsked.owner {ns : String} {document : Json}
    (asked : ServiceAsked edgeResolver experiment history ns document)
    (identified : experiment.metadata.uid = some uid) :
    (expName experiment, uid) ∈ documentOwnerReferences document := by
  obtain ⟨id, edge, sourceLabels, -, -, built⟩ := asked.source
  obtain ⟨vsName, fault, -, -, rfl⟩ := built.built
  rw [documentOwnerReferences_build, edgeVirtualService, identified, Option.getD_some]
  exact List.mem_singleton_self _

/-- Every call of a pass creates what is tied to the experiment when the target namespace is the
experiment's own. -/
theorem Issues.tiedToOwner {request : ApiCall}
    (issues : Issues crates edgeResolver config experiment history request)
    (identified : experiment.metadata.uid = some uid)
    (home : ∀ edge vsName fault, Injectable experiment edge vsName fault →
      targetNamespace experiment = expNamespace experiment) :
    TiedToOwner experiment uid request := by
  cases request with
  | createJob ns job => exact issues.jobAsked.tiedToOwner identified
  | createVirtualService ns document =>
    have asked := issues.serviceAsked
    obtain ⟨id, edge, sourceLabels, known, checked, built⟩ := asked.source
    obtain ⟨vsName, fault, injectable⟩ :=
      Injectable.of_asked issues known checked.target built
    exact ⟨asked.place.trans (home edge vsName fault injectable), asked.owner identified⟩
  | _ => trivial

/-- Some run of a pass asks for the VirtualService that can be built; it is created in the target
namespace. -/
theorem CreationsCollectable.home {deployment : Deployment}
    (collectable : CreationsCollectable deployment experiment uid) {edge : EdgeTarget}
    {vsName : String} {fault : Json} (injectable : Injectable experiment edge vsName fault) :
    targetNamespace experiment = expNamespace experiment := by
  let info : EdgeInfo := ⟨"", "", "", "", "", .zero, []⟩
  obtain ⟨trace, rest, reaches, -, asked⟩ := injectable.exists_run deployment
    (fun _ _ _ => .ok info) (fun _ => ⟨info, rfl⟩) [("app", edge.sourceService)] (by simp)
  exact (collectable trace rest reaches.forget _ asked).1

end OwnerReferences

/-- Everything the operator asks to create for an experiment can be collected with it if and only
if, whenever the experiment's VirtualService can be built, the target namespace is the
experiment's own. -/
theorem creationsCollectable_iff (deployment : Deployment) (experiment : ChaosExperiment)
    (uid : String) (identified : experiment.metadata.uid = some uid) :
    CreationsCollectable deployment experiment uid ↔
      ∀ edge vsName fault, Injectable experiment edge vsName fault →
        targetNamespace experiment = expNamespace experiment := by
  constructor
  · intro collectable edge vsName fault injectable
    exact collectable.home injectable
  · intro home trace rest reaches exchange member
    obtain ⟨earlier, -, issued⟩ := issued_of_mem reaches member
    exact issued.issues.tiedToOwner identified home

/-- The sample edge experiment with its target in its own namespace. -/
def homeEdge : ChaosExperiment :=
  freshSnapshot sampleKey
    { sampleEdge with spec := { sampleEdge.spec with targetNamespace := some "chaos" } }

/-- What is created for an experiment on its own namespace can be collected. -/
theorem creationsCollectable_sample :
    CreationsCollectable sampleDeployment homeEdge sampleUid :=
  (creationsCollectable_iff sampleDeployment homeEdge sampleUid rfl).mpr fun _ _ _ _ => rfl

/-- The VirtualService of an experiment on another namespace cannot. -/
theorem creation_uncollectable : ¬ ∀ (deployment : Deployment) (experiment : ChaosExperiment)
    (uid : String), experiment.metadata.uid = some uid →
      CreationsCollectable deployment experiment uid := by
  intro claim
  have collectable := claim sampleDeployment pendingEdge sampleUid rfl
  exact absurd (collectable.home pendingEdge_injectable) (by decide +kernel)

end ChimpChaos
