/-
This file says which requests the fault of an edge experiment reaches.

The VirtualService of an experiment selects callers by the labels of the source service and
names no source namespace. So a request to the destination meets the fault exactly when the
labels of its caller contain the selector, wherever the caller is.
-/

import ChimpChaos.Cluster.Istio
import ChimpChaos.Proof.EdgePath

namespace ChimpChaos

open Library Program

/-! ### The reach of a fault -/

/-- A document makes a request from a caller to a host meet a fault exactly when the caller is in
the namespace and has the labels of the selector, and leaves the host of the request as it is. -/
structure Confined (document : Json) (ns host : String) (selector : Labels) (caller : Caller) :
    Prop where
  faulted : (∃ delivery, deliver document ns caller host = some delivery ∧
      delivery.fault.isSome = true) ↔
    caller.ns = ns ∧ containsLabels caller.labels selector = true
  routed : ∃ delivery, deliver document ns caller host = some delivery ∧ delivery.hosts = [host]

theorem confined_build_iff (spec : VirtualServiceSpec) (ns : String) (caller : Caller) :
    Confined (buildVirtualServiceJson spec) ns spec.destinationFqdn spec.sourceLabels caller ↔
      caller.ns = ns ∨ containsLabels caller.labels spec.sourceLabels = false := by
  have delivered := deliver_build spec caller ns
  cases selected : containsLabels caller.labels spec.sourceLabels with
  | false =>
    rw [selected] at delivered
    refine iff_of_true ⟨?_, _, delivered, rfl⟩ (Or.inr rfl)
    simp [delivered, selected]
  | true =>
    rw [selected] at delivered
    constructor
    · intro confined
      exact Or.inl (confined.faulted.mp ⟨_, delivered, rfl⟩).1
    · rintro (same | ⟨⟨⟩⟩)
      exact ⟨iff_of_true ⟨_, delivered, rfl⟩ ⟨same, selected⟩, _, delivered, rfl⟩

/-- When a pass asks for a VirtualService, for every caller: a request to the destination meets
the fault just when the caller is in the target namespace and carries the selector of the source
service, with its host unchanged, if and only if the caller is in the target namespace or does not
carry the selector. -/
theorem confined_iff (deployment : Deployment) (experiment : ChaosExperiment) {State : Type}
    (step : (request : ApiCall) → State → Answer request → State → Prop) (state final : State)
    (trace : History) (rest : Handler ReconcileResult)
    (reaches : Reaches step (deployment.pass experiment) state trace rest final)
    (edge : EdgeTarget) (target : experiment.spec.target.bind Target.edge = some edge)
    (selector : Labels)
    (selected : ⟨.getServiceSelector (targetNamespace experiment) edge.sourceService,
      .ok selector⟩ ∈ trace)
    (ns : String) (document : Json) (answer : Except OperatorError Unit)
    (asked : ⟨.createVirtualService ns document, answer⟩ ∈ trace) (caller : Caller) :
    selector ≠ [] ∧ ns = targetNamespace experiment ∧
      (Confined document ns (fqdn edge.destinationService ns) selector caller ↔
        caller.ns = ns ∨ containsLabels caller.labels selector = false) := by
  obtain ⟨earlier, subset, issued⟩ := issued_of_mem reaches asked
  have service := issued.issues.serviceAsked
  obtain ⟨id, edge', sourceLabels, -, checked, built⟩ := service.source
  obtain rfl : edge' = edge := Option.some.inj (checked.target.symm.trans target)
  have told := selector_unique service.starting service.edgeChaos reaches selected
    (subset checked.selected) rfl rfl
  obtain rfl : selector = sourceLabels := by
    cases told
    rfl
  obtain rfl := service.place
  obtain ⟨vsName, fault, -, -, rfl⟩ := built.built
  exact ⟨checked.labelled, rfl, confined_build_iff _ _ caller⟩

/-! ### Callers elsewhere -/

/-- A resolver that knows no edge. The sample deployment has none. -/
def noEdge (_ _ _ : String) : Except OperatorError EdgeInfo := .error (.prometheus "no data")

/-- The VirtualService of the sample. -/
def pendingEdgeService : VirtualServiceSpec :=
  edgeVirtualService pendingEdge ⟨"payment", "ledger"⟩ "chaos-edge-0b8f5c1e" [("app", "payment")]
    (buildEdgeDelayFault 200)

/-- The sample asks for its VirtualService with the selector of the source service. -/
theorem pendingEdge_asks : ∃ trace rest,
    Reaches (ResolvedBy noEdge) (sampleDeployment.pass pendingEdge) () trace rest () ∧
      ⟨.getServiceSelector "shop" "payment", .ok [("app", "payment")]⟩ ∈ trace ∧
      ⟨.createVirtualService "shop" (buildVirtualServiceJson pendingEdgeService), .ok ()⟩ ∈
        trace :=
  pendingEdge_injectable.exists_run sampleDeployment noEdge nofun [("app", "payment")] (by simp)

/-- Callers in the namespace of the sample meet its fault as they should. -/
theorem confined_sample :
    Confined (buildVirtualServiceJson pendingEdgeService) "shop" (fqdn "ledger" "shop")
      [("app", "payment")] ⟨"shop", [("app", "payment")]⟩ := by
  obtain ⟨trace, rest, reaches, selected, asked⟩ := pendingEdge_asks
  exact (confined_iff sampleDeployment pendingEdge _ () () trace rest reaches
    ⟨"payment", "ledger"⟩ rfl [("app", "payment")] selected "shop" _ (.ok ()) asked
    ⟨"shop", [("app", "payment")]⟩).2.2.mpr (Or.inl rfl)

/-- A caller of another namespace with the same labels meets the fault as well. -/
theorem faultEscapes : ¬ ∀ (deployment : Deployment) (experiment : ChaosExperiment)
    (step : (request : ApiCall) → Unit → Answer request → Unit → Prop) (trace : History)
    (rest : Handler ReconcileResult),
    Reaches step (deployment.pass experiment) () trace rest () →
    ∀ edge, experiment.spec.target.bind Target.edge = some edge → ∀ selector,
      ⟨.getServiceSelector (targetNamespace experiment) edge.sourceService, .ok selector⟩ ∈
        trace →
      ∀ ns document, ⟨.createVirtualService ns document, .ok ()⟩ ∈ trace →
        ∀ caller, Confined document ns (fqdn edge.destinationService ns) selector caller := by
  intro claim
  obtain ⟨trace, rest, reaches, selected, asked⟩ := pendingEdge_asks
  have confined := claim sampleDeployment pendingEdge _ trace rest reaches ⟨"payment", "ledger"⟩
    rfl [("app", "payment")] selected "shop" _ asked ⟨"staging", [("app", "payment")]⟩
  rcases (confined_build_iff pendingEdgeService "shop" _).mp confined with same | unselected
  · exact absurd same (by decide)
  · exact absurd unselected (by decide)

end ChimpChaos
