/-
This file compares the two namespaces in which the operator places one and the same fault.

The experiment reconciler takes `spec.targetNamespace`, or else the experiment's own namespace.
The impact map reconciler takes `spec.targetNamespace`, or else `spec.target.namespace`, or else
the namespace of the impact map. They agree when the first is set, when the second names the
experiment's namespace, or when both are missing and the impact map lives with the experiment.
-/

import ChimpChaos.Cluster.Pass
import ChimpChaos.Operator.ImpactMap

namespace ChimpChaos

open Library

/-! ### Where the experiment reconciler puts the fault -/

/-- The experiment reconciler looks for the source service in a namespace, and the host of every
fault it builds is in that namespace. -/
structure FaultBuiltIn (crates : Crates) (edgeResolver : Bool) (config : ReconcilerConfig)
    (experiment : ChaosExperiment) (ns : String) : Prop where
  source : ∀ history asked service,
    Issued crates edgeResolver config experiment history (.getServiceSelector asked service) →
      asked = ns
  destination : ∀ history asked document,
    Issued crates edgeResolver config experiment history (.createVirtualService asked document) →
      asked = ns ∧ ∃ edge, experiment.spec.target.bind Target.edge = some edge ∧
        documentHosts document = [fqdn edge.destinationService ns]

theorem faultBuiltIn_targetNamespace (crates : Crates) (edgeResolver : Bool)
    (config : ReconcilerConfig) (experiment : ChaosExperiment) :
    FaultBuiltIn crates edgeResolver config experiment (targetNamespace experiment) where
  source := fun history asked service issued => issued.issues.selectorAsked
  destination := fun history asked document issued => by
    have requested := issued.issues.serviceAsked
    obtain ⟨id, edge, sourceLabels, identified, checked, built⟩ := requested.source
    obtain ⟨name, fault, named, -, rfl⟩ := built.built
    exact ⟨requested.place, edge, checked.target, documentHosts_build _⟩

/-! ### Where the impact map reconciler looks for the destination -/

/-- The impact map reconciler looks for the destination of the fault in a namespace: when it has
been given the experiment's spec and a graph, it classifies by what is reachable from the
workload found there. -/
def DestinationSoughtIn (impactMap : ChaosImpactMap) (spec : ChaosExperimentSpec)
    (edge : EdgeTarget) (ns : String) : Prop :=
  ∀ affected, (classifyAffected impactMap true affected).Follows (fun _ _ => True)
    (fun history result => ∀ graph,
      history = [⟨.queryServiceGraph [], .ok graph⟩,
        ⟨.getExperimentSpec (referredExperiment impactMap).1 (referredExperiment impactMap).2,
          .ok spec⟩] →
      result = .ok (affected.map (classifyService (reachableFrom graph.adjacency
        (resolveWorkloadKey edge.destinationService ns graph.serviceToWorkload))))) []

theorem destinationSoughtIn_chaosTargetNamespace (impactMap : ChaosImpactMap)
    {spec : ChaosExperimentSpec} {edge : EdgeTarget}
    (edgeChaos : spec.scenario.isEdgeChaos = true)
    (target : spec.target.bind Target.edge = some edge) :
    DestinationSoughtIn impactMap spec edge
      (chaosTargetNamespace spec (impactMapNamespace impactMap)) := by
  intro affected
  refine ⟨trivial, fun answer => ?_⟩
  cases answer with
  | error error =>
    intro graph same
    cases same
  | ok received =>
    refine ⟨trivial, fun answer => ?_⟩
    cases answer with
    | error error =>
      intro graph same
      cases same
    | ok graph =>
      intro graph same
      cases same
      show Except.ok (classifyServices affected spec graph (impactMapNamespace impactMap)) = _
      rw [classifyServices, if_pos edgeChaos, target]
      rfl

/-- An empty graph tells the namespaces apart: from the destination in one of them, no service of
the same name in another can be reached. -/
theorem DestinationSoughtIn.unique {impactMap : ChaosImpactMap} {spec : ChaosExperimentSpec}
    {edge : EdgeTarget} {ns ns' : String} (sought : DestinationSoughtIn impactMap spec edge ns)
    (sought' : DestinationSoughtIn impactMap spec edge ns') : ns = ns' := by
  let metric : MetricImpact := { baseline := .zero, during := .zero, impactScore := 0 }
  let service : AffectedService :=
    { workload := edge.destinationService, ns, impactScore := 0, impactType := none,
      metrics := { latencyP99 := metric, errorRate := metric, throughput := metric } }
  let graph : ServiceGraph := { adjacency := ∅, serviceToWorkload := ∅ }
  have told := ((sought [service]).2 (.ok spec)).2 (.ok graph) graph rfl
  have told' := ((sought' [service]).2 (.ok spec)).2 (.ok graph) graph rfl
  have same := List.map_eq_map_iff.mp (Except.ok.inj (told.symm.trans told')) service
    List.mem_cons_self
  have reached (other : String) : reachableFrom graph.adjacency
      (resolveWorkloadKey edge.destinationService other graph.serviceToWorkload) =
        [{ workload := edge.destinationService, ns := other }] := rfl
  have types := congrArg AffectedService.impactType same
  simp only [classifyService, reached, List.mem_singleton, service, if_true] at types
  by_contra different
  rw [if_neg (fun keys => different (congrArg ServiceKey.ns keys))] at types
  cases types

theorem destinationSoughtIn_iff (impactMap : ChaosImpactMap) {spec : ChaosExperimentSpec}
    {edge : EdgeTarget} (edgeChaos : spec.scenario.isEdgeChaos = true)
    (target : spec.target.bind Target.edge = some edge) {ns : String} :
    DestinationSoughtIn impactMap spec edge ns ↔
      ns = chaosTargetNamespace spec (impactMapNamespace impactMap) := by
  have sought := destinationSoughtIn_chaosTargetNamespace impactMap edgeChaos target
  constructor
  · exact fun other => other.unique sought
  · rintro rfl
    exact sought

/-! ### When the two agree -/

/-- The fallbacks lead to one namespace: the spec names it, or names the experiment's own
namespace in the target, or names none and the impact map lives with the experiment. -/
def FallbacksAgree (experiment : ChaosExperiment) (impactMap : ChaosImpactMap) : Prop :=
  experiment.spec.targetNamespace ≠ none ∨
    experiment.spec.target.bind Target.ns = some (expNamespace experiment) ∨
    experiment.spec.target.bind Target.ns = none ∧
      impactMapNamespace impactMap = expNamespace experiment

theorem fallbacksAgree_iff (experiment : ChaosExperiment) (impactMap : ChaosImpactMap) :
    targetNamespace experiment =
        chaosTargetNamespace experiment.spec (impactMapNamespace impactMap) ↔
      FallbacksAgree experiment impactMap := by
  have own : targetNamespace experiment =
      experiment.spec.targetNamespace.getD (expNamespace experiment) := rfl
  rw [own, chaosTargetNamespace, FallbacksAgree]
  cases experiment.spec.targetNamespace with
  | some ns => simp
  | none =>
    rw [Option.getD_none, Option.none_or]
    cases experiment.spec.target.bind Target.ns with
    | some ns => simp [eq_comm]
    | none => simp [eq_comm]

/-- The fault of an experiment is built in its target namespace. The fallbacks of the impact map
lead there if and only if they agree, and so does the look-up of the destination of an edge
experiment. -/
theorem sameFaultNamespace_iff (crates : Crates) (edgeResolver : Bool) (config : ReconcilerConfig)
    (experiment : ChaosExperiment) (impactMap : ChaosImpactMap) :
    FaultBuiltIn crates edgeResolver config experiment (targetNamespace experiment) ∧
      (targetNamespace experiment =
          chaosTargetNamespace experiment.spec (impactMapNamespace impactMap) ↔
        FallbacksAgree experiment impactMap) ∧
      ∀ edge, experiment.spec.scenario.isEdgeChaos = true →
        experiment.spec.target.bind Target.edge = some edge →
        (DestinationSoughtIn impactMap experiment.spec edge (targetNamespace experiment) ↔
          FallbacksAgree experiment impactMap) := by
  have agree := fallbacksAgree_iff experiment impactMap
  refine ⟨faultBuiltIn_targetNamespace crates edgeResolver config experiment, agree, ?_⟩
  intro edge edgeChaos target
  exact (destinationSoughtIn_iff impactMap edgeChaos target).trans agree

/-- The edge experiment of the examples, in the namespace `default` with its target elsewhere. -/
def paymentLedgerDelay : ChaosExperiment where
  metadata := { name := some "payment-ledger-delay", ns := some "default" }
  spec := {
    scenario := .edgeDelay
    duration := 600
    targetNamespace := none
    target := some { ns := some "production", edge := some ⟨"payment", "ledger"⟩ }
    parameters := some (.object [("latencyMs", .number (.posInt 200))]) }
  status := none

/-- The impact map of the examples, which refers to it. -/
def paymentDelayBlastRadius : ChaosImpactMap where
  metadata := { name := some "payment-delay-blast-radius", ns := some "default" }
  experimentRef := { name := "payment-ledger-delay", ns := some "default" }

/-- With the target namespace given twice, the two agree on it. -/
theorem sameFaultNamespace_sample :
    let experiment : ChaosExperiment := { paymentLedgerDelay with
      spec := { paymentLedgerDelay.spec with targetNamespace := some "production" } }
    FaultBuiltIn sampleCrates true {} experiment "production" ∧
      DestinationSoughtIn paymentDelayBlastRadius experiment.spec ⟨"payment", "ledger"⟩
        "production" := by
  intro experiment
  obtain ⟨built, -, sought⟩ :=
    sameFaultNamespace_iff sampleCrates true {} experiment paymentDelayBlastRadius
  exact ⟨built, (sought ⟨"payment", "ledger"⟩ rfl rfl).mpr (Or.inl nofun)⟩

/-- The fault of the example is built in `default` and its destination is sought in
`production`. -/
theorem differentFaultNamespaces : ¬ ∀ (experiment : ChaosExperiment) (impactMap : ChaosImpactMap),
    experiment.spec.scenario.isEdgeChaos = true → validateExperiment experiment.spec = .ok () →
    referredExperiment impactMap = (expNamespace experiment, expName experiment) →
    targetNamespace experiment =
      chaosTargetNamespace experiment.spec (impactMapNamespace impactMap) := by
  intro claim
  have same : targetNamespace paymentLedgerDelay = chaosTargetNamespace paymentLedgerDelay.spec
      (impactMapNamespace paymentDelayBlastRadius) :=
    claim paymentLedgerDelay paymentDelayBlastRadius rfl (by decide +kernel) (by decide +kernel)
  exact absurd same (by decide +kernel)

end ChimpChaos
