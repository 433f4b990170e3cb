/-
This file says when the edge check of a pending pass vouches for the injected fault.

The host of the fault is built from the destination service and the target namespace. The
graph builder looks for a series from the source workload in that namespace to a service of
that name, takes the first one, and does not look at the namespace the series leads to.
-/

import ChimpChaos.Operator.GraphBuilder
import ChimpChaos.Proof.EdgePath

namespace ChimpChaos

open Library Program

section Preflight

variable (parseF64 : String → Option F64) (config : GraphBuilderConfig)

/-- A series that shows the edge of a fault: from the source service to the destination service,
both in the namespace, with a sufficient rate. -/
structure ShowsEdge (source destination ns : String) (series : PrometheusMetric) : Prop where
  source : series.label "source_workload" = source
  sourceNamespace : series.label "source_workload_namespace" = ns
  destination : series.label "destination_service_name" = destination
  destinationNamespace : series.label "destination_workload_namespace" = ns
  busy : config.minRps.atMost (series.rps parseF64) = true

/-- The pass asks for a VirtualService only for an edge that some series shows. -/
def VouchedFor (deployment : Deployment) (experiment : ChaosExperiment)
    (metrics : List PrometheusMetric) : Prop :=
  ∀ trace rest,
    Reaches (ResolvedBy (resolveEdge parseF64 config fun _ => .ok metrics))
      (deployment.pass experiment) () trace rest () →
    ∀ ns document answer, ⟨.createVirtualService ns document, answer⟩ ∈ trace →
      ∃ edge, experiment.spec.target.bind Target.edge = some edge ∧
        documentHosts document = [fqdn edge.destinationService ns] ∧
        ∃ series ∈ metrics, ShowsEdge parseF64 config edge.sourceService edge.destinationService
          ns series

/-- When the first series from the source in the namespace to a service of the name is busy
enough, it leads into the namespace, or another series shows the edge. -/
def FirstLeadsHome (source destination ns : String) (metrics : List PrometheusMetric) : Prop :=
  ∀ first, metrics.find? (isEdgeSeries source destination ns) = some first →
    config.minRps.atMost (first.rps parseF64) = true →
    first.label "destination_workload_namespace" = ns ∨
      ∃ series ∈ metrics, ShowsEdge parseF64 config source destination ns series

end Preflight

section FindEdge

variable {parseF64 : String → Option F64} {config : GraphBuilderConfig}
  {metrics : List PrometheusMetric} {source destination ns : String}

theorem isEdgeSeries_iff {series : PrometheusMetric} :
    isEdgeSeries source destination ns series = true ↔
      series.label "source_workload" = source ∧
        series.label "destination_service_name" = destination ∧
        series.label "source_workload_namespace" = ns := by
  simp [isEdgeSeries, and_assoc]

/-- An edge is found exactly when the first series for it is busy enough. -/
theorem exists_findEdge_iff :
    (∃ info, findEdge parseF64 config metrics source destination ns = .ok info) ↔
      ∃ first, metrics.find? (isEdgeSeries source destination ns) = some first ∧
        config.minRps.atMost (first.rps parseF64) = true := by
  unfold findEdge
  cases metrics.find? (isEdgeSeries source destination ns) with
  | none => simp
  | some first =>
    cases busy : config.minRps.atMost (first.rps parseF64) <;> simp [busy]

/-- The first series for an edge shows it when it leads into the namespace. -/
theorem showsEdge_of_find {first : PrometheusMetric}
    (found : metrics.find? (isEdgeSeries source destination ns) = some first)
    (busy : config.minRps.atMost (first.rps parseF64) = true)
    (home : first.label "destination_workload_namespace" = ns) :
    first ∈ metrics ∧ ShowsEdge parseF64 config source destination ns first := by
  obtain ⟨fromSource, toDestination, inNamespace⟩ := isEdgeSeries_iff.mp (List.find?_some found)
  exact ⟨List.mem_of_find?_eq_some found, fromSource, inNamespace, toDestination, home, busy⟩

end FindEdge

/-- With the graph builder as resolver, a pass asks only for faults on edges that some series
shows, if and only if, whenever the experiment's VirtualService can be built, the first series
for the edge leads into the target namespace or is not busy enough, or another one shows it. -/
theorem vouchedFor_iff (parseF64 : String → Option F64) (config : GraphBuilderConfig)
    (deployment : Deployment) (resolver : deployment.edgeResolver = true)
    (experiment : ChaosExperiment) (metrics : List PrometheusMetric) :
    VouchedFor parseF64 config deployment experiment metrics ↔
      ∀ edge vsName fault, Injectable experiment edge vsName fault →
        FirstLeadsHome parseF64 config edge.sourceService edge.destinationService
          (targetNamespace experiment) metrics := by
  constructor
  · intro vouched edge vsName fault injectable first found busy
    obtain ⟨trace, rest, reaches, -, asked⟩ := injectable.exists_run deployment
      (resolveEdge parseF64 config fun _ => .ok metrics)
      (fun _ => exists_findEdge_iff.mpr ⟨first, found, busy⟩) [("app", edge.sourceService)]
      (by simp)
    obtain ⟨edge', target, -, series, member, shows⟩ := vouched trace rest reaches _ _ _ asked
    obtain rfl := Option.some.inj (injectable.target.symm.trans target)
    exact Or.inr ⟨series, member, shows⟩
  · intro home trace rest reaches ns document answer asked
    obtain ⟨earlier, subset, issued⟩ := issued_of_mem reaches asked
    have service := issued.issues.serviceAsked
    obtain rfl := service.place
    obtain ⟨id, edge, sourceLabels, identified, checked, built⟩ := service.source
    obtain ⟨vsName, fault, injectable⟩ :=
      Injectable.of_asked issued.issues identified checked.target built
    refine ⟨edge, checked.target, ?_, ?_⟩
    · obtain ⟨_, _, -, -, rfl⟩ := built.built
      rw [documentHosts_build, edgeVirtualService]
    · obtain ⟨info, resolved⟩ := checked.resolved resolver
      obtain ⟨_, _, answered⟩ := reaches.answered (subset resolved)
      obtain ⟨first, found, busy⟩ := exists_findEdge_iff.mp ⟨info, Eq.symm answered⟩
      rcases home edge vsName fault injectable first found busy with leads | shown
      · exact ⟨first, showsEdge_of_find found busy leads⟩
      · exact shown

/-! ### An edge to elsewhere -/

/-- A series from the sample's source service to a service of the destination's name. -/
def ledgerSeries (destinationNs : String) : PrometheusMetric where
  metric := [("destination_service_name", "ledger"), ("destination_workload", "ledger"),
    ("destination_workload_namespace", destinationNs), ("source_workload", "payment"),
    ("source_workload_namespace", "shop")]
  value := "5"

/-- The parser at the text the examples use. -/
def sampleParseF64 (text : String) : Option F64 :=
  if text = "5" then some (.finite 5) else none

/-- The sample deployment with the edge check. -/
def checkedDeployment : Deployment := { sampleDeployment with edgeResolver := true }

/-- The edge check vouches for the sample's fault when the series leads into its namespace. -/
theorem vouchedFor_sample :
    VouchedFor sampleParseF64 {} checkedDeployment pendingEdge [ledgerSeries "shop"] := by
  refine (vouchedFor_iff sampleParseF64 {} checkedDeployment rfl pendingEdge _).mpr ?_
  intro edge vsName fault injectable first found busy
  obtain rfl := List.mem_singleton.mp (List.mem_of_find?_eq_some found)
  exact Or.inl (by decide +kernel)

/-- A series to a service of the same name in another namespace lets the fault pass. -/
theorem edgeElsewhere : ¬ ∀ (parseF64 : String → Option F64) (config : GraphBuilderConfig)
    (deployment : Deployment), deployment.edgeResolver = true →
    ∀ (experiment : ChaosExperiment) (metrics : List PrometheusMetric),
      VouchedFor parseF64 config deployment experiment metrics := by
  intro claim
  have resolved : ∃ info, findEdge sampleParseF64 {} [ledgerSeries "staging"] "payment" "ledger"
      "shop" = .ok info :=
    exists_findEdge_iff.mpr ⟨ledgerSeries "staging", by decide +kernel, by decide +kernel⟩
  obtain ⟨trace, rest, reaches, -, asked⟩ := pendingEdge_injectable.exists_run checkedDeployment
    (resolveEdge sampleParseF64 {} fun _ => .ok [ledgerSeries "staging"])
    (fun _ => resolved) [("app", "payment")] (by simp)
  obtain ⟨edge, target, -, series, member, shows⟩ := claim sampleParseF64 {} checkedDeployment rfl
    pendingEdge [ledgerSeries "staging"] trace rest reaches _ _ _ asked
  obtain rfl := List.mem_singleton.mp member
  exact absurd shows.destinationNamespace (by decide +kernel)

end ChimpChaos
