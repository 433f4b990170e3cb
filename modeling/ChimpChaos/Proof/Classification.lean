/-
This file says when the classification of affected services does not depend on the order of the
series.

The service graph is built in one pass over the series. The successors of a workload
accumulate, so the graph search sees the same edges in every order. The workload behind a
service is overwritten, so the search starts from the workload of the last series that shows
one; in another order it is another one.
-/

import ChimpChaos.Library.Search
import ChimpChaos.Operator.GraphBuilder

namespace ChimpChaos

open Library Relation

/-! ### The graph search -/

section Search

variable {graph : Store ServiceKey (List ServiceKey)}

/-- The successors of a workload in the graph. -/
def neighbors (graph : Store ServiceKey (List ServiceKey)) (node : ServiceKey) :
    List ServiceKey :=
  (graph.lookup node).getD []

/-- The workloads that are a successor of some workload. -/
def allNeighbors (graph : Store ServiceKey (List ServiceKey)) : List ServiceKey :=
  graph.listing.flatMap Prod.snd

theorem searchSteps_eq (graph : Store ServiceKey (List ServiceKey)) :
    searchSteps graph = (allNeighbors graph).length + 1 := by
  unfold searchSteps allNeighbors
  induction graph.listing with
  | nil => rfl
  | cons entry rest inductionHypothesis =>
    rw [List.foldr_cons, inductionHypothesis, List.flatMap_cons, List.length_append]
    omega

theorem mem_allNeighbors {node next : ServiceKey} (member : next ∈ neighbors graph node) :
    next ∈ allNeighbors graph := by
  unfold neighbors at member
  cases found : graph.lookup node with
  | none =>
    rw [found] at member
    cases member
  | some nodes =>
    rw [found] at member
    exact List.mem_flatMap.mpr ⟨(node, nodes), (Store.mem_listing graph node nodes).mpr found,
      member⟩

/-- One expansion. What it adds to the queue it takes from the nodes still to be found. -/
theorem visitNeighbors_frontier {start node : ServiceKey} {left queue visited : List ServiceKey}
    (expanding : Expanding (neighbors graph) start node left queue visited) :
    Frontier (neighbors graph) start (visitNeighbors left queue visited).1
        (visitNeighbors left queue visited).2 ∧
      (visitNeighbors left queue visited).1.length +
          unvisited (allNeighbors graph) (visitNeighbors left queue visited).2 ≤
        queue.length + unvisited (allNeighbors graph) visited := by
  induction left generalizing queue visited with
  | nil => exact ⟨expanding.finish, le_refl _⟩
  | cons next rest inductionHypothesis =>
    rw [visitNeighbors]
    split_ifs with seen
    · exact inductionHypothesis (expanding.skip seen)
    · obtain ⟨frontier, bound⟩ := inductionHypothesis expanding.push
      have fewer := unvisited_push
        (mem_allNeighbors (expanding.successor next List.mem_cons_self)) seen
      refine ⟨frontier, bound.trans ?_⟩
      rw [List.length_append, List.length_singleton]
      omega

/-- With enough steps the loop ends with an empty queue. -/
theorem visitQueue_frontier {start : ServiceKey} {steps : Nat} {queue visited : List ServiceKey}
    (frontier : Frontier (neighbors graph) start queue visited)
    (enough : queue.length + unvisited (allNeighbors graph) visited ≤ steps) :
    Frontier (neighbors graph) start [] (visitQueue graph steps queue visited) := by
  induction steps generalizing queue visited with
  | zero =>
    have empty : queue = [] := List.length_eq_zero_iff.mp (by omega)
    rw [empty] at frontier
    exact frontier
  | succ steps inductionHypothesis =>
    cases queue with
    | nil => exact frontier
    | cons node rest =>
      obtain ⟨next, bound⟩ := visitNeighbors_frontier frontier.pop
      refine inductionHypothesis next (bound.trans ?_)
      rw [List.length_cons] at enough
      omega

/-- The search finds what the start leads to, and nothing else. -/
theorem mem_reachableFrom {start node : ServiceKey} :
    node ∈ reachableFrom graph start ↔ Leads (neighbors graph) start node := by
  refine (visitQueue_frontier (Frontier.first start) ?_).mem_iff
  rw [searchSteps_eq, List.length_singleton]
  have bound := unvisited_le (allNeighbors graph) [start]
  omega

end Search

/-! ### The graph of a list of series -/

section Graph

variable {metrics metrics' : List PrometheusMetric}

/-- A series leads from one workload to another. -/
def SeriesStep (metrics : List PrometheusMetric) (source destination : ServiceKey) : Prop :=
  ∃ series ∈ metrics, seriesEdge series = some (source, destination)

/-- One workload leads to another along series. -/
def SeriesLeads (metrics : List PrometheusMetric) : ServiceKey → ServiceKey → Prop :=
  ReflTransGen (SeriesStep metrics)

theorem mem_neighbors_addSeries (graph : ServiceGraph) (series : PrometheusMetric)
    (source destination : ServiceKey) :
    destination ∈ neighbors (addSeries graph series).adjacency source ↔
      destination ∈ neighbors graph.adjacency source ∨
        seriesEdge series = some (source, destination) := by
  unfold addSeries
  cases edge : seriesEdge series with
  | none => simp
  | some ends =>
    obtain ⟨first, second⟩ := ends
    simp only [neighbors, Option.some.injEq, Prod.mk.injEq]
    by_cases same : source = first
    · subst same
      simp [eq_comm]
    · rw [AList.lookup_insert_ne same]
      simp [Ne.symm same]

theorem mem_neighbors_foldl (graph : ServiceGraph) (source destination : ServiceKey) :
    destination ∈ neighbors (metrics.foldl addSeries graph).adjacency source ↔
      destination ∈ neighbors graph.adjacency source ∨ SeriesStep metrics source destination := by
  induction metrics generalizing graph with
  | nil => simp [SeriesStep]
  | cons series rest inductionHypothesis =>
    rw [List.foldl_cons, inductionHypothesis, mem_neighbors_addSeries, or_assoc]
    simp [SeriesStep]

theorem leads_buildServiceGraph {source destination : ServiceKey} :
    Leads (neighbors (buildServiceGraph metrics).adjacency) source destination ↔
      SeriesLeads metrics source destination := by
  have same : (fun node next => next ∈ neighbors (buildServiceGraph metrics).adjacency node) =
      SeriesStep metrics := by
    funext node next
    rw [buildServiceGraph, mem_neighbors_foldl]
    simp [neighbors]
  rw [Leads, same, SeriesLeads]

theorem seriesLeads_perm (perm : metrics.Perm metrics') :
    SeriesLeads metrics = SeriesLeads metrics' := by
  unfold SeriesLeads SeriesStep
  congr 1
  funext source destination
  simp [perm.mem_iff]

end Graph

/-! ### The workload behind a service -/

/-- A series shows a workload as serving a service in a namespace. -/
def Shows (series : PrometheusMetric) (service ns : String) (workload : ServiceKey) : Prop :=
  service ≠ "" ∧ series.label "destination_service_name" = service ∧ workload.workload ≠ "" ∧
    series.label "destination_workload" = workload.workload ∧
    series.label "destination_workload_namespace" = ns ∧ workload.ns = ns

/-- Some series shows a workload as serving a service in a namespace. -/
def Serves (metrics : List PrometheusMetric) (service ns : String) (workload : ServiceKey) :
    Prop :=
  ∃ series ∈ metrics, Shows series service ns workload

/-- Some series that names its source workload shows a workload as serving a service. -/
def ServesNamed (metrics : List PrometheusMetric) (service ns : String) (workload : ServiceKey) :
    Prop :=
  ∃ series ∈ metrics, Shows series service ns workload ∧ series.label "source_workload" ≠ ""

/-- The workloads from which the search may start: those served by series with a named source
or, when there is none, the one with the name of the service. -/
def MayStart (metrics : List PrometheusMetric) (service ns : String) (workload : ServiceKey) :
    Prop :=
  ServesNamed metrics service ns workload ∨
    (∀ other, ¬ ServesNamed metrics service ns other) ∧ workload = ⟨service, ns⟩

section Services

variable {metrics metrics' : List PrometheusMetric} {service ns : String} {workload : ServiceKey}

theorem mayStart_perm (perm : metrics.Perm metrics') :
    MayStart metrics service ns workload ↔ MayStart metrics' service ns workload := by
  simp [MayStart, ServesNamed, perm.mem_iff]

/-- A series with a named source that shows a workload as serving leads to this workload. -/
theorem shows_named_iff {series : PrometheusMetric} :
    (Shows series service ns workload ∧ series.label "source_workload" ≠ "") ↔
      service ≠ "" ∧ series.label "destination_service_name" = service ∧ workload.ns = ns ∧
        ∃ source, seriesEdge series = some (source, workload) := by
  obtain ⟨name, place⟩ := workload
  unfold Shows seriesEdge
  simp only [Bool.or_eq_true, String.isEmpty_iff, ne_eq]
  split_ifs with unnamed
  · rcases unnamed with source | destination
    · simp [source]
    · simp only [destination, exists_false, and_false, iff_false]
      rintro ⟨⟨-, -, named, same, -⟩, -⟩
      exact named same.symm
  · simp only [not_or] at unnamed
    simp only [Option.some.injEq, Prod.mk.injEq, ServiceKey.mk.injEq, exists_eq_left']
    constructor
    · rintro ⟨⟨nonempty, shown, -, destination, home, same⟩, -⟩
      exact ⟨nonempty, shown, same, destination, home.trans same.symm⟩
    · rintro ⟨nonempty, shown, same, destination, home⟩
      exact ⟨⟨nonempty, shown, by rw [← destination]; exact unnamed.2, destination,
        home.trans same, same⟩, unnamed.1⟩

theorem lookup_addSeries_of_shows (graph : ServiceGraph) {series : PrometheusMetric}
    (shows : Shows series service ns workload) (named : series.label "source_workload" ≠ "") :
    (addSeries graph series).serviceToWorkload.lookup (service, ns) = some workload := by
  obtain ⟨nonempty, shown, rfl, source, edge⟩ := shows_named_iff.mp ⟨shows, named⟩
  have filled : ¬ service.isEmpty = true := by simpa using nonempty
  rw [addSeries, edge]
  simp only [shown]
  rw [if_neg filled, AList.lookup_insert]

theorem lookup_addSeries_of_not (graph : ServiceGraph) {series : PrometheusMetric}
    (silent : ∀ shown, ¬ (Shows series service ns shown ∧ series.label "source_workload" ≠ "")) :
    (addSeries graph series).serviceToWorkload.lookup (service, ns) =
      graph.serviceToWorkload.lookup (service, ns) := by
  unfold addSeries
  cases edge : seriesEdge series with
  | none => rfl
  | some ends =>
    obtain ⟨source, destination⟩ := ends
    dsimp only
    split_ifs with empty
    · rfl
    · rw [AList.lookup_insert_ne]
      intro same
      obtain ⟨rfl, rfl⟩ := Prod.mk.inj same
      exact silent destination (shows_named_iff.mpr
        ⟨by simpa using empty, rfl, rfl, source, edge⟩)

/-- The workload behind a service comes from a series, or there is none. -/
theorem lookup_foldl_addSeries (graph : ServiceGraph) :
    (∃ shown, ServesNamed metrics service ns shown ∧
        (metrics.foldl addSeries graph).serviceToWorkload.lookup (service, ns) = some shown) ∨
      ((∀ shown, ¬ ServesNamed metrics service ns shown) ∧
        (metrics.foldl addSeries graph).serviceToWorkload.lookup (service, ns) =
          graph.serviceToWorkload.lookup (service, ns)) := by
  induction metrics generalizing graph with
  | nil => exact Or.inr ⟨by simp [ServesNamed], rfl⟩
  | cons series rest inductionHypothesis =>
    rw [List.foldl_cons]
    rcases inductionHypothesis (addSeries graph series) with
      ⟨shown, ⟨later, member, serves⟩, found⟩ | ⟨none, found⟩
    · exact Or.inl ⟨shown, ⟨later, List.mem_cons_of_mem _ member, serves⟩, found⟩
    · by_cases silent : ∀ shown,
          ¬ (Shows series service ns shown ∧ series.label "source_workload" ≠ "")
      · refine Or.inr ⟨?_, found.trans (lookup_addSeries_of_not graph silent)⟩
        rintro shown ⟨other, member, serves⟩
        rcases List.mem_cons.mp member with rfl | member
        · exact silent shown serves
        · exact none shown ⟨other, member, serves⟩
      · push Not at silent
        obtain ⟨shown, shows, named⟩ := silent
        exact Or.inl ⟨shown, ⟨series, List.mem_cons_self, shows, named⟩,
          found.trans (lookup_addSeries_of_shows graph shows named)⟩

/-- The search starts from a workload from which it may. -/
theorem mayStart_resolveWorkloadKey : MayStart metrics service ns
    (resolveWorkloadKey service ns (buildServiceGraph metrics).serviceToWorkload) := by
  unfold resolveWorkloadKey buildServiceGraph
  rcases lookup_foldl_addSeries { adjacency := ∅, serviceToWorkload := ∅ } with
    ⟨shown, serves, found⟩ | ⟨none, found⟩
  · rw [found, Option.getD_some]
    exact Or.inl serves
  · rw [found]
    exact Or.inr ⟨none, rfl⟩

/-- Every workload from which the search may start is the one it starts from in some order of the
series. -/
theorem exists_perm_of_mayStart (start : MayStart metrics service ns workload) :
    ∃ metrics', metrics.Perm metrics' ∧
      resolveWorkloadKey service ns (buildServiceGraph metrics').serviceToWorkload = workload := by
  rcases start with ⟨series, member, shows, named⟩ | ⟨none, rfl⟩
  · obtain ⟨front, back, rfl⟩ := List.append_of_mem member
    refine ⟨front ++ back ++ [series], ?_, ?_⟩
    · rw [List.append_assoc]
      exact List.Perm.append_left front (List.perm_append_singleton series back).symm
    · rw [resolveWorkloadKey, buildServiceGraph, List.foldl_append, List.foldl_cons,
        List.foldl_nil, lookup_addSeries_of_shows _ shows named, Option.getD_some]
  · refine ⟨metrics, List.Perm.refl _, ?_⟩
    have start : MayStart metrics service ns _ := mayStart_resolveWorkloadKey
    exact (start.resolve_left (none _)).2

end Services

/-! ### The classification -/

/-- The affected services are classified alike in every order of the series, and as direct just
when some workload that serves the destination leads to them. -/
structure ClassifiedByServing (metrics : List PrometheusMetric) (affected : List AffectedService)
    (spec : ChaosExperimentSpec) (edge : EdgeTarget) (defaultNs : String) : Prop where
  orderFree : ∀ metrics', metrics.Perm metrics' →
    classifyServices affected spec (buildServiceGraph metrics') defaultNs =
      classifyServices affected spec (buildServiceGraph metrics) defaultNs
  direct : ∀ service ∈ classifyServices affected spec (buildServiceGraph metrics) defaultNs,
    service.impactType = some .direct ↔ ∃ workload,
      Serves metrics edge.destinationService (chaosTargetNamespace spec defaultNs) workload ∧
        SeriesLeads metrics workload ⟨service.workload, service.ns⟩

section Classification

variable {metrics metrics' : List PrometheusMetric} {affected : List AffectedService}
  {spec : ChaosExperimentSpec} {edge : EdgeTarget} {defaultNs : String}

theorem classifyServices_edge (edgeChaos : spec.scenario.isEdgeChaos = true)
    (target : spec.target.bind Target.edge = some edge) (graph : ServiceGraph) :
    classifyServices affected spec graph defaultNs = affected.map (classifyService
      (reachableFrom graph.adjacency (chaosTarget spec edge graph defaultNs))) := by
  rw [classifyServices, if_pos edgeChaos, target]

theorem classifyService_direct_iff {reachable : List ServiceKey} {service : AffectedService} :
    (classifyService reachable service).impactType = some .direct ↔
      (⟨service.workload, service.ns⟩ : ServiceKey) ∈ reachable := by
  unfold classifyService
  dsimp only
  split_ifs with member <;> simp [member]

theorem classifyService_congr {reachable reachable' : List ServiceKey} {service : AffectedService}
    (same : (⟨service.workload, service.ns⟩ : ServiceKey) ∈ reachable ↔
      (⟨service.workload, service.ns⟩ : ServiceKey) ∈ reachable') :
    classifyService reachable service = classifyService reachable' service := by
  unfold classifyService
  simp only [same]

/-- A service is classified as direct just when the workload from which the search starts leads
to it. -/
theorem direct_iff_leads {service : AffectedService} :
    (⟨service.workload, service.ns⟩ : ServiceKey) ∈ reachableFrom
        (buildServiceGraph metrics).adjacency
        (chaosTarget spec edge (buildServiceGraph metrics) defaultNs) ↔
      SeriesLeads metrics (chaosTarget spec edge (buildServiceGraph metrics) defaultNs)
        ⟨service.workload, service.ns⟩ :=
  mem_reachableFrom.trans leads_buildServiceGraph

end Classification

/-- The classification of an edge experiment is the same in every order of the series, and direct
means served by the destination or reachable from there, if and only if every workload from which
the search may start leads to the same affected services as all serving workloads together. -/
theorem classifiedByServing_iff (metrics : List PrometheusMetric) (affected : List AffectedService)
    (spec : ChaosExperimentSpec) (edgeChaos : spec.scenario.isEdgeChaos = true) (edge : EdgeTarget)
    (target : spec.target.bind Target.edge = some edge) (defaultNs : String) :
    ClassifiedByServing metrics affected spec edge defaultNs ↔
      ∀ service ∈ affected, ∀ start,
        MayStart metrics edge.destinationService (chaosTargetNamespace spec defaultNs) start →
        (SeriesLeads metrics start ⟨service.workload, service.ns⟩ ↔ ∃ workload,
          Serves metrics edge.destinationService (chaosTargetNamespace spec defaultNs) workload ∧
            SeriesLeads metrics workload ⟨service.workload, service.ns⟩) := by
  constructor
  · intro classified service member start mayStart
    obtain ⟨metrics', perm, starts⟩ := exists_perm_of_mayStart mayStart
    have same := classified.orderFree metrics' perm
    rw [classifyServices_edge edgeChaos target, classifyServices_edge edgeChaos target,
      List.map_inj_left] at same
    have direct := classified.direct
    rw [classifyServices_edge edgeChaos target] at direct
    have atService := direct _ (List.mem_map_of_mem member)
    rw [← same service member, classifyService_direct_iff, direct_iff_leads, chaosTarget, starts,
      ← seriesLeads_perm perm] at atService
    exact atService
  · intro agree
    have leads {metrics' : List PrometheusMetric} (perm : metrics.Perm metrics')
        {service : AffectedService} (member : service ∈ affected) :
        (⟨service.workload, service.ns⟩ : ServiceKey) ∈ reachableFrom
            (buildServiceGraph metrics').adjacency
            (chaosTarget spec edge (buildServiceGraph metrics') defaultNs) ↔ ∃ workload,
          Serves metrics edge.destinationService (chaosTargetNamespace spec defaultNs) workload ∧
            SeriesLeads metrics workload ⟨service.workload, service.ns⟩ := by
      rw [direct_iff_leads, ← seriesLeads_perm perm]
      exact agree service member _ ((mayStart_perm perm).mpr mayStart_resolveWorkloadKey)
    refine ⟨fun metrics' perm => ?_, fun service member => ?_⟩
    · rw [classifyServices_edge edgeChaos target, classifyServices_edge edgeChaos target,
        List.map_inj_left]
      intro service member
      exact classifyService_congr ((leads perm member).trans (leads (List.Perm.refl _) member).symm)
    · rw [classifyServices_edge edgeChaos target] at member
      obtain ⟨origin, isAffected, rfl⟩ := List.mem_map.mp member
      exact classifyService_direct_iff.trans (leads (List.Perm.refl _) isAffected)

/-! ### A service with two workloads -/

/-- A series from the frontend to a workload of the ledger service. -/
def toLedger (workload : String) : PrometheusMetric where
  metric := [("destination_service_name", "ledger"), ("destination_workload", workload),
    ("destination_workload_namespace", "shop"), ("source_workload", "frontend"),
    ("source_workload_namespace", "shop")]
  value := "5"

/-- An affected workload of the namespace of the sample. -/
def affectedWorkload (workload : String) : AffectedService where
  workload := workload
  ns := "shop"
  impactScore := 50
  impactType := none
  metrics := {
    latencyP99 := { baseline := .finite 10, during := .finite 25, impactScore := 100 }
    errorRate := { baseline := .zero, during := .zero, impactScore := 0 }
    throughput := { baseline := .finite 8, during := .finite 4, impactScore := 50 } }

/-- A fault between payment and ledger. -/
def ledgerSpec : ChaosExperimentSpec where
  scenario := .edgeDelay
  duration := 5
  targetNamespace := some "shop"
  target := some { ns := none, edge := some ⟨"payment", "ledger"⟩ }
  parameters := none

theorem serves_toLedger_iff {workload : String} {shown : ServiceKey}
    (nonempty : workload ≠ "") :
    Serves [toLedger workload] "ledger" "shop" shown ↔ shown = ⟨workload, "shop"⟩ := by
  obtain ⟨name, place⟩ := shown
  constructor
  · rintro ⟨series, member, -, -, -, destination, -, rfl⟩
    obtain rfl := List.mem_singleton.mp member
    have same : workload = name := destination
    rw [same]
  · rintro ⟨⟩
    exact ⟨_, List.mem_singleton_self _, by decide, rfl, nonempty, rfl, rfl, rfl⟩

/-- With one workload behind the service the classification is as it should be. -/
theorem classifiedByServing_sample :
    ClassifiedByServing [toLedger "ledger-v1"] [affectedWorkload "ledger-v1"] ledgerSpec
      ⟨"payment", "ledger"⟩ "chaos" := by
  refine (classifiedByServing_iff _ _ ledgerSpec rfl ⟨"payment", "ledger"⟩ rfl "chaos").mpr ?_
  intro service member start mayStart
  have only {shown : ServiceKey} : Serves [toLedger "ledger-v1"] "ledger" "shop" shown ↔
      shown = ⟨"ledger-v1", "shop"⟩ := serves_toLedger_iff (by decide)
  have starts : start = ⟨"ledger-v1", "shop"⟩ := by
    rcases mayStart with ⟨series, isSeries, shows, -⟩ | ⟨none, -⟩
    · exact only.mp ⟨series, isSeries, shows⟩
    · obtain ⟨series, isSeries, shows⟩ := only.mpr rfl
      obtain rfl := List.mem_singleton.mp isSeries
      exact absurd ⟨_, isSeries, shows, by decide +kernel⟩ (none _)
  constructor
  · intro leads
    exact ⟨start, only.mpr starts, leads⟩
  · rintro ⟨workload, serves, leads⟩
    rw [starts, ← only.mp serves]
    exact leads

/-- With two workloads behind the service the order of the series decides. -/
theorem orderDecides : ¬ ∀ (metrics : List PrometheusMetric) (affected : List AffectedService)
    (spec : ChaosExperimentSpec) (edge : EdgeTarget) (defaultNs : String),
    spec.scenario.isEdgeChaos = true → spec.target.bind Target.edge = some edge →
    ClassifiedByServing metrics affected spec edge defaultNs := by
  intro claim
  have classified := claim [toLedger "ledger-v1", toLedger "ledger-v2"]
    [affectedWorkload "ledger-v1"] ledgerSpec ⟨"payment", "ledger"⟩ "chaos" rfl rfl
  exact absurd (classified.orderFree [toLedger "ledger-v2", toLedger "ledger-v1"]
    (List.Perm.swap _ _ _)) (by decide +kernel)

end ChimpChaos
