/-
This file proves that the classification of affected services by reachability is exact.

The graph search is a loop over a queue. On every graph, with cycles or with workloads that
have no entry of their own, the loop comes to an end, and what it has visited then is the
start and what a chain of series leads to. The services found there are set to direct and the
others to indirect; nothing else about them changes.
-/

import ChimpChaos.Proof.Classification

namespace ChimpChaos

open Library Relation

/-! ### The loop of the search -/

/-- The queue of the search and what it has visited. -/
abbrev SearchState : Type := List ServiceKey × List ServiceKey

/-- One turn of the loop: the first workload is taken from the queue, and those of its
successors that have not been visited are. -/
def SearchTurn (graph : Store ServiceKey (List ServiceKey)) (before after : SearchState) : Prop :=
  ∃ node rest, before.1 = node :: rest ∧
    after = visitNeighbors (neighbors graph node) rest before.2

section Loop

variable {graph : Store ServiceKey (List ServiceKey)} {start : ServiceKey}

/-- A bound for the turns that are left. -/
def turnsLeft (graph : Store ServiceKey (List ServiceKey)) (state : SearchState) : Nat :=
  state.1.length + unvisited (allNeighbors graph) state.2

/-- A turn keeps the invariant of the search and leaves fewer turns. -/
theorem SearchTurn.frontier {before after : SearchState} (turn : SearchTurn graph before after)
    (frontier : Frontier (neighbors graph) start before.1 before.2) :
    Frontier (neighbors graph) start after.1 after.2 ∧
      turnsLeft graph after < turnsLeft graph before := by
  obtain ⟨node, rest, queued, rfl⟩ := turn
  rw [queued] at frontier
  obtain ⟨next, bound⟩ := visitNeighbors_frontier frontier.pop
  refine ⟨next, lt_of_le_of_lt bound ?_⟩
  rw [turnsLeft, queued, List.length_cons]
  omega

/-- No sequence of turns goes on for ever. -/
theorem acc_searchTurn {state : SearchState}
    (frontier : Frontier (neighbors graph) start state.1 state.2) :
    Acc (fun after before => SearchTurn graph before after) state := by
  induction bound : turnsLeft graph state using Nat.strong_induction_on generalizing state with
  | _ left inductionHypothesis =>
    refine Acc.intro state fun after turn => ?_
    obtain ⟨next, fewer⟩ := turn.frontier frontier
    exact inductionHypothesis _ (by rw [← bound]; exact fewer) next rfl

/-- With enough steps, the model of the loop goes through the turns to the end. -/
theorem searchTurns_visitQueue {steps : Nat} {queue visited : List ServiceKey}
    (frontier : Frontier (neighbors graph) start queue visited)
    (enough : turnsLeft graph (queue, visited) ≤ steps) :
    ReflTransGen (SearchTurn graph) (queue, visited)
      ([], visitQueue graph steps queue visited) := by
  induction steps generalizing queue visited with
  | zero =>
    have empty : queue = [] := by
      refine List.length_eq_zero_iff.mp ?_
      simp only [turnsLeft] at enough
      omega
    rw [empty]
    exact .refl
  | succ steps inductionHypothesis =>
    cases queue with
    | nil => exact .refl
    | cons node rest =>
      have turn : SearchTurn graph (node :: rest, visited)
          (visitNeighbors (neighbors graph node) rest visited) := ⟨node, rest, rfl, rfl⟩
      obtain ⟨next, fewer⟩ := turn.frontier frontier
      exact .head turn (inductionHypothesis next (Nat.lt_succ_iff.mp (lt_of_lt_of_le fewer enough)))

/-- The search from a workload goes through the turns of the loop until the queue is empty. -/
theorem searchTurns_reachableFrom (graph : Store ServiceKey (List ServiceKey))
    (start : ServiceKey) :
    ReflTransGen (SearchTurn graph) ([start], [start]) ([], reachableFrom graph start) := by
  refine searchTurns_visitQueue (Frontier.first start) ?_
  have bound : unvisited (allNeighbors graph) [start] ≤ _ := unvisited_le _ _
  rw [searchSteps_eq, turnsLeft, List.length_singleton, Nat.add_comm]
  exact Nat.succ_le_succ bound

end Loop

/-! ### Exactness -/

/-- The search over the graph of some series ends, and it finds the start and every workload that
a chain of series leads to, in every order of the series. -/
structure ReachesExactly (metrics : List PrometheusMetric) (start : ServiceKey) : Prop where
  terminates : Acc (fun after before => SearchTurn (buildServiceGraph metrics).adjacency before
    after) ([start], [start])
  loop : ReflTransGen (SearchTurn (buildServiceGraph metrics).adjacency) ([start], [start])
    ([], reachableFrom (buildServiceGraph metrics).adjacency start)
  exact : ∀ node, node ∈ reachableFrom (buildServiceGraph metrics).adjacency start ↔
    SeriesLeads metrics start node
  orderFree : ∀ other, metrics.Perm other → ∀ node,
    node ∈ reachableFrom (buildServiceGraph other).adjacency start ↔
      node ∈ reachableFrom (buildServiceGraph metrics).adjacency start

/-- A service with its impact type set, and nothing else changed. -/
def withImpactType (service : AffectedService) (impactType : ImpactType) : AffectedService :=
  { service with impactType := some impactType }

/-- A service before and after the classification by the workloads a target leads to. -/
inductive ClassifiedFrom (metrics : List PrometheusMetric) (target : ServiceKey)
    (service : AffectedService) : AffectedService → Prop
  | direct (leads : SeriesLeads metrics target ⟨service.workload, service.ns⟩) :
      ClassifiedFrom metrics target service (withImpactType service .direct)
  | indirect (apart : ¬ SeriesLeads metrics target ⟨service.workload, service.ns⟩) :
      ClassifiedFrom metrics target service (withImpactType service .indirect)

/-- For an edge experiment each service is classified in its place; for every other experiment
nothing changes. -/
structure ClassifiesExactly (metrics : List PrometheusMetric) (affected : List AffectedService)
    (spec : ChaosExperimentSpec) (defaultNs : String) : Prop where
  edge : spec.scenario.isEdgeChaos = true →
    ∀ edge, spec.target.bind Target.edge = some edge →
      List.Forall₂
        (ClassifiedFrom metrics (chaosTarget spec edge (buildServiceGraph metrics) defaultNs))
        affected (classifyServices affected spec (buildServiceGraph metrics) defaultNs)
  pod : spec.scenario.isEdgeChaos = false →
    classifyServices affected spec (buildServiceGraph metrics) defaultNs = affected

section Exactness

variable {metrics : List PrometheusMetric} {spec : ChaosExperimentSpec} {edge : EdgeTarget}
  {defaultNs : String}

theorem reachesExactly (metrics : List PrometheusMetric) (start : ServiceKey) :
    ReachesExactly metrics start where
  terminates := acc_searchTurn (Frontier.first start)
  loop := searchTurns_reachableFrom _ start
  exact := fun _ => mem_reachableFrom.trans leads_buildServiceGraph
  orderFree := fun other perm node => by
    rw [mem_reachableFrom, mem_reachableFrom, leads_buildServiceGraph, leads_buildServiceGraph,
      seriesLeads_perm perm]

/-- One service is classified by whether the target leads to it. -/
theorem classifiedFrom_classifyService (service : AffectedService) :
    ClassifiedFrom metrics (chaosTarget spec edge (buildServiceGraph metrics) defaultNs) service
      (classifyService (reachableFrom (buildServiceGraph metrics).adjacency
        (chaosTarget spec edge (buildServiceGraph metrics) defaultNs)) service) := by
  unfold classifyService
  split_ifs with member
  · exact .direct (direct_iff_leads.mp member)
  · exact .indirect fun leads => member (direct_iff_leads.mpr leads)

theorem classifiesExactly (metrics : List PrometheusMetric) (affected : List AffectedService)
    (spec : ChaosExperimentSpec) (defaultNs : String) :
    ClassifiesExactly metrics affected spec defaultNs where
  edge := fun edgeChaos edge target => by
    rw [classifyServices_edge edgeChaos target, List.forall₂_map_right_iff]
    exact List.forall₂_same.mpr fun service _ => classifiedFrom_classifyService service
  pod := fun pod => by
    rw [classifyServices, if_neg (by rw [pod]; exact Bool.false_ne_true)]

end Exactness

/-- The graph search is the exact transitive closure of the series, and the classification of the
affected services follows it. -/
theorem reachability_exact (metrics : List PrometheusMetric) (affected : List AffectedService)
    (spec : ChaosExperimentSpec) (defaultNs : String) :
    (∀ start, ReachesExactly metrics start) ∧
      ClassifiesExactly metrics affected spec defaultNs :=
  ⟨reachesExactly metrics, classifiesExactly metrics affected spec defaultNs⟩

end ChimpChaos
