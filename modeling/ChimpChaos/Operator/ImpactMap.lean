/-
This file models the part of the impact map reconciler that compares affected services with
the place of the fault: it reads the experiment's spec and the service graph, looks up the
workload behind the destination service, and calls a service direct when the graph leads from
that workload to it.
-/

import ChimpChaos.Library.Store
import ChimpChaos.Operator.Analysis

namespace ChimpChaos

open Library

/-! ### The resource -/

structure MetricImpact where
  baseline : F64
  during : F64
  impactScore : UInt32
  deriving DecidableEq, Repr

structure ServiceMetrics where
  latencyP99 : MetricImpact
  errorRate : MetricImpact
  throughput : MetricImpact
  deriving DecidableEq, Repr

inductive ImpactType where
  | direct
  | indirect
  deriving DecidableEq, Repr

structure AffectedService where
  workload : String
  ns : String
  impactScore : UInt32
  impactType : Option ImpactType
  metrics : ServiceMetrics
  deriving DecidableEq, Repr

/-- An impact map: its metadata and the experiment it refers to. -/
structure ChaosImpactMap where
  metadata : ObjectMeta
  experimentRef : ExperimentRef
  deriving Repr

/-! ### The service graph -/

structure ServiceKey where
  workload : String
  ns : String
  deriving DecidableEq, Repr

structure ServiceGraph where
  adjacency : Store ServiceKey (List ServiceKey)
  serviceToWorkload : Store (String × String) ServiceKey

/-- The workload behind a service, or the service's own name when the graph has none. -/
def resolveWorkloadKey (serviceName ns : String) (mapping : Store (String × String) ServiceKey) :
    ServiceKey :=
  (mapping.lookup (serviceName, ns)).getD { workload := serviceName, ns := ns }

/-- Queue the neighbours that have not been visited yet. -/
def visitNeighbors : List ServiceKey → List ServiceKey → List ServiceKey →
    List ServiceKey × List ServiceKey
  | [], queue, visited => (queue, visited)
  | neighbor :: rest, queue, visited =>
    if neighbor ∈ visited then visitNeighbors rest queue visited
    else visitNeighbors rest (queue ++ [neighbor]) (visited ++ [neighbor])

/-- The loop over the queue. -/
def visitQueue (graph : Store ServiceKey (List ServiceKey)) :
    Nat → List ServiceKey → List ServiceKey → List ServiceKey
  | 0, _, visited => visited
  | _ + 1, [], visited => visited
  | steps + 1, node :: rest, visited =>
    let reached := visitNeighbors ((graph.lookup node).getD []) rest visited
    visitQueue graph steps reached.1 reached.2

/-- How often the queue is served at most: a key is queued once, and each but the first is a
neighbour of some node. -/
def searchSteps (graph : Store ServiceKey (List ServiceKey)) : Nat :=
  graph.listing.foldr (fun entry steps => entry.2.length + steps) 1

def reachableFrom (graph : Store ServiceKey (List ServiceKey)) (start : ServiceKey) :
    List ServiceKey :=
  visitQueue graph (searchSteps graph) [start] [start]

/-! ### Classification -/

/-- The namespace in which the destination of the fault is looked up. -/
def chaosTargetNamespace (spec : ChaosExperimentSpec) (defaultNs : String) : String :=
  (spec.targetNamespace.or (spec.target.bind Target.ns)).getD defaultNs

/-- The workload that the fault is taken to hit. -/
def chaosTarget (spec : ChaosExperimentSpec) (edge : EdgeTarget) (graph : ServiceGraph)
    (defaultNs : String) : ServiceKey :=
  resolveWorkloadKey edge.destinationService (chaosTargetNamespace spec defaultNs)
    graph.serviceToWorkload

def classifyService (reachable : List ServiceKey) (service : AffectedService) : AffectedService :=
  { service with
    impactType :=
      if { workload := service.workload, ns := service.ns } ∈ reachable then some .direct
      else some .indirect }

def classifyServices (affected : List AffectedService) (spec : ChaosExperimentSpec)
    (graph : ServiceGraph) (defaultNs : String) : List AffectedService :=
  if spec.scenario.isEdgeChaos then
    match spec.target.bind Target.edge with
    | none => affected
    | some edge =>
      affected.map
        (classifyService (reachableFrom graph.adjacency (chaosTarget spec edge graph defaultNs)))
  else affected

/-! ### The step that classifies -/

/-- The calls of the step: the experiment's spec and the service graph. -/
inductive ImpactCall where
  | getExperimentSpec (ns name : String)
  | queryServiceGraph (namespaceFilter : List String)
  deriving Repr

@[reducible] def ImpactAnswer : ImpactCall → Type
  | .getExperimentSpec .. => Except OperatorError ChaosExperimentSpec
  | .queryServiceGraph .. => Except OperatorError ServiceGraph

abbrev ImpactHandler (Value : Type) : Type := Program ImpactCall ImpactAnswer OperatorError Value

def impactCall (request : ImpactCall) : ImpactHandler (ImpactAnswer request) :=
  Program.request request

/-- The namespace of an impact map. -/
def impactMapNamespace (impactMap : ChaosImpactMap) : String :=
  impactMap.metadata.ns.getD "default"

/-- The namespace and the name of the experiment an impact map refers to. -/
def referredExperiment (impactMap : ChaosImpactMap) : String × String :=
  (impactMap.experimentRef.ns.getD (impactMapNamespace impactMap), impactMap.experimentRef.name)

/-- Fetch the graph and classify. When there is no graph client, or a call fails, the services
stay unclassified. -/
def classifyAffected (impactMap : ChaosImpactMap) (graphClient : Bool)
    (affected : List AffectedService) : ImpactHandler (List AffectedService) := do
  if graphClient then
    match ← impactCall (.getExperimentSpec (referredExperiment impactMap).1
        (referredExperiment impactMap).2) with
    | .error _ => return affected
    | .ok spec =>
      match ← impactCall (.queryServiceGraph []) with
      | .error _ => return affected
      | .ok graph => return classifyServices affected spec graph (impactMapNamespace impactMap)
  else return affected

end ChimpChaos
