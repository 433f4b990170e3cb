/-
This file models the graph builder: it reads the series of one Prometheus query, finds the
edge of an experiment among them, and builds the service graph from them.

The text of a sample is parsed by the standard library's parser of floating point numbers,
which is a parameter.
-/

import ChimpChaos.Library.Float64
import ChimpChaos.Operator.ImpactMap

namespace ChimpChaos

open Library

/-! ### Series -/

/-- A series of a query result: its labels and the text of its sample. -/
structure PrometheusMetric where
  metric : Labels
  value : String
  deriving DecidableEq, Repr

namespace PrometheusMetric

/-- The value of a label, empty when the series does not have it. -/
def label (series : PrometheusMetric) (key : String) : String :=
  (series.metric.lookup key).getD ""

/-- The rate of a series. A sample that is no number counts as zero. -/
def rps (parseF64 : String → Option F64) (series : PrometheusMetric) : F64 :=
  (parseF64 series.value).getD .zero

end PrometheusMetric

/-! ### The edge of an experiment -/

def defaultGraphLookback : String := "10m"
def defaultGraphMinRps : F64 := .finite (5 / 100)

structure GraphBuilderConfig where
  lookback : String := defaultGraphLookback
  minRps : F64 := defaultGraphMinRps
  deriving DecidableEq, Repr

def buildEdgesQuery (lookback : String) : String :=
  "sum by (source_workload, source_workload_namespace, destination_workload, " ++
    "destination_workload_namespace, destination_service_name) " ++
    "(rate(istio_requests_total[" ++ lookback ++ "]))"

section GraphBuilder

variable (parseF64 : String → Option F64) (config : GraphBuilderConfig)

def edgeInfoFromMetric (series : PrometheusMetric) : EdgeInfo where
  sourceWorkload := series.label "source_workload"
  sourceNamespace := series.label "source_workload_namespace"
  destinationWorkload := series.label "destination_workload"
  destinationNamespace := series.label "destination_workload_namespace"
  destinationService := series.label "destination_service_name"
  rps := series.rps parseF64
  sourceLabels := []

/-- The test by which an edge is found. -/
def isEdgeSeries (source destination ns : String) (series : PrometheusMetric) : Bool :=
  series.label "source_workload" == source &&
    series.label "destination_service_name" == destination &&
    series.label "source_workload_namespace" == ns

def findEdge (metrics : List PrometheusMetric) (source destination ns : String) :
    Except OperatorError EdgeInfo :=
  match metrics.find? (isEdgeSeries source destination ns) with
  | some series =>
    if config.minRps.atMost (series.rps parseF64) then .ok (edgeInfoFromMetric parseF64 series)
    else .error (.validation .edgeTrafficBelowThreshold)
  | none => .error (.validation (.edgeNotFound source destination))

/-- The resolver of the graph builder, from the answers to its Prometheus queries. -/
def resolveEdge (query : String → Except OperatorError (List PrometheusMetric))
    (source destination ns : String) : Except OperatorError EdgeInfo := do
  let metrics ← query (buildEdgesQuery config.lookback)
  findEdge parseF64 config metrics source destination ns

end GraphBuilder

/-! ### The service graph -/

/-- The workloads a series leads from and to. A series that names none of one of them leads
nowhere. -/
def seriesEdge (series : PrometheusMetric) : Option (ServiceKey × ServiceKey) :=
  let source := series.label "source_workload"
  let destination := series.label "destination_workload"
  if source.isEmpty || destination.isEmpty then none
  else some (
    { workload := source, ns := series.label "source_workload_namespace" },
    { workload := destination, ns := series.label "destination_workload_namespace" })

/-- Add one series to the graph. -/
def addSeries (graph : ServiceGraph) (series : PrometheusMetric) : ServiceGraph :=
  match seriesEdge series with
  | none => graph
  | some (source, destination) => {
      adjacency := AList.insert source
        ((graph.adjacency.lookup source).getD [] ++ [destination]) graph.adjacency
      serviceToWorkload :=
        let service := series.label "destination_service_name"
        if service.isEmpty then graph.serviceToWorkload
        else AList.insert (service, destination.ns) destination graph.serviceToWorkload }

def buildServiceGraph (metrics : List PrometheusMetric) : ServiceGraph :=
  metrics.foldl addSeries { adjacency := ∅, serviceToWorkload := ∅ }

end ChimpChaos
