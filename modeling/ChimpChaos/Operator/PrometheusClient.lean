/-
This file models the HTTP client of Prometheus and the Kubernetes client of the impact map
reconciler, and runs this reconciler with them.

Every query is one request to the same address. What is read from its response depends on the
reader: the values by workload, or the service graph. A sample that is no number counts as zero.
-/

import ChimpChaos.Library.Interpret
import ChimpChaos.Operator.GraphBuilder
import ChimpChaos.Operator.ImpactReport
import Mathlib.Data.List.DropRight

namespace ChimpChaos

open Library

/-! ### The responses -/

/-- The decoded body of a response: its status and the series of its result. -/
structure PrometheusApiResponse where
  status : String
  result : List PrometheusMetric
  deriving DecidableEq, Repr

/-- A request of the HTTP client: an address and query parameters. -/
structure HttpGet where
  url : String
  query : List (String × String)
  deriving DecidableEq, Repr

/-- A request is answered with a response, or with the text of a failure to get or decode one. -/
abbrev HttpAnswer : Type := Except String PrometheusApiResponse

abbrev HttpRun (Value : Type) : Type :=
  Program HttpGet (fun _ => HttpAnswer) OperatorError Value

/-- The series of a successful response. -/
def responseSeries : HttpAnswer → Except OperatorError (List PrometheusMetric)
  | .error text => .error (.prometheus text)
  | .ok response =>
    if response.status = "success" then .ok response.result
    else .error (.prometheus ("prometheus returned status: " ++ response.status))

theorem responseSeries_ok (response : PrometheusApiResponse) :
    responseSeries (.ok response) = if response.status = "success" then .ok response.result
      else .error (.prometheus ("prometheus returned status: " ++ response.status)) := rfl

section Readers

variable (parseF64 : String → Option F64)

/-- The value of a sample. -/
def sampleValue (series : PrometheusMetric) : F64 :=
  let value := series.rps parseF64
  if value.isNan then .zero else value

/-- The workload a series is about. -/
def seriesWorkload (series : PrometheusMetric) : Option ServiceKey :=
  let workload := series.label "destination_workload"
  if workload.isEmpty then none
  else some { workload, ns := series.label "destination_workload_namespace" }

/-- Put the value of a series under its workload. -/
def insertSample (values : Store ServiceKey F64) (series : PrometheusMetric) :
    Store ServiceKey F64 :=
  match seriesWorkload series with
  | none => values
  | some workload => AList.insert workload (sampleValue parseF64 series) values

section Samples

variable {parseF64} {values : Store ServiceKey F64} {series : PrometheusMetric}

theorem insertSample_of_none (unnamed : seriesWorkload series = none) :
    insertSample parseF64 values series = values := by
  rw [insertSample, unnamed]

theorem insertSample_of_some {workload : ServiceKey}
    (named : seriesWorkload series = some workload) :
    insertSample parseF64 values series =
      AList.insert workload (sampleValue parseF64 series) values := by
  rw [insertSample, named]

end Samples

def valuesByWorkload (metrics : List PrometheusMetric) : Store ServiceKey F64 :=
  metrics.foldl (insertSample parseF64) ∅

end Readers

/-! ### The HTTP client -/

structure HttpPrometheusClient where
  baseUrl : String
  deriving DecidableEq, Repr

namespace HttpPrometheusClient

/-- The client of an address, without the slashes at its end. -/
def new (baseUrl : String) : HttpPrometheusClient where
  baseUrl := String.ofList (baseUrl.toList.rdropWhile fun char => char == '/')

variable (client : HttpPrometheusClient)

def instantQuery (parameters : List (String × String)) : HttpRun (List PrometheusMetric) := do
  let answer ← Program.request
    ({ url := client.baseUrl ++ "/api/v1/query", query := parameters } : HttpGet)
  Program.ofExcept (responseSeries answer)

def query (promql : String) : HttpRun (List PrometheusMetric) :=
  client.instantQuery [("query", promql)]

def queryVectorAt (parseF64 : String → Option F64) (promql time : String) :
    HttpRun (Store ServiceKey F64) := do
  let metrics ← client.instantQuery [("query", promql), ("time", time)]
  return valuesByWorkload parseF64 metrics

/-- The filter is ignored. -/
def queryServiceGraph (_namespaceFilter : List String) : HttpRun ServiceGraph := do
  let metrics ← client.query (buildEdgesQuery defaultGraphLookback)
  return buildServiceGraph metrics

end HttpPrometheusClient

/-! ### The reconcilers with their clients -/

/-- The requests of a reporting reconciler: to the Kubernetes API and to Prometheus. -/
inductive ReportRequest (Status : Type) where
  | getExperiment (ns name : String)
  | patchStatus (ns name : String) (status : Status)
  | http (request : HttpGet)
  deriving Repr

@[reducible] def ReportResponse {Status : Type} : ReportRequest Status → Type
  | .getExperiment .. => Except OperatorError ChaosExperiment
  | .patchStatus .. => Except OperatorError Unit
  | .http _ => HttpAnswer

abbrev ReportRun (Status Value : Type) : Type :=
  Program (ReportRequest Status) ReportResponse OperatorError Value

section Clients

variable {Status : Type} (client : HttpPrometheusClient) (parseF64 : String → Option F64)

/-- A query; its failure is handed on as its result. -/
def overHttp {Value : Type} (run : HttpRun Value) : ReportRun Status (Except OperatorError Value) :=
  (run.inject ReportRequest.http fun _ answer => answer).attempt

/-- An experiment, as far as it is asked for. -/
def getExperiment {Value : Type} (part : ChaosExperiment → Value) (ns name : String) :
    ReportRun Status (Except OperatorError Value) := do
  let answer ← Program.request (ReportRequest.getExperiment ns name)
  return answer.map part

/-- The status of an experiment, the default one when it has none. -/
def getExperimentStatus (ns name : String) :
    ReportRun Status (Except OperatorError ChaosExperimentStatus) :=
  getExperiment (fun experiment => experiment.status.getD default) ns name

def getExperimentSpec (ns name : String) :
    ReportRun Status (Except OperatorError ChaosExperimentSpec) :=
  getExperiment ChaosExperiment.spec ns name

def impactMapClients : (request : ImpactMapCall) →
    ReportRun ChaosImpactMapStatus (ImpactMapAnswer request)
  | .getExperimentStatus ns name => getExperimentStatus ns name
  | .queryVectorAt promql time => overHttp (client.queryVectorAt parseF64 promql time)
  | .classification (.getExperimentSpec ns name) => getExperimentSpec ns name
  | .classification (.queryServiceGraph filter) => overHttp (client.queryServiceGraph filter)
  | .patchImpactMapStatus ns name status =>
    Program.request (ReportRequest.patchStatus ns name status)

end Clients

end ChimpChaos
