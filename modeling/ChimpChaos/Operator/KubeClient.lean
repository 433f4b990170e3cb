/-
This file models the Kubernetes client of the experiment controller, and the controller's context:
which request each call of a pass is, and what the client makes of the answer.

An experiment is a document, which the client reads after every write of it. Of a Pod the client
looks at the node, and of a Service at the selector. An edge is resolved by one query to
Prometheus. The clock and the source of identifiers are read as they are.
-/

import ChimpChaos.Cluster.StatusDocument
import ChimpChaos.Library.Lowering
import ChimpChaos.Operator.PrometheusClient
import ChimpChaos.Operator.Schemas
import ChimpChaos.Proof.Finalizers
import Mathlib.Data.List.Destutter
import Mathlib.Data.List.Sort

namespace ChimpChaos

open Library

/-! ### The objects of the client -/

/-- A Pod as the operator lists it. -/
structure ListedPod where
  spec : Option PodSpec
  deriving DecidableEq, Repr

def ListedPod.nodeName (pod : ListedPod) : Option String := pod.spec.bind PodSpec.nodeName

structure ServiceSpec where
  selector : Option Labels
  deriving DecidableEq, Repr

/-- A Service as the operator gets it. -/
structure StoredService where
  spec : Option ServiceSpec
  deriving DecidableEq, Repr

def textsCodec : Codec (List String) where
  write texts := .array (texts.map Json.string)
  read json := json.asArray?.bind fun items => items.mapM Json.asStr?
  writable _ := True
  read_write _ _ := RecordField.mapM_read_write ValueCodec.string.toCodec fun _ _ => trivial

/-- The metadata of an object, as far as the operator reads them. -/
def ObjectMeta.parse (json : Json) : Option ObjectMeta := do
  let name ← RecordField.readOptional ValueCodec.string.toCodec (json.get? "name")
  let ns ← RecordField.readOptional ValueCodec.string.toCodec (json.get? "namespace")
  let uid ← RecordField.readOptional ValueCodec.string.toCodec (json.get? "uid")
  let finalizers ← RecordField.readOptional textsCodec (json.get? "finalizers")
  let deletionTimestamp ←
    RecordField.readOptional ValueCodec.string.toCodec (json.get? "deletionTimestamp")
  return { name, ns, uid, finalizers, deletionTimestamp }

/-- The experiment that is read from a document. -/
def ChaosExperiment.parse (document : Json) : Option ChaosExperiment := do
  let metadata ← ObjectMeta.parse ((document.get? "metadata").getD .null)
  let spec ← (document.get? "spec").bind ChaosExperimentSpec.parse
  let status ← readStatus ChaosExperimentStatus.parse ((document.get? "status").getD .null)
  return { metadata, spec, status }

/-! ### The requests -/

/-- The requests of the client to the API server and of the edge resolver to Prometheus, and the
readings of the clock and of the source of identifiers. -/
inductive KubeRequest where
  | createJob (ns : String) (job : Job)
  | listJobs (ns labelSelector : String)
  | deleteJob (ns name : String)
  | listPods (ns : String)
  | getService (ns name : String)
  | createVirtualService (ns : String) (document : Json)
  | listVirtualServices (ns : String)
  | deleteVirtualService (ns name : String)
  /-- A merge patch of the status of an experiment. -/
  | patchStatus (ns name : String) (patch : Json)
  /-- A merge patch of an experiment without its status. -/
  | patch (ns name : String) (patch : Json)
  | http (request : HttpGet)
  | now
  | newExperimentId
  deriving Repr

/-- The answers. A listed VirtualService comes with its name. -/
@[reducible] def KubeAnswer : KubeRequest → Type
  | .createJob .. => Except KubeError Unit
  | .listJobs .. => Except KubeError (List Job)
  | .deleteJob .. => Except KubeError Unit
  | .listPods .. => Except KubeError (List ListedPod)
  | .getService .. => Except KubeError StoredService
  | .createVirtualService .. => Except KubeError Unit
  | .listVirtualServices .. => Except KubeError (List (String × Json))
  | .deleteVirtualService .. => Except KubeError Unit
  | .patchStatus .. => Except KubeError ChaosExperiment
  | .patch .. => Except KubeError ChaosExperiment
  | .http _ => HttpAnswer
  | .now => Int
  | .newExperimentId => String

/-! ### What the client makes of an answer -/

/-- The nodes of the Pods, in order and without repetitions. -/
def targetNodes (pods : List ListedPod) : List String :=
  ((pods.filterMap ListedPod.nodeName).insertionSort (· ≤ ·)).destutter (· ≠ ·)

/-- The selector of a Service, empty when it has none. -/
def serviceSelector (service : StoredService) : Labels :=
  (service.spec.bind ServiceSpec.selector).getD []

theorem targetNodes_eq_dedup (pods : List ListedPod) :
    targetNodes pods = ((pods.filterMap ListedPod.nodeName).insertionSort (· ≤ ·)).dedup :=
  (List.pairwise_insertionSort (· ≤ ·) _).destutter_eq_dedup

/-- The nodes are those on which there is a Pod. -/
theorem mem_targetNodes {pods : List ListedPod} {node : String} :
    node ∈ targetNodes pods ↔ ∃ pod ∈ pods, pod.nodeName = some node := by
  rw [targetNodes_eq_dedup, List.mem_dedup, List.mem_insertionSort, List.mem_filterMap]

theorem nodup_targetNodes (pods : List ListedPod) : (targetNodes pods).Nodup := by
  rw [targetNodes_eq_dedup]
  exact List.nodup_dedup _

/-! ### The context of the experiment controller -/

structure OperatorContext where
  promClient : HttpPrometheusClient
  graph : GraphBuilderConfig
  config : ReconcilerConfig
  deriving DecidableEq, Repr

namespace OperatorContext

/-- The context the operator is started with. The image of the runner may come from the
environment. -/
def start (prometheusUrl : String) (runnerImage : Option String) : OperatorContext where
  promClient := .new prometheusUrl
  graph := {}
  config := { jobBuilder :=
    { runnerImage := runnerImage.getD defaultRunnerImage } }

variable (context : OperatorContext)

/-- The reconciler always has an edge resolver. -/
def deployment (crates : Crates) : Deployment where
  crates
  edgeResolver := true
  config := context.config

/-- The request of the edge resolver. -/
def queryEdges : HttpGet where
  url := context.promClient.baseUrl ++ "/api/v1/query"
  query := [("query", buildEdgesQuery context.graph.lookback)]

example : context.promClient.query (buildEdgesQuery context.graph.lookback) =
    .call context.queryEdges fun answer => Program.ofExcept (responseSeries answer) := rfl

/-- The request that a call is. The client lists the VirtualServices of all hosts. -/
def put : ApiCall → KubeRequest
  | .createJob ns job => .createJob ns job
  | .listJobs ns labelSelector => .listJobs ns labelSelector
  | .deleteJob ns name => .deleteJob ns name
  | .listTargetNodes ns => .listPods ns
  | .getServiceSelector ns name => .getService ns name
  | .createVirtualService ns vsJson => .createVirtualService ns vsJson
  | .listVirtualServicesForHost ns _ => .listVirtualServices ns
  | .deleteVirtualService ns name => .deleteVirtualService ns name
  | .patchExperimentStatus ns name status =>
    .patchStatus ns name (.object [("status", status.toJson)])
  | .addFinalizer ns name => .patch ns name (finalizersPatch [finalizerName])
  | .removeFinalizer ns name => .patch ns name (finalizersPatch [])
  | .resolveEdge .. => .http context.queryEdges
  | .now => .now
  | .newExperimentId => .newExperimentId

/-- What the answer means to the reconciler. Of a patched experiment only its being read
matters. -/
def answerOf (parseF64 : String → Option F64) :
    (request : ApiCall) → KubeAnswer (context.put request) → Answer request
  | .createJob .., answer => answer.mapError .kube
  | .listJobs .., answer => answer.mapError .kube
  | .deleteJob .., answer => answer.mapError .kube
  | .listTargetNodes _, answer => (answer.map targetNodes).mapError .kube
  | .getServiceSelector .., answer => (answer.map serviceSelector).mapError .kube
  | .createVirtualService .., answer => answer.mapError .kube
  | .listVirtualServicesForHost .., answer =>
    (answer.map fun items => items.map fun item => virtualServiceInfo item.1 item.2).mapError .kube
  | .deleteVirtualService .., answer => answer.mapError .kube
  | .patchExperimentStatus .., answer => (answer.map fun _ => ()).mapError .kube
  | .addFinalizer .., answer => (answer.map fun _ => ()).mapError .kube
  | .removeFinalizer .., answer => (answer.map fun _ => ()).mapError .kube
  | .resolveEdge source destination ns, answer =>
    resolveEdge parseF64 context.graph (fun _ => responseSeries answer) source destination ns
  | .now, answer => answer
  | .newExperimentId, answer => answer

/-- The clients of the experiment controller. -/
def clients (parseF64 : String → Option F64) : Lowering Answer KubeAnswer where
  put := context.put
  answerOf := context.answerOf parseF64

end OperatorContext

end ChimpChaos
