/-
This file models the builder of the Istio fault policy: the VirtualService document of an
edge experiment, and the marks by which the operator knows its own.
-/

import ChimpChaos.Library.Slice
import ChimpChaos.Operator.Crd

namespace ChimpChaos

open Library

def fqdn (service ns : String) : String := service ++ "." ++ ns ++ ".svc.cluster.local"

/-- The name of the VirtualService of an experiment id. -/
def virtualServiceName (experimentId : String) : Option String := do
  let prefixLen := min 8 (byteLength experimentId)
  let idPrefix ← sliceTo experimentId prefixLen
  return "chaos-edge-" ++ idPrefix

structure VirtualServiceSpec where
  name : String
  ns : String
  experimentName : String
  experimentUid : String
  destinationFqdn : String
  sourceLabels : Labels
  fault : Json
  deriving Repr

/-- A number of an unsigned type as JSON. -/
def unsignedJson (value : UInt64) : Json := .number (.posInt value)

def labelsJson (labels : Labels) : Json :=
  .object (labels.map fun label => (label.1, .string label.2))

def buildEdgeDelayFault (latencyMs : UInt64) : Json :=
  .object [("delay", .object [
    ("fixedDelay", .string (toString latencyMs ++ "ms")),
    ("percentage", .object [("value", unsignedJson 100)])])]

def buildEdgeAbortFault (percent : UInt32) (httpStatus : UInt16) : Json :=
  .object [("abort", .object [
    ("httpStatus", unsignedJson httpStatus.toUInt64),
    ("percentage", .object [("value", unsignedJson percent.toUInt64)])])]

def buildFaultForScenario (scenario : ScenarioType) (parameters : Json) : Option Json :=
  match scenario with
  | .edgeDelay => do
    let ms ← (← parameters.get? "latencyMs").asU64?
    return buildEdgeDelayFault ms
  | .edgeAbort => do
    let percent := (← (← parameters.get? "abortPercent").asU64?).toUInt32
    let status := (((parameters.get? "abortHttpStatus").bind Json.asU64?).getD 503).toUInt16
    return buildEdgeAbortFault percent status
  | _ => none

def buildVirtualServiceJson (spec : VirtualServiceSpec) : Json :=
  let labels : Labels :=
    [(experimentLabel, spec.experimentName), (managedByLabel, managedByValue)]
  let route : Json :=
    .array [.object [("destination", .object [("host", .string spec.destinationFqdn)])]]
  .object [
    ("apiVersion", .string "networking.istio.io/v1beta1"),
    ("kind", .string "VirtualService"),
    ("metadata", .object [
      ("labels", labelsJson labels),
      ("name", .string spec.name),
      ("namespace", .string spec.ns),
      ("ownerReferences", .array [.object [
        ("apiVersion", .string "chaos.io/v1"),
        ("blockOwnerDeletion", .bool true),
        ("controller", .bool true),
        ("kind", .string "ChaosExperiment"),
        ("name", .string spec.experimentName),
        ("uid", .string spec.experimentUid)]])]),
    ("spec", .object [
      ("hosts", .array [.string spec.destinationFqdn]),
      ("http", .array [
        .object [
          ("fault", spec.fault),
          ("match", .array [.object [("sourceLabels", labelsJson spec.sourceLabels)]]),
          ("route", route)],
        .object [("route", route)]])])]

def isChaosManaged (vsLabels : Labels) : Bool :=
  vsLabels.lookup managedByLabel == some managedByValue

/-! ### Reading a VirtualService document -/

/-- The value at a path of keys. -/
def jsonAt (document : Json) (path : List String) : Option Json :=
  path.foldl (fun value key => value.bind fun json => json.get? key) (some document)

/-- The name in the metadata of a document. -/
def documentName (document : Json) : Option String :=
  (jsonAt document ["metadata", "name"]).bind Json.asStr?

/-- The labels in the metadata of a document. -/
def documentLabels (document : Json) : Labels :=
  ((jsonAt document ["metadata", "labels"]).getD .null).fields.filterMap fun field =>
    field.2.asStr?.map fun text => (field.1, text)

/-- The hosts of a VirtualService document. -/
def documentHosts (document : Json) : List String :=
  (((jsonAt document ["spec", "hosts"]).bind Json.asArray?).getD []).filterMap Json.asStr?

/-- The uids of the owners of a document. -/
def documentOwners (document : Json) : List String :=
  (((jsonAt document ["metadata", "ownerReferences"]).bind Json.asArray?).getD []).filterMap
    fun owner => (owner.get? "uid").bind Json.asStr?

/-- The owner references of a document, each as the name and the uid of the owner. -/
def documentOwnerReferences (document : Json) : List (String × String) :=
  (((jsonAt document ["metadata", "ownerReferences"]).bind Json.asArray?).getD []).filterMap
    fun owner => do
      let name ← (owner.get? "name").bind Json.asStr?
      let uid ← (owner.get? "uid").bind Json.asStr?
      return (name, uid)

/-- What a listing tells of a document. -/
def virtualServiceInfo (name : String) (document : Json) : VirtualServiceInfo where
  name := name
  labels := documentLabels document

section BuiltDocument

variable (spec : VirtualServiceSpec)

@[simp] theorem documentName_build :
    documentName (buildVirtualServiceJson spec) = some spec.name := rfl

@[simp] theorem documentLabels_build : documentLabels (buildVirtualServiceJson spec) =
    [(experimentLabel, spec.experimentName), (managedByLabel, managedByValue)] := rfl

@[simp] theorem documentHosts_build :
    documentHosts (buildVirtualServiceJson spec) = [spec.destinationFqdn] := rfl

@[simp] theorem documentOwners_build :
    documentOwners (buildVirtualServiceJson spec) = [spec.experimentUid] := rfl

@[simp] theorem documentOwnerReferences_build :
    documentOwnerReferences (buildVirtualServiceJson spec) =
      [(spec.experimentName, spec.experimentUid)] := rfl

/-- A built document carries the operator's mark. -/
theorem isChaosManaged_build : isChaosManaged (documentLabels (buildVirtualServiceJson spec)) :=
  rfl

end BuiltDocument

end ChimpChaos
