/-
This file reads a VirtualService document the way the mesh does.

The HTTP routes are tried in order. A route without a match applies to every request. A match
applies to the callers whose labels contain every listed pair and, only if a source namespace
is given, who are in that namespace. A VirtualService without `exportTo` is visible to callers
in all namespaces. `deliver` is what becomes of a request under one document.
-/

import ChimpChaos.Operator.IstioInjector

namespace ChimpChaos

open Library

/-- The pod a request comes from. -/
structure Caller where
  ns : String
  labels : Labels
  deriving DecidableEq, Repr

/-- The labels contain every listed pair. -/
def containsLabels (labels pairs : Labels) : Bool :=
  pairs.all fun pair => labels.lookup pair.1 == some pair.2

/-- The string fields of a value. -/
def readLabels (value : Json) : Labels :=
  value.fields.filterMap fun field => field.2.asStr?.map fun text => (field.1, text)

/-- Does a match hold of a caller? -/
def matchHolds (caller : Caller) (condition : Json) : Bool :=
  ((condition.get? "sourceLabels").all fun labels =>
      containsLabels caller.labels (readLabels labels)) &&
    (condition.get? "sourceNamespace").all fun ns => ns.asStr? == some caller.ns

def routeApplies (caller : Caller) (route : Json) : Bool :=
  match (route.get? "match").bind Json.asArray? with
  | none => true
  | some conditions => conditions.any (matchHolds caller)

def httpRoutes (document : Json) : List Json :=
  ((jsonAt document ["spec", "http"]).bind Json.asArray?).getD []

/-- The hosts a route sends requests to. -/
def routeHosts (route : Json) : List String :=
  (((route.get? "route").bind Json.asArray?).getD []).filterMap fun destination =>
    (jsonAt destination ["destination", "host"]).bind Json.asStr?

/-- Is a document of a namespace visible to callers in another? -/
def isVisible (document : Json) (documentNs callerNs : String) : Bool :=
  match (jsonAt document ["spec", "exportTo"]).bind Json.asArray? with
  | none => true
  | some scopes => scopes.any fun scope =>
    scope.asStr? == some "*" || scope.asStr? == some callerNs ||
      (scope.asStr? == some "." && documentNs == callerNs)

/-- What becomes of a request: the fault it meets and the hosts it is sent to. -/
structure Delivery where
  fault : Option Json
  hosts : List String
  deriving Repr

/-- What becomes of a request to a host under a document. The first route that applies decides;
a request that the document does not govern is sent to its host. -/
def deliver (document : Json) (documentNs : String) (caller : Caller) (host : String) :
    Option Delivery :=
  if isVisible document documentNs caller.ns && (documentHosts document).contains host then
    ((httpRoutes document).find? (routeApplies caller)).map fun route =>
      { fault := route.get? "fault", hosts := routeHosts route }
  else some { fault := none, hosts := [host] }

theorem readLabels_labelsJson (labels : Labels) : readLabels (labelsJson labels) = labels := by
  rw [readLabels, labelsJson, Json.fields, List.filterMap_map]
  exact List.filterMap_some

/-! ### The routes of a built document -/

section BuiltRoutes

variable (spec : VirtualServiceSpec) (caller : Caller)

/-- Where both routes of a built document lead. -/
def builtDestination : Json :=
  .array [.object [("destination", .object [("host", .string spec.destinationFqdn)])]]

/-- The route for the callers with the source labels. -/
def faultRoute : Json :=
  .object [
    ("fault", spec.fault),
    ("match", .array [.object [("sourceLabels", labelsJson spec.sourceLabels)]]),
    ("route", builtDestination spec)]

/-- The route for everybody else. -/
def plainRoute : Json := .object [("route", builtDestination spec)]

theorem httpRoutes_build :
    httpRoutes (buildVirtualServiceJson spec) = [faultRoute spec, plainRoute spec] := rfl

theorem isVisible_build (documentNs : String) :
    isVisible (buildVirtualServiceJson spec) documentNs caller.ns = true := rfl

theorem routeApplies_faultRoute :
    routeApplies caller (faultRoute spec) = containsLabels caller.labels spec.sourceLabels := by
  have conditions : routeApplies caller (faultRoute spec) =
      (containsLabels caller.labels (readLabels (labelsJson spec.sourceLabels)) && true ||
        false) := rfl
  rw [conditions, readLabels_labelsJson, Bool.and_true, Bool.or_false]

theorem routeApplies_plainRoute : routeApplies caller (plainRoute spec) = true := rfl

@[simp] theorem routeHosts_faultRoute : routeHosts (faultRoute spec) = [spec.destinationFqdn] :=
  rfl

@[simp] theorem routeHosts_plainRoute : routeHosts (plainRoute spec) = [spec.destinationFqdn] :=
  rfl

@[simp] theorem fault_faultRoute : (faultRoute spec).get? "fault" = some spec.fault := rfl

@[simp] theorem fault_plainRoute : (plainRoute spec).get? "fault" = none := rfl

/-- What becomes of a request to the destination under a built document: the labels of the
caller alone decide about the fault. -/
theorem deliver_build (documentNs : String) :
    deliver (buildVirtualServiceJson spec) documentNs caller spec.destinationFqdn =
      some {
        fault := if containsLabels caller.labels spec.sourceLabels then some spec.fault else none
        hosts := [spec.destinationFqdn] } := by
  rw [deliver, isVisible_build, documentHosts_build, httpRoutes_build]
  cases selected : containsLabels caller.labels spec.sourceLabels with
  | true => simp [routeApplies_faultRoute, selected]
  | false => simp [routeApplies_faultRoute, routeApplies_plainRoute, selected]

end BuiltRoutes

end ChimpChaos
