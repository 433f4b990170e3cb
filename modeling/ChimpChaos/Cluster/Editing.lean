/-
This file runs the operator in a cluster in which others edit the experiments.

Other controllers put their own finalizers on an experiment and take them off again, at any
time. An object that is being deleted goes away when nothing holds it any more, whoever took
the last finalizer off. And users replace the spec of an experiment, also in the middle of a
pass; the passes are then one after the other, and every call is answered from the cluster.
-/

import ChimpChaos.Cluster.Overlap

namespace ChimpChaos

open Library Relation

/-! ### Other controllers -/

/-- Another controller writes the list of finalizers of an experiment. -/
def writeFinalizers (experiments : Store ObjectKey ExperimentObject) (key : ObjectKey)
    (finalizers : List String) : Store ObjectKey ExperimentObject :=
  match experiments.lookup key with
  | none => experiments
  | some object =>
    if object.deletionTimestamp.isSome && finalizers.isEmpty then AList.erase key experiments
    else AList.insert key (object.setFinalizers finalizers) experiments

/-- A step of somebody else in a cluster with other controllers. -/
inductive FinalizersEdited : Cluster → Cluster → Prop
  | outside {before after : Cluster} (step : Outside before after) : FinalizersEdited before after
  | written (cluster : Cluster) (key : ObjectKey) (finalizers : List String) :
      FinalizersEdited cluster
        { cluster with experiments := writeFinalizers cluster.experiments key finalizers }

/-- Passes that overlap and work on any stored version, among other controllers. -/
def sharing (deployment : Deployment) (service : Service) :
    Rules Watched ChaosExperiment ApiCall Answer OperatorError ReconcileResult :=
  { overlapping deployment service with
    outside := fun before after => ∃ cluster,
      FinalizersEdited before.cluster cluster ∧ after = before.observe cluster }

/-! ### Users who edit the spec -/

/-- A step of somebody else where users replace specs and leave the VirtualServices alone. -/
inductive SpecEdited : Cluster → Cluster → Prop
  | outside {before after : Cluster} (step : Outside before after)
      (untouched : after.virtualServices = before.virtualServices) : SpecEdited before after
  | replaced (cluster : Cluster) (key : ObjectKey) (spec : ChaosExperimentSpec) :
      SpecEdited cluster
        { cluster with
          experiments := cluster.experiments.update key fun object => { object with spec } }

/-- The API server when every call succeeds as far as the cluster lets it. -/
def answering : Service := fun experiment request before answer after =>
  ∃ surroundings, answer = reply surroundings before request ∧
    after = effect surroundings (actorOf experiment) before request

/-- A service in a cluster in which specs are edited before each call. -/
def WhileEdited (service : Service) : Service := fun experiment request before answer after =>
  ∃ middle, ReflTransGen SpecEdited before middle ∧
    service experiment request middle answer after

/-- A pass that has been made. -/
structure OperatorPass where
  before : Cluster
  experiment : ChaosExperiment
  history : History
  after : Cluster

/-- A run of one experiment whose spec is edited, with the passes it has made and the states it
has visited, the newest first. -/
inductive EditedRun (deployment : Deployment) (key : ObjectKey) (initial : Cluster) :
    List OperatorPass → List Cluster → Cluster → Prop
  | start : EditedRun deployment key initial [] [initial] initial
  | edit {made : List OperatorPass} {visited : List Cluster} {before after : Cluster}
      (run : EditedRun deployment key initial made visited before)
      (step : SpecEdited before after) :
      EditedRun deployment key initial made (after :: visited) after
  | pass {made : List OperatorPass} {visited : List Cluster} {before after : Cluster}
      {experiment : ChaosExperiment} {history : History}
      (run : EditedRun deployment key initial made visited before)
      (pass : Pass deployment (WhileEdited answering) key before experiment history after) :
      EditedRun deployment key initial (⟨before, experiment, history, after⟩ :: made)
        (after :: visited) after

end ChimpChaos
