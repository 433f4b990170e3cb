/-
This file models the operator's enumerations, errors and constants, with the texts their
display prints.
-/

import ChimpChaos.Library.Float64
import Mathlib.Data.List.Basic

namespace ChimpChaos

open Library

/-! ### Enumerations -/

inductive ScenarioType where
  | podKiller
  | cpuStress
  | networkDelay
  | edgeDelay
  | edgeAbort
  deriving DecidableEq, Repr

namespace ScenarioType

def isEdgeChaos : ScenarioType → Bool
  | .edgeDelay | .edgeAbort => true
  | _ => false

def requiresPrivileged : ScenarioType → Bool
  | .cpuStress | .networkDelay => true
  | _ => false

def toString : ScenarioType → String
  | .podKiller => "PodKiller"
  | .cpuStress => "CpuStress"
  | .networkDelay => "NetworkDelay"
  | .edgeDelay => "EdgeDelay"
  | .edgeAbort => "EdgeAbort"

end ScenarioType

/-- The phase of an experiment. -/
inductive Phase where
  | pending
  | running
  | succeeded
  | failed
  deriving DecidableEq, Repr, Inhabited

namespace Phase

def isTerminal : Phase → Bool
  | .succeeded | .failed => true
  | _ => false

def toString : Phase → String
  | .pending => "Pending"
  | .running => "Running"
  | .succeeded => "Succeeded"
  | .failed => "Failed"

/-- The phase a serialized name stands for. -/
def ofString? : String → Option Phase
  | "Pending" => some .pending
  | "Running" => some .running
  | "Succeeded" => some .succeeded
  | "Failed" => some .failed
  | _ => none

@[simp] theorem ofString?_toString (phase : Phase) : ofString? phase.toString = some phase := by
  cases phase <;> rfl

end Phase

/-- The sign of a degradation: a metric gets worse when it goes up, or when it goes down. -/
inductive DegradationDirection where
  | up
  | down
  deriving DecidableEq, Repr

inductive AnalysisVerdict where
  | pass
  | fail
  deriving DecidableEq, Repr

namespace AnalysisVerdict

def toString : AnalysisVerdict → String
  | .pass => "Pass"
  | .fail => "Fail"

def ofString? : String → Option AnalysisVerdict
  | "Pass" => some .pass
  | "Fail" => some .fail
  | _ => none

@[simp] theorem ofString?_toString (verdict : AnalysisVerdict) :
    ofString? verdict.toString = some verdict := by
  cases verdict <;> rfl

end AnalysisVerdict

/-- The phase of an analysis or an impact map. -/
inductive AnalysisPhase where
  | pending
  | completed
  | failed
  deriving DecidableEq, Repr, Inhabited

namespace AnalysisPhase

def toString : AnalysisPhase → String
  | .pending => "Pending"
  | .completed => "Completed"
  | .failed => "Failed"

def ofString? : String → Option AnalysisPhase
  | "Pending" => some .pending
  | "Completed" => some .completed
  | "Failed" => some .failed
  | _ => none

@[simp] theorem ofString?_toString (phase : AnalysisPhase) :
    ofString? phase.toString = some phase := by
  cases phase <;> rfl

end AnalysisPhase

/-! ### Edge targets -/

structure EdgeTarget where
  sourceService : String
  destinationService : String
  deriving DecidableEq, Repr

structure Target where
  ns : Option String
  edge : Option EdgeTarget
  deriving DecidableEq, Repr

/-- A string map, as its list of entries in key order. -/
abbrev Labels : Type := List (String × String)

/-- An observed edge. -/
structure EdgeInfo where
  sourceWorkload : String
  sourceNamespace : String
  destinationWorkload : String
  destinationNamespace : String
  destinationService : String
  rps : F64
  sourceLabels : Labels
  deriving DecidableEq, Repr

/-! ### Errors -/

inductive ValidationError where
  | invalidDuration
  | unknownScenario
  | noTargetNodes
  | missingEdgeTarget
  | sourceServiceNotFound (service : String)
  | conflictingVirtualService (host : String)
  | edgeNotFound (source destination : String)
  | edgeTrafficBelowThreshold
  deriving DecidableEq, Repr

def ValidationError.toString : ValidationError → String
  | .invalidDuration => "duration must be greater than 0"
  | .unknownScenario => "unknown scenario"
  | .noTargetNodes => "no target nodes found"
  | .missingEdgeTarget => "edge target requires sourceService and destinationService"
  | .sourceServiceNotFound service =>
    "cannot resolve workload labels for source service: " ++ service
  | .conflictingVirtualService host => "conflicting VirtualService exists for host: " ++ host
  | .edgeNotFound source destination =>
    "target edge not found: " ++ source ++ " → " ++ destination
  | .edgeTrafficBelowThreshold => "edge traffic below threshold"

/-- An error of the Kubernetes client: a response of the API server with its status code, or
a failure to get one. The text is what the client's own display prints. -/
inductive KubeError where
  | api (code : UInt16) (text : String)
  | other (text : String)
  deriving DecidableEq, Repr

def KubeError.toString : KubeError → String
  | .api _ text => text
  | .other text => text

inductive OperatorError where
  | validation (error : ValidationError)
  | kube (error : KubeError)
  | prometheus (message : String)
  | serialization (text : String)
  | analysis (message : String)
  deriving DecidableEq, Repr

def OperatorError.toString : OperatorError → String
  | .validation error => "validation error: " ++ error.toString
  | .kube error => "kubernetes API error: " ++ error.toString
  | .prometheus message => "prometheus query error: " ++ message
  | .serialization text => "serialization error: " ++ text
  | .analysis message => "analysis error: " ++ message

inductive RunnerError where
  | executionFailed (message : String)
  | invalidConfig (message : String)
  | kube (error : KubeError)
  | command (text : String)
  deriving DecidableEq, Repr

def isNotFound : OperatorError → Bool
  | .kube (.api code _) => code == 404
  | _ => false

def isAlreadyExists : OperatorError → Bool
  | .kube (.api code _) => code == 409
  | _ => false

/-! ### Constants -/

def finalizerName : String := "chaos.io/cleanup"
def managedByLabel : String := "chaos.io/managed-by"
def managedByValue : String := "chimp-chaos"
def experimentLabel : String := "chaos.io/experiment"
def scenarioLabel : String := "chaos.io/scenario"

def requeueRunningSecs : Nat := 5
def requeueTerminalSecs : Nat := 300

def jobBackoffLimit : Int := 0
def jobTtlAfterFinished : Int := 300

def defaultRunnerImage : String := "chimp-chaos:latest"
def defaultMetricsPort : Int := 9090

end ChimpChaos
