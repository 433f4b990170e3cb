/-
This file models the experiment reconciler: one pass over one snapshot of an experiment, as
a program of calls to the API server, the edge resolver and the clock.

A pass is `reconcile`. It dispatches on the snapshot alone -- the finalizer, the deletion
mark, the phase -- to one handler, and each handler ends with at most one status write.
Every call may be answered by anything; what the answers can be is said elsewhere, by the
API server's model.
-/

import ChimpChaos.Library.Program
import ChimpChaos.Operator.IstioInjector
import ChimpChaos.Operator.JobBuilder

namespace ChimpChaos

open Library

/-- The functions of third-party crates that the operator calls: rendering and parsing
RFC 3339 times (instants are nanoseconds since the epoch) and printing JSON. -/
structure Crates where
  toRfc3339 : Int → String
  parseFromRfc3339 : String → Option Int
  printJson : Json → String

structure ReconcilerConfig where
  jobBuilder : JobBuilderConfig := {}
  deriving DecidableEq, Repr

/-- The result of a pass: come back after some seconds, or wait for a change. -/
inductive ReconcileResult where
  | requeue (secs : Nat)
  | done
  deriving DecidableEq, Repr

/-! ### The calls of a pass -/

/-- The calls a pass makes: the Kubernetes client, the edge resolver, the clock, and the
random identifier of an experiment without a uid. -/
inductive ApiCall where
  | createJob (ns : String) (job : Job)
  | listJobs (ns labelSelector : String)
  | deleteJob (ns name : String)
  | listTargetNodes (ns : String)
  | getServiceSelector (ns name : String)
  | createVirtualService (ns : String) (vsJson : Json)
  | listVirtualServicesForHost (ns host : String)
  | deleteVirtualService (ns name : String)
  | patchExperimentStatus (ns name : String) (status : ChaosExperimentStatus)
  | addFinalizer (ns name : String)
  | removeFinalizer (ns name : String)
  | resolveEdge (source destination ns : String)
  | now
  | newExperimentId
  deriving Repr

/-- The type of the answer to a call. -/
@[reducible] def Answer : ApiCall → Type
  | .createJob .. => Except OperatorError Unit
  | .listJobs .. => Except OperatorError (List Job)
  | .deleteJob .. => Except OperatorError Unit
  | .listTargetNodes .. => Except OperatorError (List String)
  | .getServiceSelector .. => Except OperatorError Labels
  | .createVirtualService .. => Except OperatorError Unit
  | .listVirtualServicesForHost .. => Except OperatorError (List VirtualServiceInfo)
  | .deleteVirtualService .. => Except OperatorError Unit
  | .patchExperimentStatus .. => Except OperatorError Unit
  | .addFinalizer .. => Except OperatorError Unit
  | .removeFinalizer .. => Except OperatorError Unit
  | .resolveEdge .. => Except OperatorError EdgeInfo
  | .now => Int
  | .newExperimentId => String

/-- A handler: a program of calls that may fail with an operator error. -/
abbrev Handler (Value : Type) : Type := Program ApiCall Answer OperatorError Value

/-- The calls made so far in a pass, the newest first. -/
abbrev History : Type := List (Exchange ApiCall Answer)

def call (request : ApiCall) : Handler (Answer request) := Program.request request

@[simp] theorem call_then {Value : Type} (request : ApiCall)
    (continuation : Answer request → Handler Value) :
    (call request >>= continuation) = .call request continuation := rfl

/-- Pass over the errors a handler expects and fail with the others. -/
def tolerate (expected : OperatorError → Bool) : Except OperatorError Unit → Handler Unit
  | .ok _ => .done ()
  | .error error => if expected error then .done () else .fail error

/-! ### Pure helper functions -/

def needsFinalizer (experiment : ChaosExperiment) : Bool :=
  match experiment.metadata.finalizers with
  | some finalizers => !finalizers.contains finalizerName
  | none => true

theorem needsFinalizer_eq_false_iff {experiment : ChaosExperiment} :
    needsFinalizer experiment = false ↔
      finalizerName ∈ experiment.metadata.finalizers.getD [] := by
  unfold needsFinalizer
  cases experiment.metadata.finalizers with
  | none => simp
  | some finalizers => simp

def isBeingDeleted (experiment : ChaosExperiment) : Bool :=
  experiment.metadata.deletionTimestamp.isSome

def targetNamespace (experiment : ChaosExperiment) : String :=
  experiment.spec.targetNamespace.getD (experiment.metadata.ns.getD "default")

def requeueDuration (phase : Phase) : Nat :=
  if phase.isTerminal then requeueTerminalSecs else requeueRunningSecs

/-- The whole seconds of a time difference in nanoseconds, rounded toward zero. -/
def numSeconds (nanoseconds : Int) : Int := nanoseconds.tdiv 1000000000

def validateExperiment (spec : ChaosExperimentSpec) : Except ValidationError Unit :=
  if spec.duration = 0 then .error .invalidDuration
  else if spec.scenario.isEdgeChaos then
    match spec.target.bind Target.edge with
    | none => .error .missingEdgeTarget
    | some edge =>
      if edge.sourceService.isEmpty || edge.destinationService.isEmpty then
        .error .missingEdgeTarget
      else .ok ()
  else .ok ()

def allJobsSucceeded (jobs : List Job) : Bool :=
  !jobs.isEmpty && jobs.all fun job => decide ((job.status.bind JobStatus.succeeded).getD 0 > 0)

def anyJobFailed (jobs : List Job) : Bool :=
  jobs.any fun job => decide ((job.status.bind JobStatus.failed).getD 0 > 0)

def expName (experiment : ChaosExperiment) : String :=
  experiment.metadata.name.getD "unknown"

def expNamespace (experiment : ChaosExperiment) : String :=
  experiment.metadata.ns.getD "default"

/-- The status of a snapshot, the default one when there is none. -/
def statusOf (experiment : ChaosExperiment) : ChaosExperimentStatus :=
  experiment.status.getD default

section Reconciler

variable (crates : Crates) (edgeResolver : Bool) (config : ReconcilerConfig)

def isDurationElapsed (startedAt : String) (durationSecs : UInt64) : Handler Bool := do
  match crates.parseFromRfc3339 startedAt with
  | none => return false
  | some start =>
    let now ← call .now
    -- the duration is compared as a signed 64-bit integer
    return decide (numSeconds (now - start) ≥ durationSecs.toInt64.toInt)

def nowRfc3339 : Handler String := do
  let now ← call .now
  return crates.toRfc3339 now

/-! ### Shared helpers -/

def patchStatus (ns name : String) (status : ChaosExperimentStatus) : Handler Unit := do
  Program.ofExcept (← call (.patchExperimentStatus ns name status))

/-- The fresh status of an experiment that failed before it ran. -/
def failedStatus (message : String) : ChaosExperimentStatus where
  phase := .failed
  message := some message

def patchFailed (ns name message : String) : Handler Unit :=
  patchStatus ns name (failedStatus message)

/-- Does a VirtualService carry the operator's mark and the label of this experiment? -/
def isOwnedBy (experimentName : String) (labels : Labels) : Bool :=
  isChaosManaged labels && labels.lookup experimentLabel == some experimentName

/-- Delete the listed VirtualServices of one experiment, one after the other. -/
def deleteOwned (targetNs experimentName : String) : List VirtualServiceInfo → Handler Unit
  | [] => return ()
  | vs :: rest => do
    if isOwnedBy experimentName vs.labels then
      tolerate isNotFound (← call (.deleteVirtualService targetNs vs.name))
    deleteOwned targetNs experimentName rest

def cleanupVirtualServices (targetNs experimentName : String) : Handler Unit := do
  let allVs ← Program.ofExcept (← call (.listVirtualServicesForHost targetNs ""))
  deleteOwned targetNs experimentName allVs

/-- Delete Jobs by name. Every error is passed over. -/
def deleteJobs (ns : String) : List String → Handler Unit
  | [] => return ()
  | jobName :: rest => do
    let _ ← call (.deleteJob ns jobName)
    deleteJobs ns rest

/-! ### Deletion -/

def handleDeletion (experiment : ChaosExperiment) : Handler Unit := do
  let name := expName experiment
  let ns := expNamespace experiment
  let status := statusOf experiment
  deleteJobs ns status.runnerJobs
  if experiment.spec.scenario.isEdgeChaos then
    -- the result of the cleanup is dropped
    let _ ← (cleanupVirtualServices (targetNamespace experiment) name).attempt
  Program.ofExcept (← call (.removeFinalizer ns name))

/-! ### Pending -/

/-- The parameters handed to the runner: the spec's, with the target namespace as default. -/
def runnerParameters (experiment : ChaosExperiment) : Json :=
  match experiment.spec.parameters.getD (.object []) with
  | .object fields =>
    if (fields.lookup "namespace").isSome then .object fields
    else .object (Json.setField "namespace" (.string (targetNamespace experiment)) fields)
  | other => other

/-- The Job of one node. -/
def jobOfNode (experiment : ChaosExperiment) (experimentId node : String) : Option Job :=
  buildRunnerJob experiment experimentId node experiment.spec.scenario experiment.spec.duration
    (some (crates.printJson (runnerParameters experiment))) config.jobBuilder

/-- Create the Job of each node and collect the names. A name that is taken counts as
created. -/
def createJobs (experiment : ChaosExperiment) (experimentId : String) :
    List String → Handler (List String)
  | [] => return []
  | node :: rest => do
    let job ← Program.ofOption (jobOfNode crates config experiment experimentId node)
    let jobName := job.metadata.name.getD ""
    tolerate isAlreadyExists (← call (.createJob (expNamespace experiment) job))
    let jobNames ← createJobs experiment experimentId rest
    return jobName :: jobNames

/-- The status of a pod or node experiment whose Jobs have been created. -/
def runningPodStatus (experiment : ChaosExperiment) (experimentId : String) (nodes : List String)
    (jobNames : List String) (startedAt : String) : ChaosExperimentStatus where
  phase := .running
  message := some ("Running on " ++ toString nodes.length ++ " nodes for " ++
    toString experiment.spec.duration ++ "s")
  startedAt := some startedAt
  experimentId := some experimentId
  runnerJobs := jobNames

def handlePendingPod (experiment : ChaosExperiment) (experimentId : String) : Handler Unit := do
  let name := expName experiment
  let ns := expNamespace experiment
  let targetNs := targetNamespace experiment
  let nodes ← Program.ofExcept (← call (.listTargetNodes targetNs))
  if nodes.isEmpty then
    patchFailed ns name ValidationError.noTargetNodes.toString
  else
    let jobNames ← createJobs crates config experiment experimentId nodes
    let startedAt ← nowRfc3339 crates
    patchStatus ns name (runningPodStatus experiment experimentId nodes jobNames startedAt)

/-- The VirtualService of an edge experiment. -/
def edgeVirtualService (experiment : ChaosExperiment) (edge : EdgeTarget) (vsName : String)
    (sourceLabels : Labels) (fault : Json) : VirtualServiceSpec where
  name := vsName
  ns := targetNamespace experiment
  experimentName := expName experiment
  experimentUid := experiment.metadata.uid.getD ""
  destinationFqdn := fqdn edge.destinationService (targetNamespace experiment)
  sourceLabels := sourceLabels
  fault := fault

/-- The status of an edge experiment whose VirtualService has been created. -/
def runningEdgeStatus (experiment : ChaosExperiment) (edge : EdgeTarget) (experimentId : String)
    (startedAt : String) : ChaosExperimentStatus where
  phase := .running
  message := some ("Edge chaos " ++ edge.sourceService ++ " → " ++ edge.destinationService ++
    " for " ++ toString experiment.spec.duration ++ "s")
  startedAt := some startedAt
  experimentId := some experimentId

/-- The last two steps of the edge path: build the fault and create the VirtualService. -/
def injectEdgeFault (experiment : ChaosExperiment) (edge : EdgeTarget) (experimentId : String)
    (sourceLabels : Labels) : Handler Unit := do
  let name := expName experiment
  let ns := expNamespace experiment
  let targetNs := targetNamespace experiment
  match buildFaultForScenario experiment.spec.scenario
      (experiment.spec.parameters.getD (.object [])) with
  | none => patchFailed ns name "cannot build fault for scenario"
  | some fault =>
    let vsName ← Program.ofOption (virtualServiceName experimentId)
    let vsJson :=
      buildVirtualServiceJson (edgeVirtualService experiment edge vsName sourceLabels fault)
    tolerate isAlreadyExists (← call (.createVirtualService targetNs vsJson))
    let startedAt ← nowRfc3339 crates
    patchStatus ns name (runningEdgeStatus experiment edge experimentId startedAt)

/-- The third step of the edge path: the edge has to be in the observed graph. -/
def checkEdge (experiment : ChaosExperiment) (edge : EdgeTarget) (experimentId : String)
    (sourceLabels : Labels) : Handler Unit := do
  if edgeResolver then
    match ← call (.resolveEdge edge.sourceService edge.destinationService
        (targetNamespace experiment)) with
    | .error error => patchFailed (expNamespace experiment) (expName experiment) error.toString
    | .ok _ => injectEdgeFault crates experiment edge experimentId sourceLabels
  else injectEdgeFault crates experiment edge experimentId sourceLabels

def handlePendingEdge (experiment : ChaosExperiment) (experimentId : String) : Handler Unit := do
  let name := expName experiment
  let ns := expNamespace experiment
  let targetNs := targetNamespace experiment
  match experiment.spec.target.bind Target.edge with
  | none => .fail (.validation .missingEdgeTarget)
  | some edge =>
    let notFound := patchFailed ns name
      (ValidationError.sourceServiceNotFound edge.sourceService).toString
    -- 1. the labels of the source workload
    match ← call (.getServiceSelector targetNs edge.sourceService) with
    | .error _ => notFound
    | .ok labels =>
      if labels.isEmpty then notFound
      else
        -- 2. conflicts with VirtualServices of others
        let destFqdn := fqdn edge.destinationService targetNs
        let existingVs ← Program.ofExcept
          (← call (.listVirtualServicesForHost targetNs destFqdn))
        if existingVs.any fun vs => !isChaosManaged vs.labels then
          patchFailed ns name (ValidationError.conflictingVirtualService destFqdn).toString
        else checkEdge crates edgeResolver experiment edge experimentId labels

/-- The identifier of an experiment: the one in its status, else its uid, else a new one. -/
def experimentIdOf (experiment : ChaosExperiment) : Handler String :=
  match (statusOf experiment).experimentId, experiment.metadata.uid with
  | some id, _ => return id
  | none, some uid => return uid
  | none, none => call .newExperimentId

def handlePending (experiment : ChaosExperiment) : Handler Unit := do
  let name := expName experiment
  let ns := expNamespace experiment
  match validateExperiment experiment.spec with
  | .error error => patchFailed ns name error.toString
  | .ok _ =>
    let eid ← experimentIdOf experiment
    if experiment.spec.scenario.isEdgeChaos then
      handlePendingEdge crates edgeResolver experiment eid
    else handlePendingPod crates config experiment eid

/-! ### Running -/

/-- The status of an experiment that has come to its end. -/
def completedStatus (status : ChaosExperimentStatus) (phase : Phase)
    (message completedAt : String) : ChaosExperimentStatus :=
  { status with phase := phase, message := some message, completedAt := some completedAt }

def complete (ns name : String) (status : ChaosExperimentStatus) (phase : Phase)
    (message : String) : Handler Unit := do
  let completedAt ← nowRfc3339 crates
  patchStatus ns name (completedStatus status phase message completedAt)

/-- Complete the experiment when its duration has elapsed. -/
def completeIfElapsed (ns name : String) (status : ChaosExperimentStatus) (durationSecs : UInt64)
    (message : String) : Handler Unit := do
  match status.startedAt with
  | none => return ()
  | some startedAt =>
    if ← isDurationElapsed crates startedAt durationSecs then
      complete crates ns name status .succeeded message

def handleRunningEdge (name ns : String) (status : ChaosExperimentStatus)
    (durationSecs : UInt64) : Handler Unit :=
  completeIfElapsed crates ns name status durationSecs "Edge chaos duration elapsed"

def handleRunningPod (name ns : String) (status : ChaosExperimentStatus)
    (durationSecs : UInt64) : Handler Unit := do
  let labelSelector := experimentLabel ++ "=" ++ name
  let jobs ← Program.ofExcept (← call (.listJobs ns labelSelector))
  if anyJobFailed jobs then
    complete crates ns name status .failed "One or more runner jobs failed"
  else if allJobsSucceeded jobs then
    complete crates ns name status .succeeded "All runner jobs completed"
  else completeIfElapsed crates ns name status durationSecs "Duration elapsed"

def handleRunning (experiment : ChaosExperiment) : Handler Unit :=
  let name := expName experiment
  let ns := expNamespace experiment
  let status := statusOf experiment
  if experiment.spec.scenario.isEdgeChaos then
    handleRunningEdge crates name ns status experiment.spec.duration
  else handleRunningPod crates name ns status experiment.spec.duration

/-! ### Terminal -/

def markCleaned (experiment : ChaosExperiment) : Handler Unit :=
  patchStatus (expNamespace experiment) (expName experiment)
    { statusOf experiment with cleanupDone := true }

def handleTerminal (experiment : ChaosExperiment) : Handler Unit := do
  let name := expName experiment
  let ns := expNamespace experiment
  let status := statusOf experiment
  if status.cleanupDone then return ()
  else
    deleteJobs ns status.runnerJobs
    if experiment.spec.scenario.isEdgeChaos then
      match ← (cleanupVirtualServices (targetNamespace experiment) name).attempt with
      | .error _ => return ()  -- retried by the next pass
      | .ok _ => markCleaned experiment
    else markCleaned experiment

/-! ### The pass -/

def reconcile (experiment : ChaosExperiment) : Handler ReconcileResult := do
  let name := expName experiment
  let ns := expNamespace experiment
  if needsFinalizer experiment then
    Program.ofExcept (← call (.addFinalizer ns name))
    return .requeue 0
  else if isBeingDeleted experiment then
    handleDeletion experiment
    return .done
  else
    let status := statusOf experiment
    match status.phase with
    | .pending =>
      handlePending crates edgeResolver config experiment
      return .requeue (requeueDuration .running)
    | .running =>
      handleRunning crates experiment
      return .requeue (requeueDuration .running)
    | .succeeded | .failed =>
      handleTerminal experiment
      if status.cleanupDone then return .done
      else return .requeue (requeueDuration .running)

end Reconciler

end ChimpChaos
