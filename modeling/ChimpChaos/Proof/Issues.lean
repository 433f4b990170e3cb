/-
This file says once what a pass of the reconciler can do.

`Issues` lists the calls of a pass with everything the code checks before it makes them, in
terms of the snapshot and of the exchanges so far; `Writes` does the same for the statuses a
pass can write. The one theorem about the code is `reconcile_follows`: against every possible
answer, every call of a pass is in `Issues`, and no call comes after a status write. All
results about runs are derived from it, without looking into a handler again.
-/

import ChimpChaos.Operator.Reconciler
import Mathlib.Data.List.Forall2

namespace ChimpChaos

open Library Program

/-! ### The situations a pass distinguishes -/

/-- A status write. -/
def ApiCall.isPatch : ApiCall → Bool
  | .patchExperimentStatus .. => true
  | _ => false

/-- No status has been written yet. -/
def NoWrite (history : History) : Prop := ∀ exchange ∈ history, exchange.1.isPatch = false

instance (history : History) : Decidable (NoWrite history) :=
  inferInstanceAs (Decidable (∀ exchange ∈ history, exchange.1.isPatch = false))

@[simp] theorem noWrite_nil : NoWrite [] := by
  intro exchange member
  cases member

@[simp] theorem noWrite_cons (exchange : Exchange ApiCall Answer) (history : History) :
    NoWrite (exchange :: history) ↔ exchange.1.isPatch = false ∧ NoWrite history := by
  simp [NoWrite]

/-- The object is found or gone: what a deletion should achieve. -/
def Gone : Except OperatorError Unit → Prop
  | .ok _ => True
  | .error error => isNotFound error = true

/-- The name was free or is taken: what the code accepts of a creation. -/
def Created : Except OperatorError Unit → Prop
  | .ok _ => True
  | .error error => isAlreadyExists error = true

section Issues

variable (crates : Crates) (edgeResolver : Bool) (config : ReconcilerConfig)
  (experiment : ChaosExperiment)

/-- The snapshot has the finalizer and is not being deleted. -/
def Active : Prop := needsFinalizer experiment = false ∧ isBeingDeleted experiment = false

/-- The snapshot has the finalizer and is being deleted. -/
def Deleting : Prop := needsFinalizer experiment = false ∧ isBeingDeleted experiment = true

/-- The snapshot is due for cleanup: it is being deleted, or it is terminal and not yet
marked clean. -/
def CleansUp : Prop :=
  Deleting experiment ∨ (Active experiment ∧ (statusOf experiment).phase.isTerminal = true ∧
    (statusOf experiment).cleanupDone = false)

/-- The snapshot is pending. -/
def Pending : Prop := Active experiment ∧ (statusOf experiment).phase = .pending

/-- The snapshot is pending with a valid spec. -/
def Starting : Prop :=
  Pending experiment ∧ validateExperiment experiment.spec = .ok ()

/-- A string is the identifier a pass uses. -/
def IsExperimentId (history : History) (id : String) : Prop :=
  (statusOf experiment).experimentId = some id ∨
    (statusOf experiment).experimentId = none ∧
      (experiment.metadata.uid = some id ∨
        experiment.metadata.uid = none ∧ ⟨.newExperimentId, id⟩ ∈ history)

/-- The cleanup of VirtualServices went through: the listing was answered, and each listed
VirtualService of the experiment was deleted or was already gone. -/
def CleanupDone (targetNs experimentName : String) (history : History) : Prop :=
  ∃ services, ⟨.listVirtualServicesForHost targetNs "", .ok services⟩ ∈ history ∧
    ∀ vs ∈ services, isOwnedBy experimentName vs.labels = true →
      ∃ answer, ⟨.deleteVirtualService targetNs vs.name, answer⟩ ∈ history ∧ Gone answer

/-- The cleanup of VirtualServices stopped at an error. -/
def CleanupFailed (targetNs : String) (history : History) : Prop :=
  (∃ error, ⟨.listVirtualServicesForHost targetNs "", .error error⟩ ∈ history) ∨
    ∃ name error, ⟨.deleteVirtualService targetNs name, .error error⟩ ∈ history ∧
      isNotFound error = false

/-- The deletion of each recorded Job has been requested. -/
def JobsTried (history : History) : Prop :=
  ∀ job ∈ (statusOf experiment).runnerJobs,
    ∃ answer, ⟨.deleteJob (expNamespace experiment) job, answer⟩ ∈ history

/-- Each listed node has its Job: the creation was requested and accepted, and its name is
the one recorded at the same place. -/
def JobsCreated (history : History) (experimentId : String) (nodes jobNames : List String) :
    Prop :=
  List.Forall₂ (fun node jobName => ∃ job answer,
    jobOfNode crates config experiment experimentId node = some job ∧
      job.metadata.name = some jobName ∧
      ⟨.createJob (expNamespace experiment) job, answer⟩ ∈ history ∧ Created answer)
    nodes jobNames

/-- The checks of the edge path before the fault is built: the selector of the source service
is there, every VirtualService of the namespace is the operator's own, and the resolver, when
there is one, knows the edge. -/
structure EdgeChecked (history : History) (edge : EdgeTarget) (sourceLabels : Labels) : Prop where
  target : experiment.spec.target.bind Target.edge = some edge
  selected : ⟨.getServiceSelector (targetNamespace experiment) edge.sourceService,
    .ok sourceLabels⟩ ∈ history
  labelled : sourceLabels ≠ []
  unconflicted : ∃ services,
    ⟨.listVirtualServicesForHost (targetNamespace experiment)
      (fqdn edge.destinationService (targetNamespace experiment)), .ok services⟩ ∈ history ∧
      ∀ vs ∈ services, isChaosManaged vs.labels = true
  resolved : edgeResolver = true → ∃ info,
    ⟨.resolveEdge edge.sourceService edge.destinationService (targetNamespace experiment),
      .ok info⟩ ∈ history

/-- The VirtualService the edge path asks for. -/
structure FaultBuilt (id : String) (edge : EdgeTarget) (sourceLabels : Labels)
    (document : Json) : Prop where
  built : ∃ vsName fault, virtualServiceName id = some vsName ∧
    buildFaultForScenario experiment.spec.scenario
      (experiment.spec.parameters.getD (.object [])) = some fault ∧
    document =
      buildVirtualServiceJson (edgeVirtualService experiment edge vsName sourceLabels fault)

/-- The reasons for which a pass fails an experiment before it runs, with their messages. -/
inductive FailureReason (history : History) : String → Prop
  | invalid (error : ValidationError)
      (refused : validateExperiment experiment.spec = .error error) :
      FailureReason history error.toString
  | noTargetNodes (pod : experiment.spec.scenario.isEdgeChaos = false)
      (listed : ⟨.listTargetNodes (targetNamespace experiment), .ok []⟩ ∈ history) :
      FailureReason history ValidationError.noTargetNodes.toString
  | sourceServiceNotFound (edgeChaos : experiment.spec.scenario.isEdgeChaos = true)
      (edge : EdgeTarget)
      (target : experiment.spec.target.bind Target.edge = some edge)
      (answer : Except OperatorError Labels)
      (asked : ⟨.getServiceSelector (targetNamespace experiment) edge.sourceService, answer⟩ ∈
        history)
      (unusable : ∀ labels, answer = .ok labels → labels = []) :
      FailureReason history (ValidationError.sourceServiceNotFound edge.sourceService).toString
  | conflictingVirtualService (edgeChaos : experiment.spec.scenario.isEdgeChaos = true)
      (edge : EdgeTarget)
      (target : experiment.spec.target.bind Target.edge = some edge)
      (services : List VirtualServiceInfo)
      (listed : ⟨.listVirtualServicesForHost (targetNamespace experiment)
        (fqdn edge.destinationService (targetNamespace experiment)), .ok services⟩ ∈ history)
      (vs : VirtualServiceInfo) (member : vs ∈ services)
      (foreign : isChaosManaged vs.labels = false) :
      FailureReason history (ValidationError.conflictingVirtualService
        (fqdn edge.destinationService (targetNamespace experiment))).toString
  | unresolved (edgeChaos : experiment.spec.scenario.isEdgeChaos = true) (edge : EdgeTarget)
      (target : experiment.spec.target.bind Target.edge = some edge)
      (error : OperatorError)
      (refused : ⟨.resolveEdge edge.sourceService edge.destinationService
        (targetNamespace experiment), .error error⟩ ∈ history) :
      FailureReason history error.toString
  | noFault (edgeChaos : experiment.spec.scenario.isEdgeChaos = true)
      (unbuildable : buildFaultForScenario experiment.spec.scenario
      (experiment.spec.parameters.getD (.object [])) = none) :
      FailureReason history "cannot build fault for scenario"

/-! ### The statuses a pass writes -/

/-- The statuses a pass can write, with what it has done before it writes them. -/
inductive Writes (history : History) : ChaosExperimentStatus → Prop
  | failed (pending : Pending experiment) (message : String)
      (reason : FailureReason experiment history message) :
      Writes history (failedStatus message)
  | runningPod (starting : Starting experiment)
      (pod : experiment.spec.scenario.isEdgeChaos = false) (id : String)
      (identified : IsExperimentId experiment history id) (nodes jobNames : List String)
      (listed : ⟨.listTargetNodes (targetNamespace experiment), .ok nodes⟩ ∈ history)
      (nonempty : nodes ≠ [])
      (created : JobsCreated crates config experiment history id nodes jobNames)
      (time : Int) (read : ⟨.now, time⟩ ∈ history) :
      Writes history (runningPodStatus experiment id nodes jobNames (crates.toRfc3339 time))
  | runningEdge (starting : Starting experiment)
      (edgeChaos : experiment.spec.scenario.isEdgeChaos = true) (id : String)
      (identified : IsExperimentId experiment history id) (edge : EdgeTarget)
      (sourceLabels : Labels)
      (checked : EdgeChecked edgeResolver experiment history edge sourceLabels)
      (document : Json) (built : FaultBuilt experiment id edge sourceLabels document)
      (answer : Except OperatorError Unit)
      (requested : ⟨.createVirtualService (targetNamespace experiment) document, answer⟩ ∈ history)
      (created : Created answer) (time : Int) (read : ⟨.now, time⟩ ∈ history) :
      Writes history (runningEdgeStatus experiment edge id (crates.toRfc3339 time))
  | completed (active : Active experiment) (running : (statusOf experiment).phase = .running)
      (phase : Phase) (terminal : phase.isTerminal = true) (message : String)
      (time : Int) (read : ⟨.now, time⟩ ∈ history) :
      Writes history
        (completedStatus (statusOf experiment) phase message (crates.toRfc3339 time))
  | cleaned (active : Active experiment)
      (terminal : (statusOf experiment).phase.isTerminal = true)
      (unclean : (statusOf experiment).cleanupDone = false)
      (jobs : JobsTried experiment history)
      (services : experiment.spec.scenario.isEdgeChaos = true →
        CleanupDone (targetNamespace experiment) (expName experiment) history) :
      Writes history { statusOf experiment with cleanupDone := true }

/-! ### The calls a pass makes -/

/-- The calls a pass can make, with what it has checked before it makes them. -/
inductive Issues (history : History) : ApiCall → Prop
  | addFinalizer (missing : needsFinalizer experiment = true) :
      Issues history (.addFinalizer (expNamespace experiment) (expName experiment))
  | deleteJob (cleans : CleansUp experiment) (jobName : String)
      (recorded : jobName ∈ (statusOf experiment).runnerJobs) :
      Issues history (.deleteJob (expNamespace experiment) jobName)
  | listOwned (cleans : CleansUp experiment)
      (edgeChaos : experiment.spec.scenario.isEdgeChaos = true) :
      Issues history (.listVirtualServicesForHost (targetNamespace experiment) "")
  | deleteVirtualService (cleans : CleansUp experiment)
      (edgeChaos : experiment.spec.scenario.isEdgeChaos = true)
      (services : List VirtualServiceInfo)
      (listed : ⟨.listVirtualServicesForHost (targetNamespace experiment) "", .ok services⟩ ∈
        history)
      (vs : VirtualServiceInfo) (member : vs ∈ services)
      (owned : isOwnedBy (expName experiment) vs.labels = true) :
      Issues history (.deleteVirtualService (targetNamespace experiment) vs.name)
  | removeFinalizer (deleting : Deleting experiment) (jobs : JobsTried experiment history)
      (services : experiment.spec.scenario.isEdgeChaos = true →
        CleanupDone (targetNamespace experiment) (expName experiment) history ∨
          CleanupFailed (targetNamespace experiment) history) :
      Issues history (.removeFinalizer (expNamespace experiment) (expName experiment))
  | newExperimentId (starting : Starting experiment)
      (anonymous : (statusOf experiment).experimentId = none ∧ experiment.metadata.uid = none) :
      Issues history .newExperimentId
  | listTargetNodes (starting : Starting experiment)
      (pod : experiment.spec.scenario.isEdgeChaos = false)
      (first : ∀ answer, ⟨.listTargetNodes (targetNamespace experiment), answer⟩ ∉ history) :
      Issues history (.listTargetNodes (targetNamespace experiment))
  | createJob (starting : Starting experiment)
      (pod : experiment.spec.scenario.isEdgeChaos = false) (id : String)
      (identified : IsExperimentId experiment history id) (nodes : List String)
      (listed : ⟨.listTargetNodes (targetNamespace experiment), .ok nodes⟩ ∈ history)
      (node : String) (member : node ∈ nodes) (job : Job)
      (built : jobOfNode crates config experiment id node = some job) :
      Issues history (.createJob (expNamespace experiment) job)
  | getServiceSelector (starting : Starting experiment)
      (edgeChaos : experiment.spec.scenario.isEdgeChaos = true) (edge : EdgeTarget)
      (target : experiment.spec.target.bind Target.edge = some edge) :
      Issues history (.getServiceSelector (targetNamespace experiment) edge.sourceService)
  | listConflicts (starting : Starting experiment)
      (edgeChaos : experiment.spec.scenario.isEdgeChaos = true) (edge : EdgeTarget)
      (target : experiment.spec.target.bind Target.edge = some edge) :
      Issues history (.listVirtualServicesForHost (targetNamespace experiment)
        (fqdn edge.destinationService (targetNamespace experiment)))
  | resolveEdge (starting : Starting experiment)
      (edgeChaos : experiment.spec.scenario.isEdgeChaos = true) (edge : EdgeTarget)
      (target : experiment.spec.target.bind Target.edge = some edge) :
      Issues history (.resolveEdge edge.sourceService edge.destinationService
        (targetNamespace experiment))
  | createVirtualService (starting : Starting experiment)
      (edgeChaos : experiment.spec.scenario.isEdgeChaos = true) (id : String)
      (identified : IsExperimentId experiment history id) (edge : EdgeTarget)
      (sourceLabels : Labels)
      (checked : EdgeChecked edgeResolver experiment history edge sourceLabels)
      (document : Json) (built : FaultBuilt experiment id edge sourceLabels document) :
      Issues history (.createVirtualService (targetNamespace experiment) document)
  | listJobs (active : Active experiment) (running : (statusOf experiment).phase = .running)
      (pod : experiment.spec.scenario.isEdgeChaos = false) :
      Issues history (.listJobs (expNamespace experiment)
        (experimentLabel ++ "=" ++ expName experiment))
  | now (active : Active experiment) : Issues history .now
  | patch (status : ChaosExperimentStatus)
      (writes : Writes crates edgeResolver config experiment history status) :
      Issues history
        (.patchExperimentStatus (expNamespace experiment) (expName experiment) status)

/-- A call of a pass: one of its calls, and nothing has been written before it. -/
structure Issued (history : History) (request : ApiCall) : Prop where
  quiet : NoWrite history
  issues : Issues crates edgeResolver config experiment history request

end Issues

section Follows

variable {crates : Crates} {edgeResolver : Bool} {config : ReconcilerConfig}
  {experiment : ChaosExperiment} {history later : History}

/-! ### What is known of a history stays known -/

theorem IsExperimentId.mono {id : String} (identified : IsExperimentId experiment history id)
    (extended : history ⊆ later) : IsExperimentId experiment later id := by
  rcases identified with recorded | ⟨unset, uid | ⟨anonymous, drawn⟩⟩
  · exact Or.inl recorded
  · exact Or.inr ⟨unset, Or.inl uid⟩
  · exact Or.inr ⟨unset, Or.inr ⟨anonymous, extended drawn⟩⟩

theorem JobsTried.mono (tried : JobsTried experiment history) (extended : history ⊆ later) :
    JobsTried experiment later := by
  intro job recorded
  obtain ⟨answer, member⟩ := tried job recorded
  exact ⟨answer, extended member⟩

theorem EdgeChecked.mono {edge : EdgeTarget} {sourceLabels : Labels}
    (checked : EdgeChecked edgeResolver experiment history edge sourceLabels)
    (extended : history ⊆ later) :
    EdgeChecked edgeResolver experiment later edge sourceLabels := by
  refine ⟨checked.target, extended checked.selected, checked.labelled, ?_, ?_⟩
  · obtain ⟨services, listed, managed⟩ := checked.unconflicted
    exact ⟨services, extended listed, managed⟩
  · intro resolver
    obtain ⟨info, resolved⟩ := checked.resolved resolver
    exact ⟨info, extended resolved⟩

/-! ### Reading a call backwards -/

theorem Issues.writes {ns name : String} {status : ChaosExperimentStatus}
    (issues : Issues crates edgeResolver config experiment history
      (.patchExperimentStatus ns name status)) :
    Writes crates edgeResolver config experiment history status := by
  cases issues with
  | patch _ writes => exact writes

/-- The status is written to the experiment of the snapshot. -/
theorem Issues.patched {ns name : String} {status : ChaosExperimentStatus}
    (issues : Issues crates edgeResolver config experiment history
      (.patchExperimentStatus ns name status)) :
    ns = expNamespace experiment ∧ name = expName experiment := by
  cases issues with
  | patch _ writes => exact ⟨rfl, rfl⟩

/-- With a uid, the identifier of a pass is the recorded one or else the uid. -/
theorem IsExperimentId.eq_getD {id uid : String}
    (identified : IsExperimentId experiment history id)
    (known : experiment.metadata.uid = some uid) :
    id = (statusOf experiment).experimentId.getD uid := by
  rcases identified with present | ⟨absent, same | ⟨anonymous, -⟩⟩
  · rw [present, Option.getD_some]
  · rw [absent, Option.getD_none]
    exact Option.some.inj (same.symm.trans known)
  · rw [known] at anonymous
    cases anonymous

/-- When no other identifier has been recorded, a pass uses the uid. -/
theorem IsExperimentId.eq_uid {id uid : String} (identified : IsExperimentId experiment history id)
    (recorded : (statusOf experiment).experimentId = none ∨
      (statusOf experiment).experimentId = some uid)
    (known : experiment.metadata.uid = some uid) : id = uid := by
  rw [identified.eq_getD known]
  rcases recorded with absent | present
  · rw [absent, Option.getD_none]
  · rw [present, Option.getD_some]

/-- An experiment that is neither being deleted nor over is not due for cleanup. -/
theorem Active.not_cleansUp (active : Active experiment)
    (ongoing : (statusOf experiment).phase.isTerminal = false) : ¬ CleansUp experiment := by
  rintro (deleting | ⟨-, terminal, -⟩)
  · exact absurd (active.2.symm.trans deleting.2) Bool.false_ne_true
  · exact absurd (ongoing.symm.trans terminal) Bool.false_ne_true

/-- A pending experiment is not due for cleanup. -/
theorem Pending.not_cleansUp (pending : Pending experiment) : ¬ CleansUp experiment :=
  pending.1.not_cleansUp (by rw [pending.2]; rfl)

/-- A terminal experiment is not started. -/
theorem not_starting_of_terminal (terminal : (statusOf experiment).phase.isTerminal = true) :
    ¬ Starting experiment := by
  intro starting
  rw [starting.1.2] at terminal
  cases terminal

/-- `Running` is written where the Jobs of listed nodes count as created, or where the
VirtualService does. -/
theorem Writes.running_cases {status : ChaosExperimentStatus}
    (writes : Writes crates edgeResolver config experiment history status)
    (running : status.phase = .running) {uid : String}
    (known : experiment.metadata.uid = some uid) :
    Starting experiment ∧
      ((experiment.spec.scenario.isEdgeChaos = false ∧ ∃ nodes,
          ⟨.listTargetNodes (targetNamespace experiment), .ok nodes⟩ ∈ history ∧
          JobsCreated crates config experiment history
            ((statusOf experiment).experimentId.getD uid) nodes status.runnerJobs) ∨
        experiment.spec.scenario.isEdgeChaos = true ∧ ∃ edge sourceLabels document answer,
          FaultBuilt experiment ((statusOf experiment).experimentId.getD uid) edge sourceLabels
            document ∧
          ⟨.createVirtualService (targetNamespace experiment) document, answer⟩ ∈ history ∧
          Created answer) := by
  cases writes with
  | failed pending message reason => cases running
  | runningPod starting pod id identified nodes jobNames listed nonempty created time read =>
    rw [identified.eq_getD known] at created
    exact ⟨starting, Or.inl ⟨pod, nodes, listed, created⟩⟩
  | runningEdge starting edgeChaos id identified edge sourceLabels checked document built answer
      requested created time read =>
    rw [identified.eq_getD known] at built
    exact ⟨starting, Or.inr ⟨edgeChaos, edge, sourceLabels, document, answer, built, requested,
      created⟩⟩
  | completed active _ phase terminal =>
    rw [show phase = .running from running] at terminal
    cases terminal
  | cleaned active terminal =>
    rw [show (statusOf experiment).phase = .running from running] at terminal
    cases terminal

/-- What is known of a Job whose creation is asked for. -/
structure JobAsked (crates : Crates) (config : ReconcilerConfig) (experiment : ChaosExperiment)
    (history : History) (ns : String) (job : Job) : Prop where
  place : ns = expNamespace experiment
  starting : Starting experiment
  pod : experiment.spec.scenario.isEdgeChaos = false
  source : ∃ id nodes node, IsExperimentId experiment history id ∧
    ⟨.listTargetNodes (targetNamespace experiment), .ok nodes⟩ ∈ history ∧ node ∈ nodes ∧
    jobOfNode crates config experiment id node = some job

theorem Issues.jobAsked {ns : String} {job : Job}
    (issues : Issues crates edgeResolver config experiment history (.createJob ns job)) :
    JobAsked crates config experiment history ns job := by
  cases issues with
  | createJob starting pod id identified nodes listed node member _ built =>
    exact ⟨rfl, starting, pod, id, nodes, node, identified, listed, member, built⟩

/-- What is known of a VirtualService whose creation is asked for. -/
structure ServiceAsked (edgeResolver : Bool) (experiment : ChaosExperiment) (history : History)
    (ns : String) (document : Json) : Prop where
  place : ns = targetNamespace experiment
  starting : Starting experiment
  edgeChaos : experiment.spec.scenario.isEdgeChaos = true
  source : ∃ id edge sourceLabels, IsExperimentId experiment history id ∧
    EdgeChecked edgeResolver experiment history edge sourceLabels ∧
    FaultBuilt experiment id edge sourceLabels document

theorem Issues.serviceAsked {ns : String} {document : Json}
    (issues : Issues crates edgeResolver config experiment history
      (.createVirtualService ns document)) :
    ServiceAsked edgeResolver experiment history ns document := by
  cases issues with
  | createVirtualService starting edgeChaos id identified edge sourceLabels checked _ built =>
    exact ⟨rfl, starting, edgeChaos, id, edge, sourceLabels, identified, checked, built⟩

/-- A document the edge path asks for carries the marks of its experiment. -/
theorem FaultBuilt.owned {id : String} {edge : EdgeTarget} {sourceLabels : Labels}
    {document : Json} (built : FaultBuilt experiment id edge sourceLabels document) :
    isOwnedBy (expName experiment) (documentLabels document) = true := by
  obtain ⟨vsName, fault, -, -, rfl⟩ := built.built
  rw [documentLabels_build]
  show (true && some (expName experiment) == some (expName experiment)) = true
  rw [Bool.true_and, beq_self_eq_true]

/-- The source service is looked up in the target namespace. -/
theorem Issues.selectorAsked {ns service : String}
    (issues : Issues crates edgeResolver config experiment history
      (.getServiceSelector ns service)) : ns = targetNamespace experiment := by
  cases issues with
  | getServiceSelector starting edgeChaos edge target => rfl

/-- The source service is looked up for an edge experiment. -/
theorem Issues.selectorForEdge {ns service : String}
    (issues : Issues crates edgeResolver config experiment history
      (.getServiceSelector ns service)) : experiment.spec.scenario.isEdgeChaos = true := by
  cases issues with
  | getServiceSelector starting edgeChaos edge target => exact edgeChaos

/-- What is known when the nodes are listed. They are listed once. -/
structure NodesAsked (experiment : ChaosExperiment) (history : History) (ns : String) : Prop where
  place : ns = targetNamespace experiment
  starting : Starting experiment
  pod : experiment.spec.scenario.isEdgeChaos = false
  first : ∀ answer, ⟨.listTargetNodes ns, answer⟩ ∉ history

theorem Issues.nodesAsked {ns : String}
    (issues : Issues crates edgeResolver config experiment history (.listTargetNodes ns)) :
    NodesAsked experiment history ns := by
  cases issues with
  | listTargetNodes starting pod first => exact ⟨rfl, starting, pod, first⟩

/-- What a deletion pass has done when it asks for the removal of the finalizer. -/
structure ReleaseAsked (experiment : ChaosExperiment) (history : History) (ns name : String) :
    Prop where
  place : ns = expNamespace experiment ∧ name = expName experiment
  deleting : Deleting experiment
  jobs : JobsTried experiment history
  services : experiment.spec.scenario.isEdgeChaos = true →
    CleanupDone (targetNamespace experiment) (expName experiment) history ∨
      CleanupFailed (targetNamespace experiment) history

theorem Issues.releaseAsked {ns name : String}
    (issues : Issues crates edgeResolver config experiment history (.removeFinalizer ns name)) :
    ReleaseAsked experiment history ns name := by
  cases issues with
  | removeFinalizer deleting jobs services => exact ⟨⟨rfl, rfl⟩, deleting, jobs, services⟩

/-- What is known of a Job whose deletion is asked for. -/
theorem Issues.recorded {ns name : String}
    (issues : Issues crates edgeResolver config experiment history (.deleteJob ns name)) :
    ns = expNamespace experiment ∧ name ∈ (statusOf experiment).runnerJobs := by
  cases issues with
  | deleteJob cleans _ recorded => exact ⟨rfl, recorded⟩

/-- What is known of a VirtualService whose deletion is asked for. -/
structure RemovalAsked (experiment : ChaosExperiment) (history : History) (ns name : String) :
    Prop where
  place : ns = targetNamespace experiment
  edgeChaos : experiment.spec.scenario.isEdgeChaos = true
  listed : ∃ services vs, ⟨.listVirtualServicesForHost ns "", .ok services⟩ ∈ history ∧
    vs ∈ services ∧ isOwnedBy (expName experiment) vs.labels = true ∧ vs.name = name

theorem Issues.removalAsked {ns name : String}
    (issues : Issues crates edgeResolver config experiment history
      (.deleteVirtualService ns name)) : RemovalAsked experiment history ns name := by
  cases issues with
  | deleteVirtualService cleans edgeChaos services listed vs member owned =>
    exact ⟨rfl, edgeChaos, services, vs, listed, member, owned, rfl⟩

/-- A Job is deleted for cleanup only. -/
theorem Issues.removesJob {ns name : String}
    (issues : Issues crates edgeResolver config experiment history (.deleteJob ns name)) :
    CleansUp experiment := by
  cases issues with
  | deleteJob cleans _ _ => exact cleans

/-- A VirtualService is deleted for cleanup only. -/
theorem Issues.removesService {ns name : String}
    (issues : Issues crates edgeResolver config experiment history
      (.deleteVirtualService ns name)) : CleansUp experiment := by
  cases issues with
  | deleteVirtualService cleans _ _ _ _ _ _ => exact cleans

/-- The name a Job is created under is the one built from its node. -/
theorem jobOfNode_name {id node : String} {job : Job}
    (built : jobOfNode crates config experiment id node = some job) :
    makeJobName id node = some (job.metadata.name.getD "") := by
  have named := buildRunnerJob_name built
  cases name : makeJobName id node with
  | none => simp [jobOfNode, buildRunnerJob, name] at built
  | some jobName => rw [named, name, Option.getD_some]

/-- The recorded names are the names built from the nodes, in their order. -/
theorem JobsCreated.names {id : String} {nodes jobNames : List String}
    (created : JobsCreated crates config experiment history id nodes jobNames) :
    nodes.map (makeJobName id) = jobNames.map some := by
  induction created with
  | nil => rfl
  | @cons node jobName nodes jobNames matched _ inductionHypothesis =>
    obtain ⟨job, answer, built, named, -, -⟩ := matched
    rw [List.map_cons, List.map_cons, inductionHypothesis, jobOfNode_name built, named,
      Option.getD_some]

/-- Every node of the list has its Job's name among the recorded ones. -/
theorem JobsCreated.name_mem {id : String} {nodes jobNames : List String}
    (created : JobsCreated crates config experiment history id nodes jobNames) {node name : String}
    (member : node ∈ nodes) (named : makeJobName id node = some name) : name ∈ jobNames := by
  have inside : some name ∈ nodes.map (makeJobName id) := List.mem_map.mpr ⟨node, member, named⟩
  rw [created.names] at inside
  obtain ⟨other, recorded, same⟩ := List.mem_map.mp inside
  obtain rfl := Option.some.inj same
  exact recorded

/-- Every recorded name is built from a node. -/
theorem JobsCreated.named {id : String} {nodes jobNames : List String}
    (created : JobsCreated crates config experiment history id nodes jobNames) {name : String}
    (member : name ∈ jobNames) : ∃ node ∈ nodes, makeJobName id node = some name := by
  have inside : some name ∈ jobNames.map some := List.mem_map_of_mem member
  rw [← created.names] at inside
  exact List.mem_map.mp inside

/-- The creation of every node's Job has been requested and accepted. -/
theorem JobsCreated.accepted {id : String} {nodes jobNames : List String}
    (created : JobsCreated crates config experiment history id nodes jobNames) {node : String}
    (member : node ∈ nodes) :
    ∃ job answer, jobOfNode crates config experiment id node = some job ∧
      ⟨.createJob (expNamespace experiment) job, answer⟩ ∈ history ∧ Created answer := by
  induction created with
  | nil => cases member
  | cons matched _ inductionHypothesis =>
    rcases List.mem_cons.mp member with rfl | member
    · obtain ⟨job, answer, built, -, requested, accepted⟩ := matched
      exact ⟨job, answer, built, requested, accepted⟩
    · exact inductionHypothesis member

/-! ### The shared helpers -/

/-- The rule for a call that is not a status write. -/
theorem issue_follows {Value : Type} {finish : History → Except OperatorError Value → Prop}
    {request : ApiCall} {continuation : Answer request → Handler Value} (quiet : NoWrite history)
    (issues : Issues crates edgeResolver config experiment history request)
    (harmless : request.isPatch = false)
    (each : ∀ answer, NoWrite (⟨request, answer⟩ :: history) →
      (continuation answer).Follows (Issued crates edgeResolver config experiment) finish
        (⟨request, answer⟩ :: history)) :
    (call request >>= continuation).Follows (Issued crates edgeResolver config experiment) finish
      history :=
  ⟨⟨quiet, issues⟩, fun answer => each answer ((noWrite_cons _ _).mpr ⟨harmless, quiet⟩)⟩

theorem tolerate_follows {allowed : History → ApiCall → Prop} (expected : OperatorError → Bool)
    (answer : Except OperatorError Unit) :
    (tolerate expected answer).Follows allowed
      (fun later result => later = history ∧ match result with
        | .ok _ => ∀ error, answer = .error error → expected error = true
        | .error error => answer = .error error ∧ expected error = false) history := by
  cases answer with
  | ok value => exact ⟨rfl, by simp⟩
  | error error =>
    by_cases accepted : expected error = true
    · rw [tolerate, if_pos accepted]
      exact ⟨rfl, by simp [accepted]⟩
    · rw [tolerate, if_neg accepted]
      exact ⟨rfl, rfl, by simpa using accepted⟩

theorem patchStatus_follows (status : ChaosExperimentStatus) (quiet : NoWrite history)
    (writes : Writes crates edgeResolver config experiment history status) :
    (patchStatus (expNamespace experiment) (expName experiment) status).Follows
      (Issued crates edgeResolver config experiment) (fun _ _ => True) history := by
  refine ⟨⟨quiet, .patch status writes⟩, fun answer => ?_⟩
  cases answer <;> trivial

theorem patchFailed_follows (message : String) (quiet : NoWrite history)
    (pending : Pending experiment) (reason : FailureReason experiment history message) :
    (patchFailed (expNamespace experiment) (expName experiment) message).Follows
      (Issued crates edgeResolver config experiment) (fun _ _ => True) history :=
  patchStatus_follows _ quiet (.failed pending message reason)

theorem now_follows {Value : Type} {finish : History → Except OperatorError Value → Prop}
    {continuation : String → Handler Value} (quiet : NoWrite history)
    (active : Active experiment)
    (each : ∀ time, NoWrite (⟨.now, time⟩ :: history) →
      (continuation (crates.toRfc3339 time)).Follows (Issued crates edgeResolver config experiment)
        finish (⟨.now, time⟩ :: history)) :
    (nowRfc3339 crates >>= continuation).Follows (Issued crates edgeResolver config experiment)
      finish history :=
  issue_follows quiet (.now active) rfl each

theorem deleteJobs_follows (cleans : CleansUp experiment) (jobs : List String)
    (recorded : ∀ job ∈ jobs, job ∈ (statusOf experiment).runnerJobs) (quiet : NoWrite history) :
    (deleteJobs (expNamespace experiment) jobs).Follows
      (Issued crates edgeResolver config experiment)
      (fun later _ => NoWrite later ∧ history ⊆ later ∧ ∀ job ∈ jobs,
        ∃ answer, ⟨.deleteJob (expNamespace experiment) job, answer⟩ ∈ later) history := by
  induction jobs generalizing history with
  | nil => exact ⟨quiet, List.Subset.refl _, by simp⟩
  | cons job rest inductionHypothesis =>
    refine issue_follows quiet (.deleteJob cleans job (recorded job List.mem_cons_self)) rfl
      fun answer quietNext => ?_
    refine (inductionHypothesis (fun other member => recorded other (List.mem_cons_of_mem _ member))
      quietNext).weaken ?_
    rintro later result ⟨quietLater, extended, tried⟩
    refine ⟨quietLater, List.Subset.trans (List.subset_cons_self _ _) extended,
      fun other member => ?_⟩
    rcases List.mem_cons.mp member with rfl | member
    · exact ⟨answer, extended List.mem_cons_self⟩
    · exact tried other member

/-- The deletions of a cleanup: each VirtualService of the experiment among those still to be
looked at is deleted or gone, or the cleanup has failed. -/
theorem deleteOwned_follows (cleans : CleansUp experiment)
    (edgeChaos : experiment.spec.scenario.isEdgeChaos = true)
    (services : List VirtualServiceInfo)
    (listed : ⟨.listVirtualServicesForHost (targetNamespace experiment) "", .ok services⟩ ∈ history)
    (todo : List VirtualServiceInfo) (subset : todo ⊆ services) (quiet : NoWrite history) :
    (deleteOwned (targetNamespace experiment) (expName experiment) todo).Follows
      (Issued crates edgeResolver config experiment)
      (fun later result => NoWrite later ∧ history ⊆ later ∧ match result with
        | .ok _ => ∀ vs ∈ todo, isOwnedBy (expName experiment) vs.labels = true →
          ∃ answer, ⟨.deleteVirtualService (targetNamespace experiment) vs.name, answer⟩ ∈ later ∧
            Gone answer
        | .error _ => CleanupFailed (targetNamespace experiment) later) history := by
  induction todo generalizing history with
  | nil => exact ⟨quiet, List.Subset.refl _, by simp⟩
  | cons vs rest inductionHypothesis =>
    have restSubset : rest ⊆ services := List.Subset.trans (List.subset_cons_self _ _) subset
    by_cases owned : isOwnedBy (expName experiment) vs.labels = true
    · rw [deleteOwned, if_pos owned]
      refine issue_follows quiet (.deleteVirtualService cleans edgeChaos services listed vs
        (subset List.mem_cons_self) owned) rfl fun answer quietNext => ?_
      refine (tolerate_follows isNotFound answer).bind ?_ ?_
      · rintro _ _ ⟨rfl, accepted⟩
        refine (inductionHypothesis (List.mem_cons_of_mem _ listed) restSubset quietNext).weaken ?_
        rintro later result ⟨quietLater, extended, outcome⟩
        refine ⟨quietLater, List.Subset.trans (List.subset_cons_self _ _) extended, ?_⟩
        cases result with
        | error error => exact outcome
        | ok value =>
          intro other member otherOwned
          rcases List.mem_cons.mp member with rfl | member
          · refine ⟨answer, extended List.mem_cons_self, ?_⟩
            cases answer with
            | ok value => trivial
            | error error => exact accepted error rfl
          · exact outcome other member otherOwned
      · rintro _ error ⟨rfl, rfl, unexpected⟩
        exact ⟨quietNext, List.subset_cons_self _ _,
          Or.inr ⟨vs.name, error, List.mem_cons_self, unexpected⟩⟩
    · rw [deleteOwned, if_neg owned]
      refine (inductionHypothesis listed restSubset quiet).weaken ?_
      rintro later result ⟨quietLater, extended, outcome⟩
      refine ⟨quietLater, extended, ?_⟩
      cases result with
      | error error => exact outcome
      | ok value =>
        intro other member otherOwned
        rcases List.mem_cons.mp member with rfl | member
        · exact absurd otherOwned owned
        · exact outcome other member otherOwned

theorem cleanupVirtualServices_follows (cleans : CleansUp experiment)
    (edgeChaos : experiment.spec.scenario.isEdgeChaos = true) (quiet : NoWrite history) :
    (cleanupVirtualServices (targetNamespace experiment) (expName experiment)).Follows
      (Issued crates edgeResolver config experiment)
      (fun later result => NoWrite later ∧ history ⊆ later ∧ match result with
        | .ok _ => CleanupDone (targetNamespace experiment) (expName experiment) later
        | .error _ => CleanupFailed (targetNamespace experiment) later) history := by
  refine issue_follows quiet (.listOwned cleans edgeChaos) rfl fun answer quietNext => ?_
  cases answer with
  | error error =>
    exact ⟨quietNext, List.subset_cons_self _ _, Or.inl ⟨error, List.mem_cons_self⟩⟩
  | ok services =>
    refine (deleteOwned_follows cleans edgeChaos services List.mem_cons_self services
      (List.Subset.refl _) quietNext).weaken ?_
    rintro later result ⟨quietLater, extended, outcome⟩
    refine ⟨quietLater, List.Subset.trans (List.subset_cons_self _ _) extended, ?_⟩
    cases result with
    | error error => exact outcome
    | ok value => exact ⟨services, extended List.mem_cons_self, outcome⟩

/-- The cleanup with its failure caught. -/
theorem attemptCleanup_follows (cleans : CleansUp experiment)
    (edgeChaos : experiment.spec.scenario.isEdgeChaos = true) (quiet : NoWrite history) :
    (cleanupVirtualServices (targetNamespace experiment) (expName experiment)).attempt.Follows
      (Issued crates edgeResolver config experiment)
      (fun later result => ∃ outcome, result = .ok outcome ∧ NoWrite later ∧ history ⊆ later ∧
        match outcome with
        | .ok _ => CleanupDone (targetNamespace experiment) (expName experiment) later
        | .error _ => CleanupFailed (targetNamespace experiment) later) history :=
  (cleanupVirtualServices_follows cleans edgeChaos quiet).attempt
    fun _ outcome known => ⟨outcome, rfl, known⟩

/-! ### Pending -/

theorem createJobs_follows (starting : Starting experiment)
    (pod : experiment.spec.scenario.isEdgeChaos = false) (id : String)
    (identified : IsExperimentId experiment history id) (nodes : List String)
    (listed : ⟨.listTargetNodes (targetNamespace experiment), .ok nodes⟩ ∈ history)
    (todo : List String) (subset : todo ⊆ nodes) (quiet : NoWrite history) :
    (createJobs crates config experiment id todo).Follows
      (Issued crates edgeResolver config experiment)
      (fun later result => NoWrite later ∧ history ⊆ later ∧ ∀ jobNames, result = .ok jobNames →
        JobsCreated crates config experiment later id todo jobNames) history := by
  induction todo generalizing history with
  | nil =>
    refine ⟨quiet, List.Subset.refl _, ?_⟩
    rintro jobNames ⟨⟩
    exact .nil
  | cons node rest inductionHypothesis =>
    rw [createJobs]
    cases built : jobOfNode crates config experiment id node with
    | none => trivial
    | some job =>
      refine issue_follows quiet (.createJob starting pod id identified nodes listed node
        (subset List.mem_cons_self) job built) rfl fun answer quietNext => ?_
      have extendedNext : history ⊆ ⟨.createJob (expNamespace experiment) job, answer⟩ :: history :=
        List.subset_cons_self _ _
      refine (tolerate_follows isAlreadyExists answer).bind ?_ ?_
      · rintro _ _ ⟨rfl, accepted⟩
        refine (inductionHypothesis (identified.mono extendedNext) (extendedNext listed)
          (List.Subset.trans (List.subset_cons_self _ _) subset) quietNext).bind ?_ ?_
        · rintro later jobNames ⟨quietLater, extended, created⟩
          refine ⟨quietLater, List.Subset.trans extendedNext extended, ?_⟩
          rintro _ ⟨⟩
          refine .cons ⟨job, answer, built, ?_, extended List.mem_cons_self, ?_⟩ (created _ rfl)
          · have named := buildRunnerJob_name built
            cases name : job.metadata.name with
            | some jobName => rfl
            | none =>
              rw [name] at named
              simp [jobOfNode, buildRunnerJob, ← named] at built
          · cases answer with
            | ok value => trivial
            | error error => exact accepted error rfl
        · rintro later error ⟨quietLater, extended, -⟩
          exact ⟨quietLater, List.Subset.trans extendedNext extended, by simp⟩
      · rintro _ error ⟨rfl, -⟩
        exact ⟨quietNext, extendedNext, by simp⟩

theorem handlePendingPod_follows (starting : Starting experiment)
    (pod : experiment.spec.scenario.isEdgeChaos = false) (id : String)
    (identified : IsExperimentId experiment history id)
    (first : ∀ answer, ⟨.listTargetNodes (targetNamespace experiment), answer⟩ ∉ history)
    (quiet : NoWrite history) :
    (handlePendingPod crates config experiment id).Follows
      (Issued crates edgeResolver config experiment) (fun _ _ => True) history := by
  refine issue_follows quiet (.listTargetNodes starting pod first) rfl fun answer quietNext => ?_
  cases answer with
  | error error => trivial
  | ok nodes =>
    simp only [ofExcept_ok, done_bind]
    by_cases empty : nodes.isEmpty = true
    · rw [if_pos empty]
      obtain rfl := List.isEmpty_iff.mp empty
      exact patchFailed_follows _ quietNext starting.1 (.noTargetNodes pod List.mem_cons_self)
    · rw [if_neg empty]
      have nonempty : nodes ≠ [] := fun same => empty (List.isEmpty_iff.mpr same)
      have identifiedNext := identified.mono (List.subset_cons_self
        ⟨.listTargetNodes (targetNamespace experiment), .ok nodes⟩ history)
      refine (createJobs_follows starting pod id identifiedNext nodes List.mem_cons_self nodes
        (List.Subset.refl _) quietNext).bind ?_ fun _ _ _ => trivial
      rintro later jobNames ⟨quietLater, extended, created⟩
      refine now_follows quietLater starting.1.1 fun time quietNow => ?_
      refine patchStatus_follows _ quietNow ?_
      have extendedNow := List.subset_cons_self ⟨.now, time⟩ later
      refine .runningPod starting pod id ((identifiedNext.mono extended).mono extendedNow) nodes
        jobNames (extendedNow (extended List.mem_cons_self)) nonempty ?_ time List.mem_cons_self
      refine (created jobNames rfl).imp fun node jobName matched => ?_
      obtain ⟨job, answer, built, named, member, accepted⟩ := matched
      exact ⟨job, answer, built, named, extendedNow member, accepted⟩

theorem injectEdgeFault_follows (starting : Starting experiment)
    (edgeChaos : experiment.spec.scenario.isEdgeChaos = true) (id : String)
    (identified : IsExperimentId experiment history id) (edge : EdgeTarget)
    (sourceLabels : Labels)
    (checked : EdgeChecked edgeResolver experiment history edge sourceLabels)
    (quiet : NoWrite history) :
    (injectEdgeFault crates experiment edge id sourceLabels).Follows
      (Issued crates edgeResolver config experiment) (fun _ _ => True) history := by
  unfold injectEdgeFault
  cases faulted : buildFaultForScenario experiment.spec.scenario
      (experiment.spec.parameters.getD (.object [])) with
  | none => exact patchFailed_follows _ quiet starting.1 (.noFault edgeChaos faulted)
  | some fault =>
    cases named : virtualServiceName id with
    | none => trivial
    | some vsName =>
      have built : FaultBuilt experiment id edge sourceLabels (buildVirtualServiceJson
          (edgeVirtualService experiment edge vsName sourceLabels fault)) :=
        ⟨vsName, fault, named, faulted, rfl⟩
      refine issue_follows quiet (.createVirtualService starting edgeChaos id identified edge
        sourceLabels checked _ built) rfl fun answer quietNext => ?_
      refine (tolerate_follows isAlreadyExists answer).bind ?_ fun _ _ _ => trivial
      rintro _ _ ⟨rfl, accepted⟩
      refine now_follows quietNext starting.1.1 fun time quietNow => ?_
      refine patchStatus_follows _ quietNow ?_
      have extended := List.Subset.trans (List.subset_cons_self ⟨.createVirtualService
        (targetNamespace experiment) (buildVirtualServiceJson
          (edgeVirtualService experiment edge vsName sourceLabels fault)), answer⟩ history)
        (List.subset_cons_self ⟨.now, time⟩ _)
      refine .runningEdge starting edgeChaos id (identified.mono extended) edge sourceLabels
        (checked.mono extended) _ built answer (List.mem_cons_of_mem _ List.mem_cons_self) ?_ time
        List.mem_cons_self
      cases answer with
      | ok value => trivial
      | error error => exact accepted error rfl

theorem checkEdge_follows (starting : Starting experiment)
    (edgeChaos : experiment.spec.scenario.isEdgeChaos = true) (id : String)
    (identified : IsExperimentId experiment history id) (edge : EdgeTarget)
    (sourceLabels : Labels)
    (checked : EdgeChecked false experiment history edge sourceLabels)
    (quiet : NoWrite history) :
    (checkEdge crates edgeResolver experiment edge id sourceLabels).Follows
      (Issued crates edgeResolver config experiment) (fun _ _ => True) history := by
  cases edgeResolver with
  | false =>
    exact injectEdgeFault_follows starting edgeChaos id identified edge sourceLabels checked quiet
  | true =>
    refine issue_follows quiet (.resolveEdge starting edgeChaos edge checked.target) rfl
      fun answer quietNext => ?_
    cases answer with
    | error error =>
      exact patchFailed_follows _ quietNext starting.1
        (.unresolved edgeChaos edge checked.target error List.mem_cons_self)
    | ok info =>
      have extended := List.subset_cons_self ⟨.resolveEdge edge.sourceService
        edge.destinationService (targetNamespace experiment), .ok info⟩ history
      have known := checked.mono extended
      exact injectEdgeFault_follows starting edgeChaos id (identified.mono extended) edge
        sourceLabels { known with resolved := fun _ => ⟨info, List.mem_cons_self⟩ } quietNext

theorem handlePendingEdge_follows (starting : Starting experiment)
    (edgeChaos : experiment.spec.scenario.isEdgeChaos = true) (id : String)
    (identified : IsExperimentId experiment history id) (quiet : NoWrite history) :
    (handlePendingEdge crates edgeResolver experiment id).Follows
      (Issued crates edgeResolver config experiment) (fun _ _ => True) history := by
  unfold handlePendingEdge
  cases target : experiment.spec.target.bind Target.edge with
  | none => trivial
  | some edge =>
    refine issue_follows quiet (.getServiceSelector starting edgeChaos edge target) rfl
      fun answer quietNext => ?_
    cases answer with
    | error error =>
      exact patchFailed_follows _ quietNext starting.1
        (.sourceServiceNotFound edgeChaos edge target _ List.mem_cons_self (by simp))
    | ok labels =>
      by_cases empty : labels.isEmpty = true
      · simp only [if_pos empty]
        refine patchFailed_follows _ quietNext starting.1
          (.sourceServiceNotFound edgeChaos edge target _ List.mem_cons_self ?_)
        rintro _ ⟨⟩
        exact List.isEmpty_iff.mp empty
      · simp only [if_neg empty]
        refine issue_follows quietNext (.listConflicts starting edgeChaos edge target) rfl
          fun listing quietListed => ?_
        cases listing with
        | error error => trivial
        | ok services =>
          simp only [ofExcept_ok, done_bind]
          by_cases conflict : (services.any fun vs => !isChaosManaged vs.labels) = true
          · rw [if_pos conflict]
            obtain ⟨vs, member, foreign⟩ := List.any_eq_true.mp conflict
            exact patchFailed_follows _ quietListed starting.1 (.conflictingVirtualService edgeChaos
              edge target services List.mem_cons_self vs member (by simpa using foreign))
          · rw [if_neg conflict]
            refine checkEdge_follows starting edgeChaos id (identified.mono ?_) edge labels ?_
              quietListed
            · exact List.Subset.trans (List.subset_cons_self _ _) (List.subset_cons_self _ _)
            · refine ⟨target, List.mem_cons_of_mem _ List.mem_cons_self,
                fun same => empty (List.isEmpty_iff.mpr same),
                ⟨services, List.mem_cons_self, fun vs member => ?_⟩, by simp⟩
              refine Bool.eq_true_of_not_eq_false fun foreign => conflict ?_
              exact List.any_eq_true.mpr ⟨vs, member, by simpa using foreign⟩

theorem handlePending_follows (pending : Pending experiment)
    (first : ∀ answer, ⟨.listTargetNodes (targetNamespace experiment), answer⟩ ∉ history)
    (quiet : NoWrite history) :
    (handlePending crates edgeResolver config experiment).Follows
      (Issued crates edgeResolver config experiment) (fun _ _ => True) history := by
  unfold handlePending
  cases valid : validateExperiment experiment.spec with
  | error error => exact patchFailed_follows _ quiet pending (.invalid error valid)
  | ok value =>
    have starting : Starting experiment := ⟨pending, valid⟩
    have dispatch (id : String) (later : History) (quietLater : NoWrite later)
        (firstLater : ∀ answer,
          ⟨.listTargetNodes (targetNamespace experiment), answer⟩ ∉ later)
        (identified : IsExperimentId experiment later id) :
        (if experiment.spec.scenario.isEdgeChaos = true then
          handlePendingEdge crates edgeResolver experiment id
        else handlePendingPod crates config experiment id).Follows
          (Issued crates edgeResolver config experiment) (fun _ _ => True) later := by
      by_cases edgeChaos : experiment.spec.scenario.isEdgeChaos = true
      · rw [if_pos edgeChaos]
        exact handlePendingEdge_follows starting edgeChaos id identified quietLater
      · rw [if_neg edgeChaos]
        exact handlePendingPod_follows starting (by simpa using edgeChaos) id identified firstLater
          quietLater
    cases recorded : (statusOf experiment).experimentId with
    | some id =>
      simp only [experimentIdOf, recorded, pure_eq, done_bind]
      exact dispatch id history quiet first (Or.inl recorded)
    | none =>
      cases uid : experiment.metadata.uid with
      | some uid' =>
        simp only [experimentIdOf, recorded, uid, pure_eq, done_bind]
        exact dispatch uid' history quiet first (Or.inr ⟨recorded, Or.inl uid⟩)
      | none =>
        simp only [experimentIdOf, recorded, uid]
        refine issue_follows quiet (.newExperimentId starting ⟨recorded, uid⟩) rfl
          fun id quietNext => ?_
        refine dispatch id _ quietNext (fun answer member => ?_)
          (Or.inr ⟨recorded, Or.inr ⟨uid, List.mem_cons_self⟩⟩)
        rcases List.mem_cons.mp member with same | member
        · cases same
        · exact first answer member

/-! ### Running, terminal, deletion -/

theorem complete_follows (active : Active experiment)
    (running : (statusOf experiment).phase = .running) (phase : Phase)
    (terminal : phase.isTerminal = true) (message : String) (quiet : NoWrite history) :
    (complete crates (expNamespace experiment) (expName experiment) (statusOf experiment) phase
      message).Follows (Issued crates edgeResolver config experiment) (fun _ _ => True)
      history := by
  refine now_follows quiet active fun time quietNow => ?_
  exact patchStatus_follows _ quietNow
    (.completed active running phase terminal message time List.mem_cons_self)

theorem isDurationElapsed_follows (active : Active experiment) (startedAt : String)
    (durationSecs : UInt64) (quiet : NoWrite history) :
    (isDurationElapsed crates startedAt durationSecs).Follows
      (Issued crates edgeResolver config experiment) (fun later _ => NoWrite later) history := by
  unfold isDurationElapsed
  cases crates.parseFromRfc3339 startedAt with
  | none => exact quiet
  | some start => exact issue_follows quiet (.now active) rfl fun _ quietNow => quietNow

theorem completeIfElapsed_follows (active : Active experiment)
    (running : (statusOf experiment).phase = .running) (message : String)
    (quiet : NoWrite history) :
    (completeIfElapsed crates (expNamespace experiment) (expName experiment)
      (statusOf experiment) experiment.spec.duration message).Follows
      (Issued crates edgeResolver config experiment) (fun _ _ => True) history := by
  unfold completeIfElapsed
  cases started : (statusOf experiment).startedAt with
  | none => trivial
  | some startedAt =>
    refine (isDurationElapsed_follows active startedAt _ quiet).bind ?_ fun _ _ _ => trivial
    intro later elapsed quietLater
    cases elapsed with
    | true => exact complete_follows active running .succeeded rfl message quietLater
    | false => trivial

theorem handleRunning_follows (active : Active experiment)
    (running : (statusOf experiment).phase = .running) (quiet : NoWrite history) :
    (handleRunning crates experiment).Follows (Issued crates edgeResolver config experiment)
      (fun _ _ => True) history := by
  unfold handleRunning
  by_cases edgeChaos : experiment.spec.scenario.isEdgeChaos = true
  · rw [if_pos edgeChaos]
    exact completeIfElapsed_follows active running _ quiet
  · rw [if_neg edgeChaos]
    refine issue_follows quiet (.listJobs active running (by simpa using edgeChaos)) rfl
      fun answer quietNext => ?_
    cases answer with
    | error error => trivial
    | ok jobs =>
      show Follows _ _ (if _ then _ else if _ then _ else _) _
      split
      · exact complete_follows active running .failed rfl _ quietNext
      · split
        · exact complete_follows active running .succeeded rfl _ quietNext
        · exact completeIfElapsed_follows active running _ quietNext

theorem handleTerminal_follows (active : Active experiment)
    (terminal : (statusOf experiment).phase.isTerminal = true) (quiet : NoWrite history) :
    (handleTerminal experiment).Follows (Issued crates edgeResolver config experiment)
      (fun _ _ => True) history := by
  unfold handleTerminal
  by_cases clean : (statusOf experiment).cleanupDone = true
  · rw [if_pos clean]
    trivial
  · rw [if_neg clean]
    have unclean : (statusOf experiment).cleanupDone = false := by simpa using clean
    have cleans : CleansUp experiment := Or.inr ⟨active, terminal, unclean⟩
    refine (deleteJobs_follows cleans _ (fun _ member => member) quiet).bind ?_
      fun _ _ _ => trivial
    rintro later - ⟨quietLater, -, tried⟩
    by_cases edgeChaos : experiment.spec.scenario.isEdgeChaos = true
    · rw [if_pos edgeChaos]
      refine (attemptCleanup_follows cleans edgeChaos quietLater).bind ?_ ?_
      · rintro latest outcome ⟨_, ⟨⟩, quietLatest, extended, known⟩
        cases outcome with
        | error error => trivial
        | ok value =>
          refine patchStatus_follows _ quietLatest (.cleaned active terminal unclean ?_ ?_)
          · intro job member
            obtain ⟨answer, asked⟩ := tried job member
            exact ⟨answer, extended asked⟩
          · exact fun _ => known
      · rintro _ error ⟨outcome, ⟨⟩, -⟩
    · rw [if_neg edgeChaos]
      exact patchStatus_follows _ quietLater (.cleaned active terminal unclean tried
        fun same => absurd same edgeChaos)

theorem handleDeletion_follows (deleting : Deleting experiment) (quiet : NoWrite history) :
    (handleDeletion experiment).Follows (Issued crates edgeResolver config experiment)
      (fun _ _ => True) history := by
  unfold handleDeletion
  have cleans : CleansUp experiment := Or.inl deleting
  have release {later : History} (quietLater : NoWrite later) (tried : JobsTried experiment later)
      (services : experiment.spec.scenario.isEdgeChaos = true →
        CleanupDone (targetNamespace experiment) (expName experiment) later ∨
          CleanupFailed (targetNamespace experiment) later) :
      (call (.removeFinalizer (expNamespace experiment) (expName experiment)) >>=
        Program.ofExcept : Handler Unit).Follows (Issued crates edgeResolver config experiment)
        (fun _ _ => True) later := by
    refine issue_follows quietLater (.removeFinalizer deleting tried services) rfl
      fun answer _ => ?_
    cases answer <;> trivial
  refine (deleteJobs_follows cleans _ (fun _ member => member) quiet).bind ?_
    fun _ _ _ => trivial
  rintro later - ⟨quietLater, -, tried⟩
  by_cases edgeChaos : experiment.spec.scenario.isEdgeChaos = true
  · rw [if_pos edgeChaos]
    refine (attemptCleanup_follows cleans edgeChaos quietLater).bind ?_ ?_
    · rintro latest outcome ⟨_, ⟨⟩, quietLatest, extended, known⟩
      refine release quietLatest ?_ fun _ => ?_
      · intro job member
        obtain ⟨answer, asked⟩ := tried job member
        exact ⟨answer, extended asked⟩
      · cases outcome with
        | error error => exact Or.inr known
        | ok value => exact Or.inl known
    · rintro _ error ⟨outcome, ⟨⟩, -⟩
  · rw [if_neg edgeChaos]
    exact release quietLater tried fun same => absurd same edgeChaos

/-! ### The pass -/

variable (crates edgeResolver config experiment) in
/-- Every call of a pass is one of `Issues`, and a status write is the last call. -/
theorem reconcile_follows :
    (reconcile crates edgeResolver config experiment).Follows
      (Issued crates edgeResolver config experiment) (fun _ _ => True) [] := by
  have quiet : NoWrite [] := noWrite_nil
  unfold reconcile
  by_cases missing : needsFinalizer experiment = true
  · rw [if_pos missing]
    refine issue_follows quiet (.addFinalizer missing) rfl fun answer _ => ?_
    cases answer <;> trivial
  · rw [if_neg missing]
    have present : needsFinalizer experiment = false := by simpa using missing
    by_cases deleted : isBeingDeleted experiment = true
    · rw [if_pos deleted]
      refine (handleDeletion_follows ⟨present, deleted⟩ quiet).bind ?_ ?_ <;> intros <;> trivial
    · rw [if_neg deleted]
      have active : Active experiment := ⟨present, by simpa using deleted⟩
      dsimp only
      cases phase : (statusOf experiment).phase with
      | pending =>
        refine (handlePending_follows ⟨active, phase⟩ (by simp) quiet).bind ?_ ?_ <;> intros <;>
          trivial
      | running =>
        refine (handleRunning_follows active phase quiet).bind ?_ ?_ <;> intros <;> trivial
      | succeeded | failed =>
        refine (handleTerminal_follows active (by rw [phase]; rfl) quiet).bind ?_ ?_
        · intro _ _ _
          cases (statusOf experiment).cleanupDone <;> trivial
        · intros
          trivial

end Follows

end ChimpChaos
