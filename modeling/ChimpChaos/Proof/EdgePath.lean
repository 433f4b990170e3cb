/-
This file follows the edge path of a pending pass: from the selector of the source service over
the checks to the VirtualService.

A pass asks for the selector once, so all that it does with a selector it does with the one it
was told. And whenever the snapshot allows it, some run gets through to the creation.
-/

import ChimpChaos.Cluster.Pass

namespace ChimpChaos

open Library Program

/-! ### The selector is asked for once -/

def ApiCall.asksSelector : ApiCall → Bool
  | .getServiceSelector .. => true
  | _ => false

/-- A selector is only asked for when none has been before. -/
def AsksSelectorOnce (history : History) (request : ApiCall) : Prop :=
  request.asksSelector = true → ∀ exchange ∈ history, exchange.1.asksSelector = false

section Selector

variable {deployment : Deployment} {experiment : ChaosExperiment}

theorem asksSelectorOnce_of_other {history : History} {request : ApiCall}
    (other : request.asksSelector = false) : AsksSelectorOnce history request := by
  intro asked
  rw [other] at asked
  cases asked

theorem patchFailed_asksSelectorOnce (history : History) (ns name message : String) :
    (patchFailed ns name message).Follows AsksSelectorOnce (fun _ _ => True) history := by
  refine ⟨asksSelectorOnce_of_other rfl, fun answer => ?_⟩
  cases answer <;> trivial

theorem injectEdgeFault_asksSelectorOnce (crates : Crates) (history : History) (edge : EdgeTarget)
    (experimentId : String) (sourceLabels : Labels) :
    (injectEdgeFault crates experiment edge experimentId sourceLabels).Follows AsksSelectorOnce
      (fun _ _ => True) history := by
  unfold injectEdgeFault
  cases buildFaultForScenario experiment.spec.scenario
      (experiment.spec.parameters.getD (.object [])) with
  | none => exact patchFailed_asksSelectorOnce history _ _ _
  | some fault =>
    cases virtualServiceName experimentId with
    | none => trivial
    | some vsName =>
      refine ⟨asksSelectorOnce_of_other rfl, fun created => ?_⟩
      refine (tolerate_follows isAlreadyExists created).bind ?_ fun _ _ _ => trivial
      intro later _ _
      refine ⟨asksSelectorOnce_of_other rfl, fun time => ?_⟩
      refine ⟨asksSelectorOnce_of_other rfl, fun answer => ?_⟩
      cases answer <;> trivial

theorem checkEdge_asksSelectorOnce (crates : Crates) (edgeResolver : Bool) (history : History)
    (edge : EdgeTarget) (experimentId : String) (sourceLabels : Labels) :
    (checkEdge crates edgeResolver experiment edge experimentId sourceLabels).Follows
      AsksSelectorOnce (fun _ _ => True) history := by
  unfold checkEdge
  split_ifs
  · refine ⟨asksSelectorOnce_of_other rfl, fun resolved => ?_⟩
    cases resolved with
    | error error => exact patchFailed_asksSelectorOnce _ _ _ _
    | ok info => exact injectEdgeFault_asksSelectorOnce _ _ _ _ _
  · exact injectEdgeFault_asksSelectorOnce _ _ _ _ _

theorem handlePendingEdge_asksSelectorOnce (crates : Crates) (edgeResolver : Bool)
    (experimentId : String) {history : History}
    (unasked : ∀ exchange ∈ history, exchange.1.asksSelector = false) :
    (handlePendingEdge crates edgeResolver experiment experimentId).Follows AsksSelectorOnce
      (fun _ _ => True) history := by
  unfold handlePendingEdge
  cases experiment.spec.target.bind Target.edge with
  | none => trivial
  | some edge =>
    refine ⟨fun _ => unasked, fun selector => ?_⟩
    cases selector with
    | error error => exact patchFailed_asksSelectorOnce _ _ _ _
    | ok labels =>
      show Follows _ _ (if labels.isEmpty then _ else _) _
      split
      · exact patchFailed_asksSelectorOnce _ _ _ _
      · refine ⟨asksSelectorOnce_of_other rfl, fun listed => ?_⟩
        cases listed with
        | error error => trivial
        | ok services =>
          show Follows _ _ (if _ then _ else _) _
          split
          · exact patchFailed_asksSelectorOnce _ _ _ _
          · exact checkEdge_asksSelectorOnce _ _ _ _ _ _

theorem pass_asksSelectorOnce (starting : Starting experiment)
    (edgeChaos : experiment.spec.scenario.isEdgeChaos = true) :
    (deployment.pass experiment).Follows AsksSelectorOnce (fun _ _ => True) [] := by
  have handled (id : String) {history : History}
      (unasked : ∀ exchange ∈ history, exchange.1.asksSelector = false) :
      (handlePendingEdge deployment.crates deployment.edgeResolver experiment id >>= fun _ =>
        .done (ReconcileResult.requeue (requeueDuration .running))).Follows AsksSelectorOnce
        (fun _ _ => True) history :=
    (handlePendingEdge_asksSelectorOnce _ _ id unasked).bind (fun _ _ _ => trivial)
      fun _ _ _ => trivial
  rw [Deployment.pass_pendingEdge starting edgeChaos]
  unfold experimentIdOf
  cases (statusOf experiment).experimentId with
  | some id => exact handled id (by simp)
  | none =>
    cases experiment.metadata.uid with
    | some uid => exact handled uid (by simp)
    | none =>
      refine ⟨asksSelectorOnce_of_other rfl, fun id => handled id ?_⟩
      simp [ApiCall.asksSelector]

/-- A run of a pass is told one selector at most. -/
theorem selector_unique {State : Type}
    {step : (request : ApiCall) → State → Answer request → State → Prop} {state final : State}
    {trace : History} {rest : Handler ReconcileResult} (starting : Starting experiment)
    (edgeChaos : experiment.spec.scenario.isEdgeChaos = true)
    (reaches : Reaches step (deployment.pass experiment) state trace rest final)
    {first second : Exchange ApiCall Answer} (firstMember : first ∈ trace)
    (secondMember : second ∈ trace) (firstAsks : first.1.asksSelector = true)
    (secondAsks : second.1.asksSelector = true) : first = second := by
  let Keeps (history : History) (_ : State) : Prop :=
    ∀ first ∈ history, ∀ second ∈ history, first.1.asksSelector = true →
      second.1.asksSelector = true → first = second
  have kept : Keeps (trace.reverse ++ []) final := by
    refine (reaches.invariant ?_ (pass_asksSelectorOnce starting edgeChaos) (by simp [Keeps])).1
    intro earlier request before answer after unique once _ first firstMember second secondMember
      firstAsks secondAsks
    have fresh {other : Exchange ApiCall Answer} (member : other ∈ earlier)
        (asks : request.asksSelector = true) (otherAsks : other.1.asksSelector = true) : False := by
      rw [once asks other member] at otherAsks
      cases otherAsks
    rcases List.mem_cons.mp firstMember with rfl | firstEarlier <;>
      rcases List.mem_cons.mp secondMember with rfl | secondEarlier
    · rfl
    · exact (fresh secondEarlier firstAsks secondAsks).elim
    · exact (fresh firstEarlier secondAsks firstAsks).elim
    · exact unique first firstEarlier second secondEarlier firstAsks secondAsks
  rw [List.append_nil] at kept
  exact kept first (List.mem_reverse.mpr firstMember) second (List.mem_reverse.mpr secondMember)
    firstAsks secondAsks

end Selector

/-! ### A run that gets through -/

/-- Every call may be answered by anything, except that edges are resolved by a function. -/
def ResolvedBy (resolve : String → String → String → Except OperatorError EdgeInfo) :
    (request : ApiCall) → Unit → Answer request → Unit → Prop
  | .resolveEdge source destination ns, _, answer, _ => answer = resolve source destination ns
  | _, _, _, _ => True

/-- The identifier that is known for an experiment, the empty one when there is none. -/
def knownId (experiment : ChaosExperiment) : String :=
  ((statusOf experiment).experimentId.or experiment.metadata.uid).getD ""

/-- A snapshot from which a VirtualService can be built. -/
structure Injectable (experiment : ChaosExperiment) (edge : EdgeTarget) (vsName : String)
    (fault : Json) : Prop where
  starting : Starting experiment
  edgeChaos : experiment.spec.scenario.isEdgeChaos = true
  target : experiment.spec.target.bind Target.edge = some edge
  named : virtualServiceName (knownId experiment) = some vsName
  buildable : buildFaultForScenario experiment.spec.scenario
    (experiment.spec.parameters.getD (.object [])) = some fault

/-- Whatever a pass has asked for, it could be built from the snapshot. -/
theorem Injectable.of_asked {crates : Crates} {edgeResolver : Bool} {config : ReconcilerConfig}
    {experiment : ChaosExperiment} {history : History} {ns id : String} {document : Json}
    {edge : EdgeTarget} {sourceLabels : Labels}
    (issues : Issues crates edgeResolver config experiment history
      (.createVirtualService ns document))
    (identified : IsExperimentId experiment history id)
    (target : experiment.spec.target.bind Target.edge = some edge)
    (built : FaultBuilt experiment id edge sourceLabels document) :
    ∃ vsName fault, Injectable experiment edge vsName fault := by
  have service := issues.serviceAsked
  obtain ⟨vsName, fault, named, buildable, -⟩ := built.built
  have known : ∃ vsName, virtualServiceName (knownId experiment) = some vsName := by
    unfold knownId
    rcases identified with recorded | ⟨unset, uid | ⟨anonymous, -⟩⟩
    · rw [recorded]
      exact ⟨vsName, named⟩
    · rw [unset, uid]
      exact ⟨vsName, named⟩
    · rw [unset, anonymous]
      exact ⟨"chaos-edge-", by decide +kernel⟩
  obtain ⟨name, isName⟩ := known
  exact ⟨name, fault, service.starting, service.edgeChaos, target, isName, buildable⟩

section Injection

variable {experiment : ChaosExperiment} {edge : EdgeTarget} {vsName : String} {fault : Json}
  {resolve : String → String → String → Except OperatorError EdgeInfo}

theorem reaches_call {request : ApiCall} {next : Answer request → Handler ReconcileResult}
    {answer : Answer request} {trace : History} {rest : Handler ReconcileResult}
    (allowed : ResolvedBy resolve request () answer ())
    (reaches : Reaches (ResolvedBy resolve) (next answer) () trace rest ()) :
    Reaches (ResolvedBy resolve) (.call request next) () (⟨request, answer⟩ :: trace) rest () :=
  .call allowed reaches

/-- A run that has got as far as asking for the VirtualService. -/
def AsksFor (resolve : String → String → String → Except OperatorError EdgeInfo)
    (experiment : ChaosExperiment) (edge : EdgeTarget) (vsName : String) (fault : Json)
    (labels : Labels) (program : Handler ReconcileResult) : Prop :=
  ∃ trace rest, Reaches (ResolvedBy resolve) program () trace rest () ∧
    ⟨.createVirtualService (targetNamespace experiment) (buildVirtualServiceJson
      (edgeVirtualService experiment edge vsName labels fault)), .ok ()⟩ ∈ trace

theorem injectEdgeFault_asksFor (injectable : Injectable experiment edge vsName fault)
    (crates : Crates) (labels : Labels) {id : String} (named : virtualServiceName id = some vsName)
    (continuation : Unit → Handler ReconcileResult) :
    AsksFor resolve experiment edge vsName fault labels
      (injectEdgeFault crates experiment edge id labels >>= continuation) := by
  simp only [injectEdgeFault, injectable.buildable, named]
  exact ⟨_, _, .call trivial (.stop _ _), List.mem_cons_self⟩

theorem checkEdge_asksFor (injectable : Injectable experiment edge vsName fault)
    (crates : Crates) {edgeResolver : Bool} (resolved : edgeResolver = true → ∃ info,
      resolve edge.sourceService edge.destinationService (targetNamespace experiment) = .ok info)
    (labels : Labels) {id : String} (named : virtualServiceName id = some vsName)
    (continuation : Unit → Handler ReconcileResult) :
    AsksFor resolve experiment edge vsName fault labels
      (checkEdge crates edgeResolver experiment edge id labels >>= continuation) := by
  unfold checkEdge
  cases edgeResolver with
  | false => exact injectEdgeFault_asksFor injectable crates labels named continuation
  | true =>
    obtain ⟨info, known⟩ := resolved rfl
    have injected : AsksFor resolve experiment edge vsName fault labels _ :=
      injectEdgeFault_asksFor injectable crates labels named continuation
    obtain ⟨trace, rest, reaches, member⟩ := injected
    exact ⟨_, rest, .call known.symm reaches, List.mem_cons_of_mem _ member⟩

/-- From a snapshot that allows it, and a resolver that knows the edge, some run asks for the
VirtualService with the labels it was told. -/
theorem Injectable.exists_run (injectable : Injectable experiment edge vsName fault)
    (deployment : Deployment)
    (resolve : String → String → String → Except OperatorError EdgeInfo)
    (resolved : deployment.edgeResolver = true → ∃ info, resolve edge.sourceService
      edge.destinationService (targetNamespace experiment) = .ok info)
    (labels : Labels) (labelled : labels ≠ []) :
    ∃ trace rest, Reaches (ResolvedBy resolve) (deployment.pass experiment) () trace rest () ∧
      ⟨.getServiceSelector (targetNamespace experiment) edge.sourceService, .ok labels⟩ ∈ trace ∧
      ⟨.createVirtualService (targetNamespace experiment) (buildVirtualServiceJson
        (edgeVirtualService experiment edge vsName labels fault)), .ok ()⟩ ∈ trace := by
  have handled (id : String) (named : virtualServiceName id = some vsName) :
      ∃ trace rest, Reaches (ResolvedBy resolve)
          (handlePendingEdge deployment.crates deployment.edgeResolver experiment id >>= fun _ =>
            (.done (.requeue (requeueDuration .running)) : Handler ReconcileResult)) () trace rest
          () ∧
        ⟨.getServiceSelector (targetNamespace experiment) edge.sourceService, .ok labels⟩ ∈
          trace ∧
        ⟨.createVirtualService (targetNamespace experiment) (buildVirtualServiceJson
          (edgeVirtualService experiment edge vsName labels fault)), .ok ()⟩ ∈ trace := by
    obtain ⟨trace, rest, reaches, member⟩ := checkEdge_asksFor injectable deployment.crates
      resolved labels named fun _ => .done (.requeue (requeueDuration .running))
    let selected : Exchange ApiCall Answer :=
      ⟨.getServiceSelector (targetNamespace experiment) edge.sourceService, .ok labels⟩
    let listed : Exchange ApiCall Answer :=
      ⟨.listVirtualServicesForHost (targetNamespace experiment)
        (fqdn edge.destinationService (targetNamespace experiment)), .ok []⟩
    have whole : Reaches (ResolvedBy resolve)
        (handlePendingEdge deployment.crates deployment.edgeResolver experiment id >>= fun _ =>
          .done (.requeue (requeueDuration .running))) ()
        (selected :: listed :: trace) rest () := by
      simp only [handlePendingEdge, injectable.target]
      refine reaches_call trivial ?_
      show Reaches _ ((if labels.isEmpty = true then _ else _) >>= _) _ _ _ _
      rw [if_neg (by simpa using labelled)]
      exact reaches_call trivial reaches
    exact ⟨_, rest, whole, List.mem_cons_self,
      List.mem_cons_of_mem _ (List.mem_cons_of_mem _ member)⟩
  rw [Deployment.pass_pendingEdge injectable.starting injectable.edgeChaos]
  have named := injectable.named
  unfold knownId at named
  unfold experimentIdOf
  cases recorded : (statusOf experiment).experimentId with
  | some id =>
    rw [recorded] at named
    exact handled id named
  | none =>
    rw [recorded] at named
    cases known : experiment.metadata.uid with
    | some uid =>
      rw [known] at named
      exact handled uid named
    | none =>
      rw [known] at named
      obtain ⟨trace, rest, reaches, selected, created⟩ := handled "" named
      exact ⟨_, rest, .call trivial reaches, List.mem_cons_of_mem ⟨.newExperimentId, ""⟩ selected,
        List.mem_cons_of_mem _ created⟩

end Injection

/-- The sample edge experiment, pending. -/
def pendingEdge : ChaosExperiment := freshSnapshot sampleKey sampleEdge

theorem pendingEdge_injectable :
    Injectable pendingEdge ⟨"payment", "ledger"⟩ "chaos-edge-0b8f5c1e"
      (buildEdgeDelayFault 200) where
  starting := ⟨⟨⟨by decide +kernel, rfl⟩, rfl⟩, rfl⟩
  edgeChaos := rfl
  target := rfl
  named := by decide +kernel
  buildable := rfl

end ChimpChaos
