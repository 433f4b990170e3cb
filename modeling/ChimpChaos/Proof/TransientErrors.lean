/-
This file settles whether an error that may pass can fail a pending experiment for good.

Most calls of a pending pass hand their errors on: the pass fails and the stored status stays
what it was. But the lookup of the source service takes every error for a missing service, and
the edge check takes a query that failed for an edge that is not there. `Failed` is final, so
these two lose the experiment. They are the only ones: when the lookup fails with 404 alone and
the query of the graph is answered, the pass fails experiments for definitive reasons only.
-/

import ChimpChaos.Library.Text
import ChimpChaos.Operator.GraphBuilder
import ChimpChaos.Proof.FailedPasses
import ChimpChaos.Proof.Rejections

namespace ChimpChaos

open Library Program

/-! ### Errors -/

/-- An error of the transport or of a server: any of Kubernetes but 404 and 409, and any of
Prometheus. -/
def isTransient : OperatorError → Bool
  | .kube (.api code _) => code != 404 && code != 409
  | .kube (.other _) => true
  | .prometheus _ => true
  | _ => false

theorem not_alreadyExists_of_transient {error : OperatorError}
    (transient : isTransient error = true) : isAlreadyExists error = false := by
  cases error with
  | kube kubeError =>
    cases kubeError with
    | api code text =>
      simp only [isTransient, Bool.and_eq_true, bne_iff_ne] at transient
      simpa [isAlreadyExists] using transient.2
    | other text => rfl
  | _ => rfl

theorem not_transient_of_notFound {error : OperatorError} (missing : isNotFound error = true) :
    isTransient error = false := by
  cases error with
  | kube kubeError =>
    cases kubeError with
    | api code text =>
      have same : code = 404 := by simpa [isNotFound] using missing
      simp [isTransient, same]
    | other text => cases missing
  | _ => cases missing

/-! ### Edges resolved by the graph builder -/

section Graph

variable (parseF64 : String → Option F64) (graph : GraphBuilderConfig)

/-- An edge is resolved by the graph builder, from the answer to its query. The Prometheus client
has errors of its own kind only. -/
def ResolvedByGraph : (request : ApiCall) → Answer request → Prop
  | .resolveEdge source destination ns, answer => ∃ query,
    (∀ text error, query text = .error error → ∃ message, error = .prometheus message) ∧
      answer = resolveEdge parseF64 graph query source destination ns
  | _, _ => True

/-- The service of a pass whose edges are resolved by the graph builder. A failing call changes
nothing. -/
def GraphService : Service := fun experiment request before answer after =>
  RefusesOrWorks (actorOf experiment) request before answer after ∧
    ResolvedByGraph parseF64 graph request answer

/-! ### Definitive reasons -/

/-- The reasons for which an experiment may be failed for good, with their messages. -/
inductive DefinitiveReason (experiment : ChaosExperiment) (history : History) : String → Prop
  | invalidSpec (error : ValidationError)
      (refused : validateExperiment experiment.spec = .error error) :
      DefinitiveReason experiment history error.toString
  | noTargetNodes (listed : ⟨.listTargetNodes (targetNamespace experiment), .ok []⟩ ∈ history) :
      DefinitiveReason experiment history ValidationError.noTargetNodes.toString
  | sourceServiceMissing (edge : EdgeTarget)
      (target : experiment.spec.target.bind Target.edge = some edge) (error : OperatorError)
      (missing : isNotFound error = true)
      (asked : ⟨.getServiceSelector (targetNamespace experiment) edge.sourceService,
        .error error⟩ ∈ history) :
      DefinitiveReason experiment history
        (ValidationError.sourceServiceNotFound edge.sourceService).toString
  | noSelector (edge : EdgeTarget)
      (target : experiment.spec.target.bind Target.edge = some edge)
      (asked : ⟨.getServiceSelector (targetNamespace experiment) edge.sourceService, .ok []⟩ ∈
        history) :
      DefinitiveReason experiment history
        (ValidationError.sourceServiceNotFound edge.sourceService).toString
  | conflict (edge : EdgeTarget)
      (target : experiment.spec.target.bind Target.edge = some edge)
      (services : List VirtualServiceInfo)
      (listed : ⟨.listVirtualServicesForHost (targetNamespace experiment)
        (fqdn edge.destinationService (targetNamespace experiment)), .ok services⟩ ∈ history)
      (vs : VirtualServiceInfo) (member : vs ∈ services)
      (foreign : isChaosManaged vs.labels = false) :
      DefinitiveReason experiment history (ValidationError.conflictingVirtualService
        (fqdn edge.destinationService (targetNamespace experiment))).toString
  | edgeRefused (edge : EdgeTarget)
      (target : experiment.spec.target.bind Target.edge = some edge) (error : OperatorError)
      (asked : ⟨.resolveEdge edge.sourceService edge.destinationService
        (targetNamespace experiment), .error error⟩ ∈ history)
      (metrics : List PrometheusMetric)
      (refused : findEdge parseF64 graph metrics edge.sourceService edge.destinationService
        (targetNamespace experiment) = .error error) :
      DefinitiveReason experiment history error.toString
  | noFault (unbuildable : buildFaultForScenario experiment.spec.scenario
      (experiment.spec.parameters.getD (.object [])) = none) :
      DefinitiveReason experiment history "cannot build fault for scenario"

/-- A pass fails its experiment for definitive reasons only, and after an error that may pass it
fails and leaves the stored status alone. -/
structure FailsDefinitively (experiment : ChaosExperiment) (before after : Cluster)
    (trace : History) (rest : Handler ReconcileResult) : Prop where
  definitive : ∀ ns name status told, ⟨.patchExperimentStatus ns name status, told⟩ ∈ trace →
    status.phase = .failed → ∃ message, status.message = some message ∧
      DefinitiveReason parseF64 graph experiment trace message
  retried : ∀ request answer error, ⟨request, answer⟩ ∈ trace →
    refusal error request = some answer → isTransient error = true →
    (∃ failure, rest = .fail failure) ∧ after.experiments = before.experiments

/-- The lookup of the source service fails with 404 only, and the query of the graph does not
fail. -/
structure PreflightAnswered (trace : History) : Prop where
  selector : ∀ ns service error, ⟨.getServiceSelector ns service, .error error⟩ ∈ trace →
    isNotFound error = true
  query : ∀ source destination ns error,
    ⟨.resolveEdge source destination ns, .error error⟩ ∈ trace →
    ∀ message, error ≠ .prometheus message

end Graph

section Reasons

variable {parseF64 : String → Option F64} {graph : GraphBuilderConfig}

/-! ### Which reason a message stands for -/

/-- The graph builder refuses an edge for a validation error. -/
theorem findEdge_error {metrics : List PrometheusMetric} {source destination ns : String}
    {error : OperatorError}
    (refused : findEdge parseF64 graph metrics source destination ns = .error error) :
    ∃ invalid, error = .validation invalid := by
  unfold findEdge at refused
  cases found : metrics.find? (isEdgeSeries source destination ns) with
  | none =>
    rw [found] at refused
    exact ⟨_, (Except.error.inj refused).symm⟩
  | some series =>
    rw [found] at refused
    simp only at refused
    split_ifs at refused
    exact ⟨_, (Except.error.inj refused).symm⟩

/-- An edge is refused because the query failed, or in an answered query. -/
theorem ResolvedByGraph.refused {source destination ns : String} {error : OperatorError}
    (resolved : ResolvedByGraph parseF64 graph (.resolveEdge source destination ns)
      (.error error)) :
    (∃ message, error = .prometheus message) ∨
      ∃ metrics, findEdge parseF64 graph metrics source destination ns = .error error := by
  obtain ⟨query, own, told⟩ := resolved
  unfold resolveEdge at told
  cases queried : query (buildEdgesQuery graph.lookback) with
  | error failure =>
    rw [queried] at told
    obtain rfl := Except.error.inj told
    exact Or.inl (own _ _ queried)
  | ok metrics =>
    rw [queried] at told
    exact Or.inr ⟨metrics, told.symm⟩

/-- A reason given for a source service is that it is missing or has no selector. -/
theorem DefinitiveReason.sourceService {experiment : ChaosExperiment} {history : History}
    {service message : String} (reason : DefinitiveReason parseF64 graph experiment history message)
    (starting : Starting experiment)
    (same : message = (ValidationError.sourceServiceNotFound service).toString) :
    ∃ ns name answer, ⟨.getServiceSelector ns name, answer⟩ ∈ history ∧
      ∀ error, answer = .error error → isNotFound error = true := by
  cases reason with
  | invalidSpec error refused => exact absurd (starting.2.symm.trans refused) (by simp)
  | noTargetNodes =>
    exact absurd same (ne_append_of_clash "no target nodes found" (by decide) service)
  | sourceServiceMissing edge target error missing asked =>
    exact ⟨_, _, _, asked, fun other told => by rw [← Except.error.inj told]; exact missing⟩
  | noSelector edge target asked => exact ⟨_, _, _, asked, fun other told => by cases told⟩
  | conflict => exact absurd same (append_ne_of_clash (by decide) _ service)
  | edgeRefused edge target error =>
    cases error <;> exact absurd same (append_ne_of_clash (by decide) _ service)
  | noFault =>
    exact absurd same (ne_append_of_clash "cannot build fault for scenario" (by decide) service)

/-- An error of Prometheus is never a definitive reason. -/
theorem DefinitiveReason.not_prometheus {experiment : ChaosExperiment} {history : History}
    {text message : String} (reason : DefinitiveReason parseF64 graph experiment history message)
    (starting : Starting experiment) : message ≠ (OperatorError.prometheus text).toString := by
  cases reason with
  | invalidSpec error refused => exact absurd (starting.2.symm.trans refused) (by simp)
  | noTargetNodes => exact ne_append_of_clash "no target nodes found" (by decide) text
  | sourceServiceMissing | noSelector | conflict => exact append_ne_of_clash (by decide) _ text
  | edgeRefused edge target error asked metrics refused =>
    obtain ⟨invalid, rfl⟩ := findEdge_error refused
    exact append_ne_of_clash (by decide) _ text
  | noFault =>
    exact ne_append_of_clash "cannot build fault for scenario" (by decide) text

end Reasons

/-! ### Passes -/

section Passes

variable {deployment : Deployment} {experiment : ChaosExperiment} {parseF64 : String → Option F64}
  {graph : GraphBuilderConfig} {before after : Cluster} {trace : History}
  {rest : Handler ReconcileResult}

/-- A reason for which a pass fails its experiment is definitive when its preflight calls are
answered. -/
theorem FailureReason.definitive {history : History} {message : String}
    (reason : FailureReason experiment history message) (known : history ⊆ trace)
    (answered : PreflightAnswered trace)
    (resolved : ∀ source destination ns answer, ⟨.resolveEdge source destination ns, answer⟩ ∈
      trace → ResolvedByGraph parseF64 graph (.resolveEdge source destination ns) answer) :
    DefinitiveReason parseF64 graph experiment trace message := by
  cases reason with
  | invalid error refused => exact .invalidSpec error refused
  | noTargetNodes pod listed => exact .noTargetNodes (known listed)
  | sourceServiceNotFound edgeChaos edge target answer asked unusable =>
    cases answer with
    | error error =>
      have missing := answered.selector _ _ error (known asked)
      exact .sourceServiceMissing edge target error missing (known asked)
    | ok labels =>
      obtain rfl := unusable labels rfl
      exact .noSelector edge target (known asked)
  | conflictingVirtualService edgeChaos edge target services listed vs member foreign =>
    exact .conflict edge target services (known listed) vs member foreign
  | unresolved edgeChaos edge target error refused =>
    rcases (resolved _ _ _ _ (known refused)).refused with ⟨message, failed⟩ | ⟨metrics, found⟩
    · exact absurd failed (answered.query _ _ _ error (known refused) message)
    · exact .edgeRefused edge target error (known refused) metrics found
  | noFault edgeChaos unbuildable => exact .noFault unbuildable

/-- After an error that may pass, of a call that is not folded into a rejection, the pass has
failed. -/
theorem PreflightAnswered.failed (answered : PreflightAnswered trace)
    (starting : Starting experiment)
    (reaches : Reaches (GraphService parseF64 graph experiment) (deployment.pass experiment) before
      trace rest after) {request : ApiCall} {answer : Answer request} {error : OperatorError}
    (member : ⟨request, answer⟩ ∈ trace) (refused : refusal error request = some answer)
    (transient : isTransient error = true) : ∃ failure, rest = .fail failure := by
  have ends (other : request.rejectsOnError = false) : EndsPass request answer :=
    ⟨other, error, refused, not_alreadyExists_of_transient transient⟩
  cases request with
  | getServiceSelector ns service =>
    obtain rfl := Option.some.inj refused
    have missing := answered.selector ns service error member
    exact absurd ((not_transient_of_notFound missing).symm.trans transient) (by simp)
  | resolveEdge source destination ns =>
    obtain rfl := Option.some.inj refused
    obtain ⟨first, second, -, resolved⟩ := reaches.answered member
    rcases ResolvedByGraph.refused resolved with ⟨message, failed⟩ | ⟨metrics, found⟩
    · exact absurd failed (answered.query _ _ _ error member message)
    · obtain ⟨invalid, rfl⟩ := findEdge_error found
      cases transient
  | _ => exact failed_of_endsPass starting reaches member (ends rfl)

end Passes

/-- A pending pass fails its experiment for definitive reasons only and leaves it pending after an
error that may pass, if and only if the lookup of the source service fails with 404 alone and the
query of the graph does not fail. -/
theorem failsDefinitively_iff (parseF64 : String → Option F64) (graph : GraphBuilderConfig)
    (deployment : Deployment) (experiment : ChaosExperiment) (starting : Starting experiment)
    (before after : Cluster) (trace : History) (rest : Handler ReconcileResult)
    (reaches : Reaches (GraphService parseF64 graph experiment) (deployment.pass experiment) before
      trace rest after) (ended : rest.Ended) :
    FailsDefinitively parseF64 graph experiment before after trace rest ↔
      PreflightAnswered trace := by
  constructor
  · intro definitive
    refine ⟨?_, ?_⟩
    · intro ns service error member
      obtain ⟨told, written⟩ := rejected_written starting reaches ended member rfl
      obtain ⟨_, ⟨⟩, reason⟩ := definitive.definitive _ _ _ told written rfl
      obtain ⟨ns', name, answer, asked, missing⟩ :=
        reason.sourceService starting rfl
      obtain ⟨earlier, -, issued⟩ := issued_of_mem reaches member
      have same := selector_unique starting issued.issues.selectorForEdge reaches member asked rfl
        rfl
      cases same
      exact missing error rfl
    · rintro source destination ns error member message rfl
      obtain ⟨told, written⟩ := rejected_written starting reaches ended member rfl
      obtain ⟨_, ⟨⟩, reason⟩ := definitive.definitive _ _ _ told written rfl
      exact reason.not_prometheus starting rfl
  · intro answered
    refine ⟨?_, ?_⟩
    · intro ns name status told member failed
      obtain ⟨earlier, subset, issued⟩ := issued_of_mem reaches member
      obtain ⟨message, rfl, reason⟩ := issued.issues.writes.failed_of_starting starting failed
      refine ⟨message, rfl, reason.definitive subset answered ?_⟩
      intro source destination ns answer asked
      obtain ⟨first, second, -, resolved⟩ := reaches.answered asked
      exact resolved
    · intro request answer error member refused transient
      obtain ⟨failure, failed⟩ := answered.failed starting reaches member refused transient
      exact ⟨⟨failure, failed⟩,
        unchanged_of_failed (reaches.weaken fun _ _ _ _ served => served.1) failed⟩

/-- A server that refuses some calls, but not to resolve edges, and has no Prometheus to ask. -/
theorem graphService_refusing {refuse : ApiCall → Option OperatorError}
    (resolves : ∀ source destination ns, refuse (.resolveEdge source destination ns) = none)
    (parseF64 : String → Option F64) (graph : GraphBuilderConfig) (experiment : ChaosExperiment)
    (request : ApiCall) (cluster : Cluster) :
    GraphService parseF64 graph experiment request cluster
      (serveRefusing refuse sampleSurroundings (actorOf experiment) request cluster).1
      (serveRefusing refuse sampleSurroundings (actorOf experiment) request cluster).2 := by
  refine ⟨refusesOrWorks_serveRefusing refuse sampleSurroundings _ request cluster, ?_⟩
  cases request with
  | resolveEdge source destination ns =>
    refine ⟨fun _ => .error (.prometheus "no data"), fun _ _ failed => ⟨"no data", ?_⟩, ?_⟩
    · exact (Except.error.inj failed).symm
    · unfold serveRefusing
      rw [resolves]
      rfl
  | _ => trivial

theorem reaches_graphService (refuse : ApiCall → Option OperatorError)
    (resolves : ∀ source destination ns, refuse (.resolveEdge source destination ns) = none)
    (parseF64 : String → Option F64) (graph : GraphBuilderConfig) (deployment : Deployment)
    (experiment : ChaosExperiment) (cluster : Cluster) :
    ∃ trace rest after, Reaches (GraphService parseF64 graph experiment)
      (deployment.pass experiment) cluster trace rest after ∧ rest.Ended ∧
      trace = (deployment.pass experiment).transcript
        (serveRefusing refuse sampleSurroundings (actorOf experiment)) cluster := by
  exact ⟨_, _, _, reaches_serving (graphService_refusing resolves parseF64 graph experiment) _
    cluster, Outcome.remaining_ended _, rfl⟩

/-- A pass on the sample pod experiment whose first Job is refused with 500. -/
theorem failsDefinitively_sample : ∃ after trace rest,
    FailsDefinitively (fun _ => none) {} (freshSnapshot sampleKey samplePod)
      (sampleCluster [(sampleKey, samplePod)]) after trace rest := by
  obtain ⟨trace, rest, after, reaches, ended, -⟩ :=
    reaches_graphService refuseJobs (fun _ _ _ => rfl) (fun _ => none) {}
      sampleDeployment (freshSnapshot sampleKey samplePod) (sampleCluster [(sampleKey, samplePod)])
  have starting : Starting (freshSnapshot sampleKey samplePod) :=
    ⟨⟨⟨by decide +kernel, rfl⟩, rfl⟩, rfl⟩
  refine ⟨after, trace, rest, (failsDefinitively_iff (fun _ => none) {} sampleDeployment
    (freshSnapshot sampleKey samplePod) starting _ after trace rest reaches ended).mpr ⟨?_, ?_⟩⟩
  · intro ns service error member
    obtain ⟨earlier, -, issued⟩ := issued_of_mem reaches member
    cases issued.issues.selectorForEdge
  · intro source destination ns error member
    obtain ⟨earlier, -, issued⟩ := issued_of_mem reaches member
    cases issued.issues with
    | resolveEdge starting edgeChaos => cases edgeChaos

/-- The server that fails to look up services. -/
def refuseSelectors : ApiCall → Option OperatorError
  | .getServiceSelector .. => some (.kube (.api 500 "internal error"))
  | _ => none

/-- An internal error of the lookup fails the experiment for good. -/
theorem lookupError_fails : ¬ ∀ (parseF64 : String → Option F64) (graph : GraphBuilderConfig)
    (deployment : Deployment) (experiment : ChaosExperiment), Starting experiment →
    ∀ (before after : Cluster) (trace : History) (rest : Handler ReconcileResult),
      Reaches (GraphService parseF64 graph experiment) (deployment.pass experiment) before trace
        rest after → rest.Ended →
      FailsDefinitively parseF64 graph experiment before after trace rest := by
  intro claim
  obtain ⟨trace, rest, after, reaches, ended, rfl⟩ :=
    reaches_graphService refuseSelectors (fun _ _ _ => rfl) (fun _ => none) {}
      sampleDeployment pendingEdge (sampleCluster [(sampleKey, sampleEdge)])
  have definitive := claim (fun _ => none) {} sampleDeployment pendingEdge
    pendingEdge_injectable.starting _ after _ rest reaches ended
  obtain ⟨_, ⟨⟩, reason⟩ := definitive.definitive "chaos" "demo"
    (failedStatus (ValidationError.sourceServiceNotFound "payment").toString) (.ok ())
    (List.mem_cons_of_mem _ List.mem_cons_self) rfl
  obtain ⟨ns, name, answer, asked, missing⟩ :=
    reason.sourceService pendingEdge_injectable.starting rfl
  have looked : (⟨.getServiceSelector "shop" "payment",
      .error (.kube (.api 500 "internal error"))⟩ : Exchange ApiCall Answer) ∈
        (sampleDeployment.pass pendingEdge).transcript
          (serveRefusing refuseSelectors sampleSurroundings (actorOf pendingEdge))
          (sampleCluster [(sampleKey, sampleEdge)]) := List.mem_cons_self
  have same := selector_unique pendingEdge_injectable.starting rfl reaches looked asked rfl rfl
  cases same
  exact absurd (missing _ rfl) (by decide)

end ChimpChaos
