/-
This file says how the answers of its calls keep a pending pass from running the experiment.

Some answers reject the experiment: the next thing the pass does is to write `Failed`, with a
message that the answer determines. Any other call that is answered with an error, except for a
name that is taken, makes the pass fail at once. Both are read off the program, so that they
hold of every run.
-/

import ChimpChaos.Library.Failing
import ChimpChaos.Proof.EdgePath

namespace ChimpChaos

open Library Program

/-! ### Rejections -/

/-- The message with which an answer rejects a pending experiment. -/
def rejection : (request : ApiCall) → Answer request → Option String
  | .listTargetNodes _, .ok [] => some ValidationError.noTargetNodes.toString
  | .getServiceSelector _ service, .ok [] =>
    some (ValidationError.sourceServiceNotFound service).toString
  | .getServiceSelector _ service, .error _ =>
    some (ValidationError.sourceServiceNotFound service).toString
  | .listVirtualServicesForHost _ host, .ok services =>
    if services.any fun vs => !isChaosManaged vs.labels then
      some (ValidationError.conflictingVirtualService host).toString
    else none
  | .resolveEdge .., .error error => some error.toString
  | _, _ => none

/-- Does a call reject the experiment when it is answered with an error? -/
def ApiCall.rejectsOnError : ApiCall → Bool
  | .getServiceSelector .. | .resolveEdge .. => true
  | _ => false

/-- The answer is an error that ends a pass: of a call that does not reject on errors, and not
that a name is taken. -/
def EndsPass (request : ApiCall) (answer : Answer request) : Prop :=
  request.rejectsOnError = false ∧
    ∃ error, refusal error request = some answer ∧ isAlreadyExists error = false

/-- The status write of a pass that fails its experiment. -/
def failedPatch (experiment : ChaosExperiment) (message : String) : ApiCall :=
  .patchExperimentStatus (expNamespace experiment) (expName experiment) (failedStatus message)

/-- What a pass does after an answer that rejects its experiment. -/
def rejectPass (experiment : ChaosExperiment) (message : String) : Handler ReconcileResult :=
  patchFailed (expNamespace experiment) (expName experiment) message >>= fun _ =>
    .done (.requeue (requeueDuration .running))

/-- The answer does not reject, and an error that ends the pass makes the program fail. -/
def Plain {Value : Type} (request : ApiCall) (answer : Answer request) (left : Handler Value) :
    Prop :=
  rejection request answer = none ∧ (EndsPass request answer → ∃ error, left = .fail error)

/-- After an answer that rejects comes the rejection, and an error that ends the pass makes the
program fail. -/
def Rejects {Value : Type} (reject : String → Handler Value) (request : ApiCall)
    (answer : Answer request) (left : Handler Value) : Prop :=
  (∀ message, rejection request answer = some message → left = reject message) ∧
    (EndsPass request answer → ∃ error, left = .fail error)

section Reactions

variable {Value Result : Type} {request : ApiCall} {answer : Answer request}

theorem fails_bind {left : Handler Value} {continuation : Value → Handler Result}
    (fails : ∃ error, left = .fail error) : ∃ error, left >>= continuation = .fail error := by
  obtain ⟨error, rfl⟩ := fails
  exact ⟨error, rfl⟩

theorem Plain.andThen {left : Handler Value} (plain : Plain request answer left)
    (continuation : Value → Handler Result) : Plain request answer (left >>= continuation) :=
  ⟨plain.1, fun ends => fails_bind (plain.2 ends)⟩

theorem Plain.rejects {left : Handler Value} (plain : Plain request answer left)
    (reject : String → Handler Value) : Rejects reject request answer left := by
  refine ⟨fun message rejected => ?_, plain.2⟩
  rw [plain.1] at rejected
  cases rejected

theorem Rejects.andThen {left : Handler Value} {reject : String → Handler Value}
    (rejects : Rejects reject request answer left) (continuation : Value → Handler Result) :
    Rejects (fun message => reject message >>= continuation) request answer
      (left >>= continuation) :=
  ⟨fun message rejected => by rw [rejects.1 message rejected],
    fun ends => fails_bind (rejects.2 ends)⟩

/-- A part without rejections in front of a program. -/
theorem Library.Program.Reacts.thenRejects {program : Handler Value}
    {continuation : Value → Handler Result} {reject : String → Handler Result}
    (plain : program.Reacts Plain)
    (continues : ∀ value, (continuation value).Reacts (Rejects reject)) :
    (program >>= continuation).Reacts (Rejects reject) :=
  plain.bind (fun _ _ _ before => (before.andThen continuation).rejects reject) continues

theorem Library.Program.Reacts.thenPlain {program : Handler Value}
    {continuation : Value → Handler Result} (plain : program.Reacts Plain)
    (continues : ∀ value, (continuation value).Reacts Plain) :
    (program >>= continuation).Reacts Plain :=
  plain.bind (fun _ _ _ before => before.andThen continuation) continues

theorem Library.Program.Reacts.rejects {program : Handler Value} (plain : program.Reacts Plain)
    (reject : String → Handler Value) : program.Reacts (Rejects reject) :=
  plain.weaken fun _ _ _ before => before.rejects reject

theorem reacts_tolerate
    {reaction : (request : ApiCall) → Answer request → Handler Unit → Prop}
    (expected : OperatorError → Bool) (answer : Except OperatorError Unit) :
    (tolerate expected answer).Reacts reaction := by
  cases answer with
  | ok value => trivial
  | error error =>
    rw [tolerate]
    split_ifs <;> trivial

/-- An error that is handed on. -/
theorem ofExcept_fails {error : OperatorError} {told : Except OperatorError Value}
    (same : some (.error error) = some told) :
    ∃ error, (ofExcept told : Handler Value) = .fail error := by
  obtain rfl := Option.some.inj same
  exact ⟨error, rfl⟩

theorem tolerate_fails {error : OperatorError} {told : Except OperatorError Unit}
    {continuation : Unit → Handler Value} (same : some (.error error) = some told)
    (unexpected : isAlreadyExists error = false) :
    ∃ error, (tolerate isAlreadyExists told >>= continuation) = .fail error := by
  obtain rfl := Option.some.inj same
  exact ⟨error, by rw [tolerate, if_neg (by simp [unexpected]), fail_bind]⟩

end Reactions

/-! ### The reactions of a pending pass -/

section Pending

variable (crates : Crates) (edgeResolver : Bool) (config : ReconcilerConfig)
  (experiment : ChaosExperiment)

theorem reacts_patchStatus (ns name : String) (status : ChaosExperimentStatus) :
    (patchStatus ns name status).Reacts Plain := by
  refine fun answer => ⟨⟨rfl, ?_⟩, reacts_ofExcept answer⟩
  rintro ⟨-, error, told, -⟩
  exact ofExcept_fails told

theorem reacts_nowRfc3339 : (nowRfc3339 crates).Reacts Plain := by
  refine fun time => ⟨⟨rfl, ?_⟩, trivial⟩
  rintro ⟨-, error, told, -⟩
  cases told

theorem reacts_createJobs (experimentId : String) (nodes : List String) :
    (createJobs crates config experiment experimentId nodes).Reacts Plain := by
  induction nodes with
  | nil => trivial
  | cons node rest inductionHypothesis =>
    rw [createJobs]
    refine (reacts_ofOption _).thenPlain fun job answer => ⟨⟨rfl, ?_⟩, ?_⟩
    · rintro ⟨-, error, told, unexpected⟩
      exact tolerate_fails told unexpected
    · exact (reacts_tolerate isAlreadyExists answer).thenPlain fun _ =>
        inductionHypothesis.thenPlain fun _ => trivial

theorem reacts_handlePendingPod (experimentId : String) :
    (handlePendingPod crates config experiment experimentId).Reacts
      (Rejects (patchFailed (expNamespace experiment) (expName experiment))) := by
  unfold handlePendingPod
  intro answer
  cases answer with
  | error error => exact ⟨⟨fun _ rejected => (by cases rejected), fun _ => ⟨error, rfl⟩⟩, trivial⟩
  | ok nodes =>
    have mild : ¬ EndsPass (.listTargetNodes (targetNamespace experiment)) (.ok nodes) := by
      rintro ⟨-, error, told, -⟩
      cases told
    cases nodes with
    | nil =>
      refine ⟨⟨?_, fun ends => absurd ends mild⟩, (reacts_patchStatus _ _ _).rejects _⟩
      rintro message ⟨⟩
      rfl
    | cons node rest =>
      refine ⟨⟨fun _ rejected => (by cases rejected), fun ends => absurd ends mild⟩, ?_⟩
      refine (reacts_createJobs crates config experiment experimentId _).thenRejects
        fun jobNames => ?_
      refine (reacts_nowRfc3339 crates).thenRejects fun startedAt => ?_
      exact (reacts_patchStatus _ _ _).rejects _

theorem reacts_injectEdgeFault (edge : EdgeTarget) (experimentId : String)
    (sourceLabels : Labels) :
    (injectEdgeFault crates experiment edge experimentId sourceLabels).Reacts Plain := by
  unfold injectEdgeFault
  cases buildFaultForScenario experiment.spec.scenario
      (experiment.spec.parameters.getD (.object [])) with
  | none => exact reacts_patchStatus _ _ _
  | some fault =>
    refine (reacts_ofOption _).thenPlain fun vsName answer => ⟨⟨rfl, ?_⟩, ?_⟩
    · rintro ⟨-, error, told, unexpected⟩
      exact tolerate_fails told unexpected
    · refine (reacts_tolerate isAlreadyExists answer).thenPlain fun _ => ?_
      exact (reacts_nowRfc3339 crates).thenPlain fun startedAt => reacts_patchStatus _ _ _

theorem reacts_checkEdge (edge : EdgeTarget) (experimentId : String) (sourceLabels : Labels) :
    (checkEdge crates edgeResolver experiment edge experimentId sourceLabels).Reacts
      (Rejects (patchFailed (expNamespace experiment) (expName experiment))) := by
  unfold checkEdge
  split_ifs
  · intro answer
    cases answer with
    | error error =>
      refine ⟨⟨?_, fun ends => absurd ends.1 (by simp [ApiCall.rejectsOnError])⟩,
        (reacts_patchStatus _ _ _).rejects _⟩
      rintro message ⟨⟩
      rfl
    | ok info =>
      exact ⟨⟨fun _ rejected => (by cases rejected),
        fun ends => absurd ends.1 (by simp [ApiCall.rejectsOnError])⟩,
        (reacts_injectEdgeFault _ _ _ _ _).rejects _⟩
  · exact (reacts_injectEdgeFault _ _ _ _ _).rejects _

theorem reacts_handlePendingEdge (experimentId : String) :
    (handlePendingEdge crates edgeResolver experiment experimentId).Reacts
      (Rejects (patchFailed (expNamespace experiment) (expName experiment))) := by
  unfold handlePendingEdge
  cases experiment.spec.target.bind Target.edge with
  | none => trivial
  | some edge =>
    intro answer
    have mild (told : Answer (.getServiceSelector (targetNamespace experiment)
        edge.sourceService)) : ¬ EndsPass _ told := fun ends =>
      absurd ends.1 (by simp [ApiCall.rejectsOnError])
    have writes := reacts_patchStatus (expNamespace experiment) (expName experiment)
      (failedStatus (ValidationError.sourceServiceNotFound edge.sourceService).toString)
    cases answer with
    | error error =>
      refine ⟨⟨?_, fun ends => absurd ends (mild _)⟩, writes.rejects _⟩
      rintro message ⟨⟩
      rfl
    | ok labels =>
      cases labels with
      | nil =>
        refine ⟨⟨?_, fun ends => absurd ends (mild _)⟩, writes.rejects _⟩
        rintro message ⟨⟩
        rfl
      | cons label others =>
        refine ⟨⟨fun _ rejected => (by cases rejected), fun ends => absurd ends (mild _)⟩, ?_⟩
        intro listed
        cases listed with
        | error error =>
          exact ⟨⟨fun _ rejected => (by cases rejected), fun _ => ⟨error, rfl⟩⟩, trivial⟩
        | ok services =>
          show Rejects _ _ _ (if _ then _ else _) ∧ Reacts _ (if _ then _ else _)
          have answered : ¬ EndsPass (.listVirtualServicesForHost (targetNamespace experiment)
              (fqdn edge.destinationService (targetNamespace experiment))) (.ok services) := by
            rintro ⟨-, error, told, -⟩
            cases told
          by_cases foreign : (services.any fun vs => !isChaosManaged vs.labels) = true
          · rw [if_pos foreign]
            refine ⟨⟨?_, fun ends => absurd ends answered⟩,
              (reacts_patchStatus _ _ _).rejects _⟩
            intro message rejected
            rw [rejection, if_pos foreign] at rejected
            obtain rfl := Option.some.inj rejected
            rfl
          · rw [if_neg foreign]
            refine ⟨⟨?_, fun ends => absurd ends answered⟩, reacts_checkEdge _ _ _ _ _ _⟩
            intro message rejected
            rw [rejection, if_neg foreign] at rejected
            cases rejected

theorem reacts_experimentIdOf : (experimentIdOf experiment).Reacts Plain := by
  unfold experimentIdOf
  split
  · trivial
  · trivial
  · refine fun id => ⟨⟨rfl, ?_⟩, trivial⟩
    rintro ⟨-, error, told, -⟩
    cases told

end Pending

variable {deployment : Deployment} {experiment : ChaosExperiment}

/-- A pending pass reacts to every answer. -/
theorem pass_reacts (starting : Starting experiment) :
    (deployment.pass experiment).Reacts (Rejects (rejectPass experiment)) := by
  obtain ⟨⟨⟨kept, alive⟩, pending⟩, valid⟩ := starting
  have whole : deployment.pass experiment =
      handlePending deployment.crates deployment.edgeResolver deployment.config experiment >>=
        fun _ => .done (.requeue (requeueDuration .running)) := by
    simp [Deployment.pass, reconcile, kept, alive, pending]
  have handled : (handlePending deployment.crates deployment.edgeResolver deployment.config
      experiment).Reacts
        (Rejects (patchFailed (expNamespace experiment) (expName experiment))) := by
    unfold handlePending
    rw [valid]
    refine (reacts_experimentIdOf experiment).thenRejects fun id => ?_
    split_ifs
    · exact reacts_handlePendingEdge _ _ _ _
    · exact reacts_handlePendingPod _ _ _ _
  rw [whole]
  exact handled.bind (fun _ _ _ rejects => rejects.andThen _) fun _ => trivial

section Runs

variable {State : Type} {step : (request : ApiCall) → State → Answer request → State → Prop}
  {state final : State} {trace : History} {rest : Handler ReconcileResult}
  {request : ApiCall} {answer : Answer request}

/-- After an answer that rejects the experiment the pass writes `Failed` with its message. -/
theorem rejected_written (starting : Starting experiment)
    (reaches : Reaches step (deployment.pass experiment) state trace rest final)
    (ended : rest.Ended) (member : ⟨request, answer⟩ ∈ trace) {message : String}
    (rejected : rejection request answer = some message) :
    ∃ told, ⟨failedPatch experiment message, told⟩ ∈ trace := by
  obtain ⟨left, middle, later, reacted, rests, subset⟩ :=
    (pass_reacts starting).reached reaches member
  rw [reacted.1 message rejected] at rests
  obtain ⟨told, _, _, rfl, -, -⟩ := rests.of_call ended
  exact ⟨told, subset List.mem_cons_self⟩

/-- After an error that ends the pass it has failed. -/
theorem failed_of_endsPass (starting : Starting experiment)
    (reaches : Reaches step (deployment.pass experiment) state trace rest final)
    (member : ⟨request, answer⟩ ∈ trace) (ends : EndsPass request answer) :
    ∃ error, rest = .fail error := by
  obtain ⟨left, middle, later, reacted, rests, -⟩ :=
    (pass_reacts starting).reached reaches member
  obtain ⟨error, rfl⟩ := reacted.2 ends
  exact ⟨error, (rests.of_ended trivial).2.1⟩

end Runs

/-- A pending pass writes `Failed` for one of its reasons. -/
theorem Writes.failed_of_starting {crates : Crates} {edgeResolver : Bool}
    {config : ReconcilerConfig} {history : History} {status : ChaosExperimentStatus}
    (writes : Writes crates edgeResolver config experiment history status)
    (starting : Starting experiment) (failed : status.phase = .failed) :
    ∃ message, status = failedStatus message ∧ FailureReason experiment history message := by
  cases writes with
  | failed pending message reason => exact ⟨message, rfl, reason⟩
  | runningPod => cases failed
  | runningEdge => cases failed
  | completed active running =>
    rw [starting.1.2] at running
    cases running
  | cleaned active terminal =>
    rw [starting.1.2] at terminal
    cases terminal

/-- The reason of a rejection that a run has asked to be written. -/
theorem reason_of_failedPatch {State : Type}
    {step : (request : ApiCall) → State → Answer request → State → Prop} {state final : State}
    {trace : History} {rest : Handler ReconcileResult} {message : String}
    {told : Except OperatorError Unit} (starting : Starting experiment)
    (reaches : Reaches step (deployment.pass experiment) state trace rest final)
    (member : ⟨failedPatch experiment message, told⟩ ∈ trace) :
    ∃ earlier ⊆ trace, FailureReason experiment earlier message := by
  obtain ⟨earlier, subset, asked⟩ := issued_of_mem reaches member
  obtain ⟨same, sameStatus, reason⟩ := asked.issues.writes.failed_of_starting starting rfl
  obtain rfl := Option.some.inj (congrArg ChaosExperimentStatus.message sameStatus)
  exact ⟨earlier, subset, reason⟩

end ChimpChaos
