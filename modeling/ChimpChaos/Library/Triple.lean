/-
This file is a small logic of total correctness for programs that call an outside service.

A program ensures a condition from a state when it ends with a value there, without a failure
or a panic, however the service answers; the condition is on the value and on the last state.
There is one rule for each way to build a program, and `Ensures.ended` reads the judgement
back as a statement about runs.
-/

import ChimpChaos.Library.Program

namespace ChimpChaos.Library.Program

variable {State Call : Type} {Answer : Call → Type} {Error Value Result : Type}

/-- However the calls are answered, the program ends with a value and meets the condition. -/
def Ensures (step : (request : Call) → State → Answer request → State → Prop)
    (finish : Value → State → Prop) : Program Call Answer Error Value → State → Prop
  | .done value, state => finish value state
  | .fail _, _ => False
  | .panic, _ => False
  | .call request next, state =>
    ∀ answer after, step request state answer after → (next answer).Ensures step finish after

variable {step : (request : Call) → State → Answer request → State → Prop}
  {program rest : Program Call Answer Error Value} {state final : State}

/-! ### The rules -/

theorem ensures_done {finish : Value → State → Prop} {value : Value} (holds : finish value state) :
    (.done value : Program Call Answer Error Value).Ensures step finish state := holds

theorem ensures_call {finish : Value → State → Prop} {request : Call}
    {next : Answer request → Program Call Answer Error Value}
    (goes : ∀ answer after, step request state answer after →
      (next answer).Ensures step finish after) :
    (Program.call request next).Ensures step finish state := goes

theorem Ensures.weaken {first second : Value → State → Prop}
    (ensures : program.Ensures step first state)
    (implies : ∀ value later, first value later → second value later) :
    program.Ensures step second state := by
  induction program generalizing state with
  | done value => exact implies _ _ ensures
  | fail error => exact ensures
  | panic => exact ensures
  | call request next inductionHypothesis =>
    exact fun answer after answered => inductionHypothesis answer (ensures answer after answered)

theorem Ensures.bind {middle : Value → State → Prop} {finish : Result → State → Prop}
    {continuation : Value → Program Call Answer Error Result}
    (ensures : program.Ensures step middle state)
    (continues : ∀ value later, middle value later →
      (continuation value).Ensures step finish later) :
    (program >>= continuation).Ensures step finish state := by
  induction program generalizing state with
  | done value => exact continues _ _ ensures
  | fail error => cases ensures
  | panic => cases ensures
  | call request next inductionHypothesis =>
    exact fun answer after answered => inductionHypothesis answer (ensures answer after answered)

/-- A program that ensures a condition has no failure to hand on. -/
theorem Ensures.attempt {middle : Value → State → Prop}
    (ensures : program.Ensures step middle state) :
    program.attempt.Ensures step
      (fun result later => ∃ value, result = .ok value ∧ middle value later) state := by
  induction program generalizing state with
  | done value => exact ⟨value, rfl, ensures⟩
  | fail error => cases ensures
  | panic => exact ensures
  | call request next inductionHypothesis =>
    exact fun answer after answered => inductionHypothesis answer (ensures answer after answered)

/-! ### The reading -/

/-- Every run to the end ends with a value and meets the condition. -/
theorem Ensures.ended {finish : Value → State → Prop} {trace : List (Exchange Call Answer)}
    (ensures : program.Ensures step finish state)
    (reaches : Reaches step program state trace rest final) (ended : rest.Ended) :
    ∃ value, rest = .done value ∧ finish value final := by
  induction reaches with
  | stop program state =>
    cases program with
    | done value => exact ⟨value, rfl, ensures⟩
    | fail error => cases ensures
    | panic => cases ensures
    | call request next => cases ended
  | call answered reaches inductionHypothesis =>
    exact inductionHypothesis (ensures _ _ answered) ended

end ChimpChaos.Library.Program
