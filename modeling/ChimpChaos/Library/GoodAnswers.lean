/-
This file is about what a program does as long as it gets good answers.

The contract restricts the answers instead of the runs: while all answers are good, the calls are
permitted, and what the program returns has a property. Contracts compose. In particular a program
whose calls are implemented by other programs relies on their contracts only.
-/

import ChimpChaos.Library.Interpret

namespace ChimpChaos.Library.Program

variable {Call : Type} {Answer : Call → Type} {Error Value Result : Type}
  {good : (request : Call) → Answer request → Prop} {permitted : Call → Prop}
  {ends : Value → Prop} {program : Program Call Answer Error Value}

/-- As long as the answers are good the calls are permitted, and the value returned has a
property. -/
def Given (good : (request : Call) → Answer request → Prop) (permitted : Call → Prop)
    (ends : Value → Prop) : Program Call Answer Error Value → Prop
  | .done value => ends value
  | .fail _ => True
  | .panic => True
  | .call request next =>
    permitted request ∧ ∀ answer, good request answer → (next answer).Given good permitted ends

theorem given_call {request : Call} {next : Answer request → Program Call Answer Error Value}
    (allowed : permitted request)
    (each : ∀ answer, good request answer → (next answer).Given good permitted ends) :
    (Program.call request next).Given good permitted ends := ⟨allowed, each⟩

theorem given_ofExcept {result : Except Error Value}
    (returned : ∀ value, result = .ok value → ends value) :
    (ofExcept result : Program Call Answer Error Value).Given good permitted ends := by
  cases result with
  | ok value => exact returned value rfl
  | error error => trivial

theorem Given.bind {ends' : Result → Prop}
    {continuation : Value → Program Call Answer Error Result}
    (given : program.Given good permitted ends)
    (continues : ∀ value, ends value → (continuation value).Given good permitted ends') :
    (program >>= continuation).Given good permitted ends' := by
  induction program with
  | done value => exact continues value given
  | fail error => trivial
  | panic => trivial
  | call request next inductionHypothesis =>
    exact given_call given.1 fun answer kind => inductionHypothesis answer (given.2 answer kind)

theorem Given.weaken {ends' : Value → Prop} (given : program.Given good permitted ends)
    (implies : ∀ value, ends value → ends' value) : program.Given good permitted ends' := by
  induction program with
  | done value => exact implies value given
  | fail error => trivial
  | panic => trivial
  | call request next inductionHypothesis =>
    exact given_call given.1 fun answer kind => inductionHypothesis answer (given.2 answer kind)

theorem Given.attempt (given : program.Given good permitted ends) :
    program.attempt.Given good permitted fun result =>
      ∀ value, result = .ok value → ends value := by
  induction program with
  | done value =>
    intro value' same
    cases same
    exact given
  | fail error => exact fun _ same => nomatch same
  | panic => trivial
  | call request next inductionHypothesis =>
    exact given_call given.1 fun answer kind => inductionHypothesis answer (given.2 answer kind)

/-- Over a larger interface the contract is kept when good answers there are translated to good
answers. -/
theorem Given.inject {LargerCall : Type} {LargerAnswer : LargerCall → Type}
    {put : Call → LargerCall}
    {answerOf : (request : Call) → LargerAnswer (put request) → Answer request}
    {good' : (request : LargerCall) → LargerAnswer request → Prop} {permitted' : LargerCall → Prop}
    (given : program.Given good permitted ends)
    (puts : ∀ request, permitted request → permitted' (put request))
    (translated : ∀ request answer, good' (put request) answer →
      good request (answerOf request answer)) :
    (program.inject put answerOf).Given good' permitted' ends := by
  induction program with
  | done value => exact given
  | fail error => trivial
  | panic => trivial
  | call request next inductionHypothesis =>
    exact given_call (puts request given.1) fun answer kind =>
      inductionHypothesis _ (given.2 _ (translated request answer kind))

/-- The contract of a program together with those of the implementations of its calls. -/
theorem Given.interpret {LowCall : Type} {LowAnswer : LowCall → Type}
    {implement : (request : Call) → Program LowCall LowAnswer Error (Answer request)}
    {good' : (request : LowCall) → LowAnswer request → Prop} {permitted' : LowCall → Prop}
    (given : program.Given good permitted ends)
    (implemented : ∀ request, permitted request →
      (implement request).Given good' permitted' (good request)) :
    (program.interpret implement).Given good' permitted' ends := by
  induction program with
  | done value => exact given
  | fail error => trivial
  | panic => trivial
  | call request next inductionHypothesis =>
    exact (implemented request given.1).bind fun answer kind =>
      inductionHypothesis answer (given.2 answer kind)

/-- In a run with good answers every call is permitted. -/
theorem Given.of_mem {State : Type}
    {step : (request : Call) → State → Answer request → State → Prop} {state final : State}
    {trace : List (Exchange Call Answer)} {rest : Program Call Answer Error Value}
    (given : program.Given good permitted ends)
    (reaches : Reaches step program state trace rest final)
    (answers : ∀ exchange ∈ trace, good exchange.1 exchange.2) {exchange : Exchange Call Answer}
    (member : exchange ∈ trace) : permitted exchange.1 := by
  induction reaches with
  | stop => cases member
  | call answered reaches inductionHypothesis =>
    rcases List.mem_cons.mp member with rfl | later
    · exact given.1
    · exact inductionHypothesis (given.2 _ (answers _ List.mem_cons_self))
        (fun _ member => answers _ (List.mem_cons_of_mem _ member)) later

end ChimpChaos.Library.Program
