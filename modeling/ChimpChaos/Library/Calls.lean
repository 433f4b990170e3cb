/-
This file is about the calls a program can make at all, whatever it is answered.

A program makes calls of a kind when every call in its tree is of this kind. There is one rule
for each way to build a program, and what the tree says holds of every run. In the other
direction, a program admits an exchange when it occurs in some run.
-/

import ChimpChaos.Library.Program

namespace ChimpChaos.Library.Program

variable {Call : Type} {Answer : Call → Type} {Error Value Result : Type}
  {permitted : Call → Prop} {program : Program Call Answer Error Value}

/-! ### All calls of a program -/

/-- Every call of the program is permitted. -/
def Makes (permitted : Call → Prop) : Program Call Answer Error Value → Prop
  | .done _ => True
  | .fail _ => True
  | .panic => True
  | .call request next => permitted request ∧ ∀ answer, (next answer).Makes permitted

theorem makes_call {request : Call} {next : Answer request → Program Call Answer Error Value}
    (allowed : permitted request) (each : ∀ answer, (next answer).Makes permitted) :
    (Program.call request next).Makes permitted := ⟨allowed, each⟩

theorem makes_ofExcept (result : Except Error Value) :
    (ofExcept result : Program Call Answer Error Value).Makes permitted := by
  cases result <;> trivial

theorem Makes.bind {continuation : Value → Program Call Answer Error Result}
    (makes : program.Makes permitted) (continues : ∀ value, (continuation value).Makes permitted) :
    (program >>= continuation).Makes permitted := by
  induction program with
  | done value => exact continues value
  | fail error => trivial
  | panic => trivial
  | call request next inductionHypothesis =>
    exact makes_call makes.1 fun answer => inductionHypothesis answer (makes.2 answer)

theorem Makes.attempt (makes : program.Makes permitted) : program.attempt.Makes permitted := by
  induction program with
  | done value => trivial
  | fail error => trivial
  | panic => trivial
  | call request next inductionHypothesis =>
    exact makes_call makes.1 fun answer => inductionHypothesis answer (makes.2 answer)

/-- Over a larger interface a program makes the same calls. -/
theorem Makes.inject {LargerCall : Type} {LargerAnswer : LargerCall → Type}
    {put : Call → LargerCall}
    {answerOf : (request : Call) → LargerAnswer (put request) → Answer request}
    {larger : LargerCall → Prop} (makes : program.Makes permitted)
    (puts : ∀ request, permitted request → larger (put request)) :
    (program.inject put answerOf).Makes larger := by
  induction program with
  | done value => trivial
  | fail error => trivial
  | panic => trivial
  | call request next inductionHypothesis =>
    exact makes_call (puts request makes.1) fun answer =>
      inductionHypothesis _ (makes.2 (answerOf request answer))

/-- Every call of a run is permitted. -/
theorem Makes.of_mem {State : Type}
    {step : (request : Call) → State → Answer request → State → Prop} {state final : State}
    {trace : List (Exchange Call Answer)} {rest : Program Call Answer Error Value}
    (makes : program.Makes permitted) (reaches : Reaches step program state trace rest final)
    {exchange : Exchange Call Answer} (member : exchange ∈ trace) : permitted exchange.1 := by
  induction reaches with
  | stop => cases member
  | call answered reaches inductionHypothesis =>
    rcases List.mem_cons.mp member with rfl | later
    · exact makes.1
    · exact inductionHypothesis (makes.2 _) later

/-! ### One exchange of a run -/

/-- Some run of the program, however its calls are answered, has this exchange. -/
def Admits (program : Program Call Answer Error Value) (exchange : Exchange Call Answer) : Prop :=
  ∃ trace rest, Reaches (fun _ (_ : Unit) _ _ => True) program () trace rest () ∧ exchange ∈ trace

theorem admits_here {request : Call} (answer : Answer request)
    (next : Answer request → Program Call Answer Error Value) :
    (Program.call request next).Admits ⟨request, answer⟩ :=
  ⟨_, _, .call trivial (.stop _ _), List.mem_cons_self⟩

theorem admits_later {request : Call} {next : Answer request → Program Call Answer Error Value}
    {exchange : Exchange Call Answer} (answer : Answer request)
    (later : (next answer).Admits exchange) : (Program.call request next).Admits exchange := by
  obtain ⟨trace, rest, reaches, member⟩ := later
  exact ⟨_, rest, .call trivial reaches, List.mem_cons_of_mem _ member⟩

theorem Admits.of_makes {exchange : Exchange Call Answer} (admits : program.Admits exchange)
    (makes : program.Makes permitted) : permitted exchange.1 := by
  obtain ⟨trace, rest, reaches, member⟩ := admits
  exact makes.of_mem reaches member

end ChimpChaos.Library.Program
