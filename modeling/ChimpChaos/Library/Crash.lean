/-
This file is a small logic of crashes, for a program that is run against a service given as a
function.

A specification has two conditions: one on every state in which the run can be cut off, one on
the state at its end. Some calls commit: a run that has made one is no longer cut off, it goes
to its end. The two readings of a specification are `Survives.ended` and `Survives.crashed`, and
`reaches_execFor` finds the run that is cut off among the runs.
-/

import ChimpChaos.Library.Program

namespace ChimpChaos.Library.Program

variable {State Call : Type} {Answer : Call → Type} {Error Value Result : Type}

/-- The state in which a run is cut off after some calls. -/
def execFor (serve : (request : Call) → State → Answer request × State) :
    Nat → Program Call Answer Error Value → State → State
  | 0, _, state => state
  | _ + 1, .done _, state => state
  | _ + 1, .fail _, state => state
  | _ + 1, .panic, state => state
  | count + 1, .call request next, state =>
    execFor serve count (next (serve request state).1) (serve request state).2

/-- What is left of a program that is cut off after some calls. -/
def restFor (serve : (request : Call) → State → Answer request × State) :
    Nat → Program Call Answer Error Value → State → Program Call Answer Error Value
  | 0, program, _ => program
  | count + 1, .call request next, state =>
    restFor serve count (next (serve request state).1) (serve request state).2
  | _ + 1, program, _ => program

/-- Wherever the run is cut off before a committing call `crash` holds, and at its end `finish`
holds. -/
def Survives (serve : (request : Call) → State → Answer request × State) (commits : Call → Bool)
    (crash finish : State → Prop) : Program Call Answer Error Value → State → Prop
  | .done _, state => crash state ∧ finish state
  | .fail _, state => crash state ∧ finish state
  | .panic, state => crash state ∧ finish state
  | .call request next, state => crash state ∧
    if commits request = true then
      finish (exec serve (next (serve request state).1) (serve request state).2).2
    else (next (serve request state).1).Survives serve commits crash finish (serve request state).2

variable {serve : (request : Call) → State → Answer request × State} {commits : Call → Bool}
  {crash finish : State → Prop} {program : Program Call Answer Error Value} {state : State}

/-! ### Runs that are cut off -/

/-- A run that is cut off after some calls is a run. -/
theorem reaches_execFor (serve : (request : Call) → State → Answer request × State) (count : Nat)
    (program : Program Call Answer Error Value) (state : State) :
    Reaches (fun request before answer after => serve request before = (answer, after))
      program state ((program.transcript serve state).take count)
      (restFor serve count program state) (execFor serve count program state) := by
  induction program generalizing count state with
  | call request next inductionHypothesis =>
    cases count with
    | zero => exact .stop _ _
    | succ count => exact .call rfl (inductionHypothesis _ count _)
  | _ => cases count <;> exact .stop _ _

/-- The run that is cut off one call later. -/
theorem execFor_succ (serve : (request : Call) → State → Answer request × State) (count : Nat)
    (program : Program Call Answer Error Value) (state : State) :
    execFor serve (count + 1) program state =
      execFor serve 1 (restFor serve count program state) (execFor serve count program state) := by
  induction program generalizing count state with
  | call request next inductionHypothesis =>
    cases count with
    | zero => rfl
    | succ count => exact inductionHypothesis _ count _
  | _ => cases count <;> rfl

/-- When one call more makes a difference, there is a call left to make. -/
theorem call_of_execFor_ne {count : Nat} (moves : execFor serve (count + 1) program state ≠
      execFor serve count program state) :
    ∃ request next, restFor serve count program state = .call request next ∧
      execFor serve (count + 1) program state =
        (serve request (execFor serve count program state)).2 := by
  rw [execFor_succ] at moves ⊢
  cases rest : restFor serve count program state with
  | call request next => exact ⟨request, next, rfl, rfl⟩
  | _ =>
    rw [rest] at moves
    exact absurd rfl moves

/-! ### The two readings -/

theorem Survives.here (survives : program.Survives serve commits crash finish state) :
    crash state := by
  cases program with
  | done value => exact survives.1
  | fail error => exact survives.1
  | panic => exact survives.1
  | call request next => exact survives.1

/-- A run to the end ends well. -/
theorem Survives.ended (survives : program.Survives serve commits crash finish state) :
    finish (exec serve program state).2 := by
  induction program generalizing state with
  | done value => exact survives.2
  | fail error => exact survives.2
  | panic => exact survives.2
  | call request next inductionHypothesis =>
    have goes := survives.2
    split_ifs at goes with committed
    · exact goes
    · exact inductionHypothesis _ goes

/-- A run that is cut off before it commits leaves a state in which it may be cut off. -/
theorem Survives.crashed (survives : program.Survives serve commits crash finish state)
    (count : Nat)
    (uncommitted : ∀ exchange ∈ (program.transcript serve state).take count,
      commits exchange.1 = false) : crash (execFor serve count program state) := by
  induction program generalizing count state with
  | done value => cases count <;> exact survives.1
  | fail error => cases count <;> exact survives.1
  | panic => cases count <;> exact survives.1
  | call request next inductionHypothesis =>
    cases count with
    | zero => exact survives.1
    | succ count =>
      have goes := survives.2
      have harmless : commits request = false :=
        uncommitted ⟨request, (serve request state).1⟩ List.mem_cons_self
      rw [harmless, if_neg Bool.false_ne_true] at goes
      exact inductionHypothesis _ goes count fun exchange member =>
        uncommitted exchange (List.mem_cons_of_mem _ member)

/-! ### The rules -/

theorem Survives.call {request : Call} {next : Answer request → Program Call Answer Error Value}
    {answer : Answer request} {after : State} (answered : serve request state = (answer, after))
    (harmless : commits request = false) (here : crash state)
    (goes : (next answer).Survives serve commits crash finish after) :
    (Program.call request next).Survives serve commits crash finish state := by
  refine ⟨here, ?_⟩
  rw [harmless, if_neg Bool.false_ne_true, answered]
  exact goes

theorem Survives.request_bind {request : Call}
    {continuation : Answer request → Program Call Answer Error Value} {answer : Answer request}
    {after : State} (answered : serve request state = (answer, after))
    (harmless : commits request = false) (here : crash state)
    (goes : (continuation answer).Survives serve commits crash finish after) :
    (Program.request request >>= continuation).Survives serve commits crash finish state :=
  .call answered harmless here goes

theorem Survives.commit {request : Call} {next : Answer request → Program Call Answer Error Value}
    (committed : commits request = true) (here : crash state)
    (ends : finish (exec serve (next (serve request state).1) (serve request state).2).2) :
    (Program.call request next).Survives serve commits crash finish state := by
  refine ⟨here, ?_⟩
  rw [committed, if_pos rfl]
  exact ends

/-- Handing on a changed value calls nothing. -/
theorem exec_bind_done (serve : (request : Call) → State → Answer request × State)
    (program : Program Call Answer Error Value) (change : Value → Result)
    (state : State) :
    (exec serve (program >>= fun value => .done (change value)) state).2 =
      (exec serve program state).2 := by
  induction program generalizing state with
  | done value => rfl
  | fail error => rfl
  | panic => rfl
  | call request next inductionHypothesis => exact inductionHypothesis _ _

theorem Survives.bind_done (survives : program.Survives serve commits crash finish state)
    (change : Value → Result) :
    (program >>= fun value => .done (change value)).Survives serve commits crash finish state := by
  induction program generalizing state with
  | done value => exact survives
  | fail error => exact survives
  | panic => exact survives
  | call request next inductionHypothesis =>
    have goes := survives.2
    split_ifs at goes with committed
    · have same := exec_bind_done serve (next (serve request state).1) change
        (serve request state).2
      rw [← same] at goes
      exact .commit committed survives.here goes
    · exact .call rfl (Bool.not_eq_true _ ▸ committed) survives.here (inductionHypothesis _ goes)

theorem bind_assoc {Final : Type} (program : Program Call Answer Error Value)
    (first : Value → Program Call Answer Error Result)
    (second : Result → Program Call Answer Error Final) :
    program >>= first >>= second = program >>= fun value => first value >>= second := by
  induction program with
  | done value => rfl
  | fail error => rfl
  | panic => rfl
  | call request next inductionHypothesis =>
    rw [call_bind, call_bind, call_bind]
    exact congrArg _ (funext inductionHypothesis)

end ChimpChaos.Library.Program
