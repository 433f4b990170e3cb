/-
This file is a small theory of programs that work by calling an outside service.

A program is a tree: it returns a value, fails with an error, panics, or makes one call
and goes on with the answer. The theory has three readings of a program. `Follows` is
the contract of its calls against every possible answer, with the history of the calls
made so far. `Reaches` is a run against a service given as a step relation; a run may
stop after any call, which is what a crash is. `exec` is the run to the end against a
service given as a function. The invariant rule ties the first two together: what every
permitted call preserves holds wherever a run stops.
-/

import Mathlib.Data.List.Basic

namespace ChimpChaos.Library

/-- A sequential program over an interface of calls. -/
inductive Program (Call : Type) (Answer : Call → Type) (Error Value : Type) : Type where
  | done (value : Value)
  | fail (error : Error)
  | panic
  | call (request : Call) (next : Answer request → Program Call Answer Error Value)

/-- One call together with its answer. -/
abbrev Exchange (Call : Type) (Answer : Call → Type) : Type := (request : Call) × Answer request

namespace Program

variable {Call : Type} {Answer : Call → Type} {Error Value Result : Type}

/-! ### Sequencing -/

/-- Run one program and continue with its value. Failures and panics end the whole. -/
def bind : Program Call Answer Error Value → (Value → Program Call Answer Error Result) →
    Program Call Answer Error Result
  | .done value, continuation => continuation value
  | .fail error, _ => .fail error
  | .panic, _ => .panic
  | .call request next, continuation =>
    .call request fun answer => (next answer).bind continuation

instance : Monad (Program Call Answer Error) where
  pure := .done
  bind := bind

/-- A single call. -/
def request (call : Call) : Program Call Answer Error (Answer call) := .call call .done

/-- The value of a result, or its error as the failure of the program. -/
def ofExcept : Except Error Value → Program Call Answer Error Value
  | .ok value => .done value
  | .error error => .fail error

/-- The value of an option; a missing value is a panic. -/
def ofOption : Option Value → Program Call Answer Error Value
  | some value => .done value
  | none => .panic

/-- Run a program and hand its failure on as a result. Panics are not caught. -/
def attempt : Program Call Answer Error Value → Program Call Answer Error (Except Error Value)
  | .done value => .done (.ok value)
  | .fail error => .done (.error error)
  | .panic => .panic
  | .call request next => .call request fun answer => (next answer).attempt

/-- A program as one over a larger interface: each call is put as a call of that interface, and
its answer is translated back. -/
def inject {LargerCall : Type} {LargerAnswer : LargerCall → Type} (put : Call → LargerCall)
    (answerOf : (request : Call) → LargerAnswer (put request) → Answer request) :
    Program Call Answer Error Value → Program LargerCall LargerAnswer Error Value
  | .done value => .done value
  | .fail error => .fail error
  | .panic => .panic
  | .call request next =>
    .call (put request) fun answer => (next (answerOf request answer)).inject put answerOf

@[simp] theorem pure_eq (value : Value) :
    (pure value : Program Call Answer Error Value) = .done value := rfl

@[simp] theorem ofExcept_ok (value : Value) :
    (ofExcept (.ok value) : Program Call Answer Error Value) = .done value := rfl

@[simp] theorem ofExcept_error (error : Error) :
    (ofExcept (.error error) : Program Call Answer Error Value) = .fail error := rfl

@[simp] theorem ofOption_some (value : Value) :
    (ofOption (some value) : Program Call Answer Error Value) = .done value := rfl

@[simp] theorem ofOption_none :
    (ofOption none : Program Call Answer Error Value) = .panic := rfl

@[simp] theorem done_bind (value : Value)
    (continuation : Value → Program Call Answer Error Result) :
    ((.done value : Program Call Answer Error Value) >>= continuation) = continuation value := rfl

@[simp] theorem fail_bind (error : Error)
    (continuation : Value → Program Call Answer Error Result) :
    ((.fail error : Program Call Answer Error Value) >>= continuation) = .fail error := rfl

@[simp] theorem panic_bind (continuation : Value → Program Call Answer Error Result) :
    ((.panic : Program Call Answer Error Value) >>= continuation) = .panic := rfl

@[simp] theorem call_bind (call : Call) (next : Answer call → Program Call Answer Error Value)
    (continuation : Value → Program Call Answer Error Result) :
    ((.call call next : Program Call Answer Error Value) >>= continuation) =
      .call call fun answer => next answer >>= continuation := rfl

@[simp] theorem request_bind (call : Call)
    (continuation : Answer call → Program Call Answer Error Result) :
    (request call >>= continuation) = .call call continuation := rfl

/-! ### The contract of the calls -/

/-- Every call the program can make is allowed by the history in which it is made, and
every way it can end satisfies the closing condition. The newest exchange comes first. -/
def Follows (allowed : List (Exchange Call Answer) → Call → Prop)
    (finish : List (Exchange Call Answer) → Except Error Value → Prop) :
    Program Call Answer Error Value → List (Exchange Call Answer) → Prop
  | .done value, history => finish history (.ok value)
  | .fail error, history => finish history (.error error)
  | .panic, _ => True
  | .call request next, history =>
    allowed history request ∧
      ∀ answer, (next answer).Follows allowed finish (⟨request, answer⟩ :: history)

variable {allowed : List (Exchange Call Answer) → Call → Prop}
  {history : List (Exchange Call Answer)}

@[simp] theorem follows_call {finish : List (Exchange Call Answer) → Except Error Value → Prop}
    (request : Call) (next : Answer request → Program Call Answer Error Value) :
    (Program.call request next).Follows allowed finish history ↔
      allowed history request ∧
        ∀ answer, (next answer).Follows allowed finish (⟨request, answer⟩ :: history) := Iff.rfl

theorem Follows.weaken {program : Program Call Answer Error Value}
    {first second : List (Exchange Call Answer) → Except Error Value → Prop}
    (follows : program.Follows allowed first history)
    (implies : ∀ later result, first later result → second later result) :
    program.Follows allowed second history := by
  induction program generalizing history with
  | done value => exact implies _ _ follows
  | fail error => exact implies _ _ follows
  | panic => trivial
  | call request next inductionHypothesis =>
    exact ⟨follows.1, fun answer => inductionHypothesis answer (follows.2 answer)⟩

theorem Follows.bind {program : Program Call Answer Error Value}
    {continuation : Value → Program Call Answer Error Result}
    {middle : List (Exchange Call Answer) → Except Error Value → Prop}
    {finish : List (Exchange Call Answer) → Except Error Result → Prop}
    (follows : program.Follows allowed middle history)
    (returns : ∀ later value, middle later (.ok value) →
      (continuation value).Follows allowed finish later)
    (fails : ∀ later error, middle later (.error error) → finish later (.error error)) :
    (program >>= continuation).Follows allowed finish history := by
  induction program generalizing history with
  | done value => exact returns _ _ follows
  | fail error => exact fails _ _ follows
  | panic => trivial
  | call request next inductionHypothesis =>
    exact ⟨follows.1, fun answer => inductionHypothesis answer (follows.2 answer)⟩

theorem Follows.attempt {program : Program Call Answer Error Value}
    {middle : List (Exchange Call Answer) → Except Error Value → Prop}
    {finish : List (Exchange Call Answer) → Except Error (Except Error Value) → Prop}
    (follows : program.Follows allowed middle history)
    (caught : ∀ later result, middle later result → finish later (.ok result)) :
    program.attempt.Follows allowed finish history := by
  induction program generalizing history with
  | done value => exact caught _ _ follows
  | fail error => exact caught _ _ follows
  | panic => trivial
  | call request next inductionHypothesis =>
    exact ⟨follows.1, fun answer => inductionHypothesis answer (follows.2 answer)⟩

/-- A program over a larger interface may make its calls there when they are permitted as long
as something holds that they keep. -/
theorem Follows.inject {LargerCall : Type} {LargerAnswer : LargerCall → Type}
    {put : Call → LargerCall}
    {answerOf : (request : Call) → LargerAnswer (put request) → Answer request}
    {program : Program Call Answer Error Value} {finish : Except Error Value → Prop}
    {allowed' : List (Exchange LargerCall LargerAnswer) → LargerCall → Prop}
    {finish' : List (Exchange LargerCall LargerAnswer) → Except Error Value → Prop}
    {Keeps : List (Exchange LargerCall LargerAnswer) → Prop}
    (follows : program.Follows (fun _ _ => True) (fun _ result => finish result) history)
    (permitted : ∀ later request, Keeps later → allowed' later (put request))
    (kept : ∀ later request answer, Keeps later → Keeps (⟨put request, answer⟩ :: later))
    (ends : ∀ later result, Keeps later → finish result → finish' later result)
    {history' : List (Exchange LargerCall LargerAnswer)} (start : Keeps history') :
    (program.inject put answerOf).Follows allowed' finish' history' := by
  induction program generalizing history history' with
  | done value => exact ends _ _ start follows
  | fail error => exact ends _ _ start follows
  | panic => trivial
  | call request next inductionHypothesis =>
    exact ⟨permitted _ _ start, fun answer =>
      inductionHypothesis _ (follows.2 _) (kept _ _ _ start)⟩

/-! ### Runs against a step relation -/

variable {State : Type}

/-- A run of a program against a service: from a program and a state, through a list of
exchanges, to the rest of the program and the state there. A run may stop anywhere. -/
inductive Reaches (step : (request : Call) → State → Answer request → State → Prop) :
    Program Call Answer Error Value → State → List (Exchange Call Answer) →
      Program Call Answer Error Value → State → Prop
  | stop (program : Program Call Answer Error Value) (state : State) :
      Reaches step program state [] program state
  | call {request : Call} {next : Answer request → Program Call Answer Error Value}
      {state middle final : State} {answer : Answer request}
      {trace : List (Exchange Call Answer)} {rest : Program Call Answer Error Value}
      (answered : step request state answer middle)
      (reaches : Reaches step (next answer) middle trace rest final) :
      Reaches step (.call request next) state (⟨request, answer⟩ :: trace) rest final

variable {step : (request : Call) → State → Answer request → State → Prop}
  {program rest : Program Call Answer Error Value} {state final : State}
  {trace : List (Exchange Call Answer)}
  {finish : List (Exchange Call Answer) → Except Error Value → Prop}

/-- The invariant rule. What every allowed call preserves, with the history it is made in,
holds wherever a run of the program stops. -/
theorem Reaches.invariant {Keeps : List (Exchange Call Answer) → State → Prop}
    (preserved : ∀ earlier request before answer after, Keeps earlier before →
      allowed earlier request → step request before answer after →
      Keeps (⟨request, answer⟩ :: earlier) after)
    (reaches : Reaches step program state trace rest final)
    (follows : program.Follows allowed finish history) (start : Keeps history state) :
    Keeps (trace.reverse ++ history) final ∧
      rest.Follows allowed finish (trace.reverse ++ history) := by
  induction reaches generalizing history with
  | stop program state => exact ⟨start, follows⟩
  | call answered reaches inductionHypothesis =>
    rw [List.reverse_cons, List.append_assoc]
    exact inductionHypothesis (follows.2 _) (preserved _ _ _ _ _ start follows.1 answered)

/-- What is left of a program keeps to its contract. -/
theorem Reaches.follows (reaches : Reaches step program state trace rest final)
    (follows : program.Follows allowed finish history) :
    rest.Follows allowed finish (trace.reverse ++ history) := by
  let Anything (_ : List (Exchange Call Answer)) (_ : State) : Prop := True
  have start : Anything history state := trivial
  exact (reaches.invariant (fun _ _ _ _ _ _ _ _ => trivial) follows start).2

theorem Reaches.weaken {other : (request : Call) → State → Answer request → State → Prop}
    (reaches : Reaches step program state trace rest final)
    (implies : ∀ request before answer after, step request before answer after →
      other request before answer after) :
    Reaches other program state trace rest final := by
  induction reaches with
  | stop program state => exact .stop program state
  | call answered reaches inductionHypothesis =>
    exact .call (implies _ _ _ _ answered) inductionHypothesis

/-- Every exchange of a run is one the service allows. -/
theorem Reaches.answered (reaches : Reaches step program state trace rest final)
    {exchange : Exchange Call Answer} (member : exchange ∈ trace) :
    ∃ before after, step exchange.1 before exchange.2 after := by
  induction reaches with
  | stop program state => cases member
  | call answered _ inductionHypothesis =>
    rcases List.mem_cons.mp member with rfl | member
    · exact ⟨_, _, answered⟩
    · exact inductionHypothesis member

/-! ### Runs to the end -/

/-- There is nothing left to call. -/
def Ended : Program Call Answer Error Value → Prop
  | .call .. => False
  | _ => True

/-- A run against a service is a run in which calls are answered by anything. -/
theorem Reaches.forget (reaches : Reaches step program state trace rest final) :
    Reaches (fun _ (_ : Unit) _ _ => True) program () trace rest () := by
  induction reaches with
  | stop program state => exact .stop program ()
  | call _ _ inductionHypothesis => exact .call trivial inductionHypothesis

/-- A run of a program without calls makes none. -/
theorem Reaches.of_ended (reaches : Reaches step program state trace rest final)
    (ended : program.Ended) : trace = [] ∧ rest = program ∧ final = state := by
  cases reaches with
  | stop => exact ⟨rfl, rfl, rfl⟩
  | call => cases ended

/-- A run to the end of a program that begins with a call makes this call first. -/
theorem Reaches.of_call {request : Call} {next : Answer request → Program Call Answer Error Value}
    (reaches : Reaches step (.call request next) state trace rest final) (ended : rest.Ended) :
    ∃ answer middle later, trace = ⟨request, answer⟩ :: later ∧
      step request state answer middle ∧ Reaches step (next answer) middle later rest final := by
  cases reaches with
  | stop => cases ended
  | call answered reaches => exact ⟨_, _, _, rfl, answered, reaches⟩

/-! ### Runs to the end against a function -/

/-- How a run to the end ends. -/
inductive Outcome (Error Value : Type) : Type where
  | returned (value : Value)
  | failed (error : Error)
  | panicked
  deriving DecidableEq, Repr

/-- Run a program to its end against a service given as a function. -/
def exec (serve : (request : Call) → State → Answer request × State) :
    Program Call Answer Error Value → State → Outcome Error Value × State
  | .done value, state => (.returned value, state)
  | .fail error, state => (.failed error, state)
  | .panic, state => (.panicked, state)
  | .call request next, state =>
    (next (serve request state).1).exec serve (serve request state).2

variable {serve : (request : Call) → State → Answer request × State}

@[simp] theorem exec_done (value : Value) (state : State) :
    exec serve (.done value : Program Call Answer Error Value) state = (.returned value, state) :=
  rfl

@[simp] theorem exec_fail (error : Error) (state : State) :
    exec serve (.fail error : Program Call Answer Error Value) state = (.failed error, state) := rfl

@[simp] theorem exec_panic (state : State) :
    exec serve (.panic : Program Call Answer Error Value) state = (.panicked, state) := rfl

@[simp] theorem exec_call (request : Call)
    (next : Answer request → Program Call Answer Error Value) (state : State) :
    exec serve (.call request next) state =
      exec serve (next (serve request state).1) (serve request state).2 := rfl

@[simp] theorem exec_ofExcept (result : Except Error Value) (state : State) :
    (exec serve (ofExcept result : Program Call Answer Error Value) state).2 = state := by
  cases result <;> rfl

/-- What is left of a program that has ended. -/
def Outcome.remaining : Outcome Error Value → Program Call Answer Error Value
  | .returned value => .done value
  | .failed error => .fail error
  | .panicked => .panic

theorem Outcome.remaining_ended (outcome : Outcome Error Value) :
    (outcome.remaining : Program Call Answer Error Value).Ended := by
  cases outcome <;> trivial

/-- The exchanges of the run to the end. -/
def transcript (serve : (request : Call) → State → Answer request × State) :
    Program Call Answer Error Value → State → List (Exchange Call Answer)
  | .done _, _ => []
  | .fail _, _ => []
  | .panic, _ => []
  | .call request next, state =>
    ⟨request, (serve request state).1⟩ ::
      (next (serve request state).1).transcript serve (serve request state).2

theorem answer_of_mem_transcript {serve : (request : Call) → State → Answer request × State}
    {program : Program Call Answer Error Value} {state : State} {exchange : Exchange Call Answer}
    (member : exchange ∈ program.transcript serve state) :
    ∃ before, exchange.2 = (serve exchange.1 before).1 := by
  induction program generalizing state with
  | done value => cases member
  | fail error => cases member
  | panic => cases member
  | call request next inductionHypothesis =>
    rcases List.mem_cons.mp member with rfl | member
    · exact ⟨state, rfl⟩
    · exact inductionHypothesis _ member

/-- The run to the end is a run, and it leaves nothing to do but to end as it says. -/
theorem reaches_exec (serve : (request : Call) → State → Answer request × State)
    (program : Program Call Answer Error Value) (state : State) :
    Reaches (fun request before answer after => serve request before = (answer, after))
      program state (program.transcript serve state) (exec serve program state).1.remaining
      (exec serve program state).2 := by
  induction program generalizing state with
  | done value => exact .stop _ _
  | fail error => exact .stop _ _
  | panic => exact .stop _ _
  | call request next inductionHypothesis =>
    exact .call rfl (inductionHypothesis (serve request state).1 (serve request state).2)

/-- The run to the end against a function is a run against every relation the function stays in. -/
theorem reaches_serving (serves : ∀ request state,
      step request state (serve request state).1 (serve request state).2)
    (program : Program Call Answer Error Value) (state : State) :
    Reaches step program state (program.transcript serve state)
      (exec serve program state).1.remaining (exec serve program state).2 := by
  refine (reaches_exec serve program state).weaken fun request before answer after same => ?_
  have answered := serves request before
  rw [same] at answered
  exact answered

end Program

end ChimpChaos.Library
