/-
This file runs any number of programs at once against one shared state.

Each running program is a thread with a tag, which says what it was launched for, and the
history of its own calls. A step launches a thread, lets one thread make one call, or lets
the state move by itself; a thread that is never chosen again is one that has died. The
proof rule is rely and guarantee: a global invariant of the state, and a local invariant of
each thread that survives whatever the others do.
-/

import ChimpChaos.Library.Program
import Mathlib.Logic.Relation

namespace ChimpChaos.Library

open Relation Program

variable {Tag State Call : Type} {Answer : Call → Type} {Error Value : Type}

/-- A program that is running. -/
structure Thread (Tag Call : Type) (Answer : Call → Type) (Error Value : Type) where
  tag : Tag
  history : List (Exchange Call Answer)
  rest : Program Call Answer Error Value

/-- A shared state and the programs that run against it. -/
structure Pool (State Tag Call : Type) (Answer : Call → Type) (Error Value : Type) where
  state : State
  threads : List (Thread Tag Call Answer Error Value)

/-- How a pool may move: how calls are answered, what may be launched, and what happens
besides. -/
structure Rules (State Tag Call : Type) (Answer : Call → Type) (Error Value : Type) where
  answers : Tag → (request : Call) → State → Answer request → State → Prop
  launches : State → Tag → Program Call Answer Error Value → Prop
  outside : State → State → Prop

/-- What a step is. -/
inductive Event (Tag Call : Type) where
  | launch (tag : Tag)
  | call (tag : Tag) (request : Call)
  | outside

namespace Pool

variable {rules : Rules State Tag Call Answer Error Value}

inductive Step (rules : Rules State Tag Call Answer Error Value) :
    Event Tag Call → Pool State Tag Call Answer Error Value →
      Pool State Tag Call Answer Error Value → Prop
  | launch {state : State} {threads : List (Thread Tag Call Answer Error Value)} {tag : Tag}
      {program : Program Call Answer Error Value} (launches : rules.launches state tag program) :
      Step rules (.launch tag) ⟨state, threads⟩ ⟨state, ⟨tag, [], program⟩ :: threads⟩
  | call {state after : State} {front back : List (Thread Tag Call Answer Error Value)}
      {tag : Tag} {history : List (Exchange Call Answer)} {request : Call}
      {next : Answer request → Program Call Answer Error Value} {answer : Answer request}
      (answered : rules.answers tag request state answer after) :
      Step rules (.call tag request) ⟨state, front ++ ⟨tag, history, .call request next⟩ :: back⟩
        ⟨after, front ++ ⟨tag, ⟨request, answer⟩ :: history, next answer⟩ :: back⟩
  | outside {state after : State} {threads : List (Thread Tag Call Answer Error Value)}
      (moved : rules.outside state after) : Step rules .outside ⟨state, threads⟩ ⟨after, threads⟩

/-- A pool moves by some step. -/
def Moves (rules : Rules State Tag Call Answer Error Value)
    (before after : Pool State Tag Call Answer Error Value) : Prop :=
  ∃ event, Step rules event before after

/-- What a rely and guarantee argument needs: the invariants, the calls that threads are known
to make, and the order in which the state may change as far as the threads rely on it. -/
structure Contract (State Tag Call : Type) (Answer : Call → Type) where
  Global : State → Prop
  Local : Tag → List (Exchange Call Answer) → State → Prop
  allowed : Tag → List (Exchange Call Answer) → Call → Prop
  Later : State → State → Prop

variable {contract : Contract State Tag Call Answer}

/-- The contract is kept by every rule. -/
structure Keeps (rules : Rules State Tag Call Answer Error Value)
    (contract : Contract State Tag Call Answer) : Prop where
  launch : ∀ state tag program, contract.Global state → rules.launches state tag program →
    contract.Local tag [] state ∧
      program.Follows (contract.allowed tag) (fun _ _ => True) []
  call : ∀ tag history request state answer after, contract.Global state →
    contract.Local tag history state → contract.allowed tag history request →
    rules.answers tag request state answer after →
    contract.Global after ∧ contract.Local tag (⟨request, answer⟩ :: history) after ∧
      contract.Later state after
  outside : ∀ state after, contract.Global state → rules.outside state after →
    contract.Global after ∧ contract.Later state after
  stable : ∀ tag history state after, contract.Later state after →
    contract.Local tag history state → contract.Local tag history after

/-- A pool meets a contract. -/
structure Meets (contract : Contract State Tag Call Answer)
    (pool : Pool State Tag Call Answer Error Value) : Prop where
  global : contract.Global pool.state
  threads : ∀ thread ∈ pool.threads, contract.Local thread.tag thread.history pool.state ∧
    thread.rest.Follows (contract.allowed thread.tag) (fun _ _ => True) thread.history

/-- The thread that makes a call knows what it has done, and the call is one of its own. -/
theorem Meets.caller {state : State} {front back : List (Thread Tag Call Answer Error Value)}
    {tag : Tag} {history : List (Exchange Call Answer)} {request : Call}
    {next : Answer request → Program Call Answer Error Value}
    (meets : Meets contract ⟨state, front ++ ⟨tag, history, .call request next⟩ :: back⟩) :
    contract.Local tag history state ∧ contract.allowed tag history request ∧
      ∀ answer, (next answer).Follows (contract.allowed tag) (fun _ _ => True)
        (⟨request, answer⟩ :: history) := by
  obtain ⟨known, follows⟩ := meets.threads _ (List.mem_append_right front List.mem_cons_self)
  exact ⟨known, follows.1, follows.2⟩

/-- One step keeps the contract. -/
theorem Meets.step (keeps : Keeps rules contract) {event : Event Tag Call}
    {before after : Pool State Tag Call Answer Error Value} (meets : Meets contract before)
    (step : Step rules event before after) : Meets contract after := by
  cases step with
  | launch launches =>
    refine ⟨meets.global, fun thread member => ?_⟩
    rcases List.mem_cons.mp member with rfl | member
    · exact keeps.launch _ _ _ meets.global launches
    · exact meets.threads thread member
  | @call state after front back tag history request next answer answered =>
    obtain ⟨known, allowed, follows⟩ := meets.caller
    obtain ⟨global, learnt, later⟩ := keeps.call _ _ _ _ _ _ meets.global known allowed answered
    refine ⟨global, fun thread member => ?_⟩
    have others (other : Thread Tag Call Answer Error Value)
        (elsewhere : other ∈ front ∨ other ∈ back) :
        contract.Local other.tag other.history after ∧
          other.rest.Follows (contract.allowed other.tag) (fun _ _ => True) other.history := by
      obtain ⟨knownOther, followsOther⟩ := meets.threads other (by
        rw [List.mem_append, List.mem_cons]
        exact elsewhere.imp_right Or.inr)
      exact ⟨keeps.stable _ _ _ _ later knownOther, followsOther⟩
    rcases List.mem_append.mp member with inFront | member
    · exact others thread (Or.inl inFront)
    · rcases List.mem_cons.mp member with rfl | inBack
      · exact ⟨learnt, follows answer⟩
      · exact others thread (Or.inr inBack)
  | outside moved =>
    obtain ⟨global, later⟩ := keeps.outside _ _ meets.global moved
    refine ⟨global, fun thread member => ?_⟩
    obtain ⟨known, follows⟩ := meets.threads thread member
    exact ⟨keeps.stable _ _ _ _ later known, follows⟩

/-- The rely and guarantee rule: every run keeps the contract. -/
theorem Meets.run (keeps : Keeps rules contract)
    {before after : Pool State Tag Call Answer Error Value} (meets : Meets contract before)
    (run : ReflTransGen (Moves rules) before after) : Meets contract after := by
  induction run with
  | refl => exact meets
  | tail _ last inductionHypothesis =>
    obtain ⟨event, step⟩ := last
    exact inductionHypothesis.step keeps step

/-! ### Histories that obey a contract -/

/-- Each exchange of a history was allowed by the ones before it. -/
def Obeys (allowed : List (Exchange Call Answer) → Call → Prop) :
    List (Exchange Call Answer) → Prop
  | [] => True
  | exchange :: earlier => allowed earlier exchange.1 ∧ Obeys allowed earlier

theorem Obeys.of_mem {allowed : List (Exchange Call Answer) → Call → Prop}
    {history : List (Exchange Call Answer)} (obeys : Obeys allowed history)
    {exchange : Exchange Call Answer} (member : exchange ∈ history) :
    ∃ earlier ⊆ history, allowed earlier exchange.1 := by
  induction history with
  | nil => cases member
  | cons last earlier inductionHypothesis =>
    rcases List.mem_cons.mp member with rfl | member
    · exact ⟨earlier, List.subset_cons_self _ _, obeys.1⟩
    · obtain ⟨first, within, permitted⟩ := inductionHypothesis obeys.2 member
      exact ⟨first, List.Subset.trans within (List.subset_cons_self _ _), permitted⟩

/-- The contract of programs that make only allowed calls. -/
def obeying (State : Type) (allowed : Tag → List (Exchange Call Answer) → Call → Prop) :
    Contract State Tag Call Answer where
  Global _ := True
  Local tag history _ := Obeys (allowed tag) history
  allowed := allowed
  Later _ _ := True

theorem keeps_obeying {allowed : Tag → List (Exchange Call Answer) → Call → Prop}
    (follows : ∀ state tag program, rules.launches state tag program →
      program.Follows (allowed tag) (fun _ _ => True) []) :
    Keeps rules (obeying State allowed) where
  launch state tag program _ launches := ⟨trivial, follows state tag program launches⟩
  call _ _ _ _ _ _ _ obeys permitted _ := ⟨trivial, ⟨permitted, obeys⟩, trivial⟩
  outside _ _ _ _ := ⟨trivial, trivial⟩
  stable _ _ _ _ _ obeys := obeys

/-- What is known of a call when it is made. -/
theorem Meets.called {tag : Tag} {request : Call}
    {before after : Pool State Tag Call Answer Error Value} (meets : Meets contract before)
    (step : Step rules (.call tag request) before after) :
    ∃ history answer, contract.Local tag history before.state ∧
      contract.allowed tag history request ∧
      rules.answers tag request before.state answer after.state := by
  cases step with
  | call answered =>
    obtain ⟨known, allowed, -⟩ := meets.caller
    exact ⟨_, _, known, allowed, answered⟩

/-- A run of one program is a run of the pool in which it is a thread. -/
theorem run_thread {tag : Tag} {program rest : Program Call Answer Error Value}
    {state final : State} {trace : List (Exchange Call Answer)}
    (reaches : Reaches (rules.answers tag) program state trace rest final)
    (front back : List (Thread Tag Call Answer Error Value))
    (history : List (Exchange Call Answer)) :
    ReflTransGen (Moves rules) ⟨state, front ++ ⟨tag, history, program⟩ :: back⟩
      ⟨final, front ++ ⟨tag, trace.reverse ++ history, rest⟩ :: back⟩ := by
  induction reaches generalizing history with
  | stop program state => exact .refl
  | call answered _ inductionHypothesis =>
    rw [List.reverse_cons, List.append_assoc]
    exact .head ⟨_, .call answered⟩ (inductionHypothesis _)

/-- What every call made for a tag keeps, wherever a run may be, a whole thread keeps. -/
theorem thread_keeps {Kept : State → Prop} {tag : Tag}
    {initial : Pool State Tag Call Answer Error Value}
    (kept : ∀ before after request, ReflTransGen (Moves rules) initial before →
      Step rules (.call tag request) before after → Kept before.state → Kept after.state)
    {program rest : Program Call Answer Error Value} {state final : State}
    {trace : List (Exchange Call Answer)}
    (reaches : Reaches (rules.answers tag) program state trace rest final)
    (front back : List (Thread Tag Call Answer Error Value))
    (history : List (Exchange Call Answer))
    (run : ReflTransGen (Moves rules) initial
      ⟨state, front ++ ⟨tag, history, program⟩ :: back⟩) (start : Kept state) : Kept final := by
  induction reaches generalizing history with
  | stop program state => exact start
  | @call request next state middle final answer trace rest answered _ inductionHypothesis =>
    have step : Step rules (.call tag request)
        ⟨state, front ++ ⟨tag, history, .call request next⟩ :: back⟩
        ⟨middle, front ++ ⟨tag, ⟨request, answer⟩ :: history, next answer⟩ :: back⟩ :=
      .call answered
    exact inductionHypothesis _ (run.tail ⟨_, step⟩) (kept _ _ _ run step start)

/-! ### Runs with their steps -/

/-- A step that a pool has taken. -/
structure Taken (State Tag Call : Type) (Answer : Call → Type) (Error Value : Type) where
  event : Event Tag Call
  before : Pool State Tag Call Answer Error Value
  after : Pool State Tag Call Answer Error Value

/-- A run with the steps it has taken, the newest first. -/
inductive Run (rules : Rules State Tag Call Answer Error Value)
    (initial : Pool State Tag Call Answer Error Value) :
    List (Taken State Tag Call Answer Error Value) →
      Pool State Tag Call Answer Error Value → Prop
  | start : Run rules initial [] initial
  | step {taken : List (Taken State Tag Call Answer Error Value)} {event : Event Tag Call}
      {before after : Pool State Tag Call Answer Error Value}
      (run : Run rules initial taken before) (step : Step rules event before after) :
      Run rules initial (⟨event, before, after⟩ :: taken) after

theorem Run.taken {initial final : Pool State Tag Call Answer Error Value}
    {taken : List (Taken State Tag Call Answer Error Value)}
    (run : Run rules initial taken final) :
    ∀ step ∈ taken, Step rules step.event step.before step.after := by
  induction run with
  | start => exact nofun
  | step _ last inductionHypothesis =>
    intro step member
    rcases List.mem_cons.mp member with rfl | member
    · exact last
    · exact inductionHypothesis step member

theorem Run.moves {initial final : Pool State Tag Call Answer Error Value}
    {taken : List (Taken State Tag Call Answer Error Value)}
    (run : Run rules initial taken final) : ReflTransGen (Moves rules) initial final := by
  induction run with
  | start => exact .refl
  | step _ last inductionHypothesis => exact inductionHypothesis.tail ⟨_, last⟩

/-- A run takes some steps. -/
theorem exists_run {initial final : Pool State Tag Call Answer Error Value}
    (moves : ReflTransGen (Moves rules) initial final) :
    ∃ taken, Run rules initial taken final := by
  induction moves with
  | refl => exact ⟨[], .start⟩
  | tail _ last inductionHypothesis =>
    obtain ⟨taken, run⟩ := inductionHypothesis
    obtain ⟨event, step⟩ := last
    exact ⟨_, run.step step⟩

theorem Run.before {initial final : Pool State Tag Call Answer Error Value}
    {taken : List (Taken State Tag Call Answer Error Value)}
    (run : Run rules initial taken final) :
    ∀ step ∈ taken, ReflTransGen (Moves rules) initial step.before := by
  induction run with
  | start => exact nofun
  | step run _ inductionHypothesis =>
    intro step member
    rcases List.mem_cons.mp member with rfl | member
    · exact run.moves
    · exact inductionHypothesis step member

/-- Every exchange of a thread was a step of the run. -/
theorem Run.exchanged {initial final : Pool State Tag Call Answer Error Value}
    {taken : List (Taken State Tag Call Answer Error Value)} (idle : initial.threads = [])
    (run : Run rules initial taken final) :
    ∀ thread ∈ final.threads, ∀ exchange ∈ thread.history,
      ∃ step ∈ taken, step.event = .call thread.tag exchange.1 ∧
        rules.answers thread.tag exchange.1 step.before.state exchange.2 step.after.state := by
  induction run with
  | start =>
    intro thread member
    rw [idle] at member
    cases member
  | @step taken event before after _ last inductionHypothesis =>
    have earlier : ∀ thread ∈ before.threads, ∀ exchange ∈ thread.history,
        ∃ step ∈ (⟨event, before, after⟩ :: taken : List (Taken State Tag Call Answer Error Value)),
          step.event = .call thread.tag exchange.1 ∧
            rules.answers thread.tag exchange.1 step.before.state exchange.2 step.after.state := by
      intro thread member exchange made
      obtain ⟨step, member, known⟩ := inductionHypothesis thread member exchange made
      exact ⟨step, List.mem_cons_of_mem _ member, known⟩
    cases last with
    | launch launches =>
      intro thread member
      rcases List.mem_cons.mp member with rfl | member
      · exact fun _ absent => absurd absent List.not_mem_nil
      · exact earlier thread member
    | @call state after front back tag history request next answer answered =>
      intro thread member
      rcases List.mem_append.mp member with inFront | member
      · exact earlier thread (List.mem_append_left _ inFront)
      rcases List.mem_cons.mp member with rfl | inBack
      · intro exchange made
        rcases List.mem_cons.mp made with rfl | made
        · exact ⟨_, List.mem_cons_self, rfl, answered⟩
        · exact earlier ⟨tag, history, .call request next⟩
            (List.mem_append_right _ List.mem_cons_self) exchange made
      · exact earlier thread (List.mem_append_right _ (List.mem_cons_of_mem _ inBack))
    | outside moved => exact earlier

/-! ### Pools that come to an end -/

/-- One thread makes a call, whatever the answer. -/
inductive Works : List (Thread Tag Call Answer Error Value) →
    List (Thread Tag Call Answer Error Value) → Prop
  | call (front back : List (Thread Tag Call Answer Error Value)) (tag : Tag)
      (history : List (Exchange Call Answer)) (request : Call)
      (next : Answer request → Program Call Answer Error Value) (answer : Answer request) :
      Works (front ++ ⟨tag, history, .call request next⟩ :: back)
        (front ++ ⟨tag, ⟨request, answer⟩ :: history, next answer⟩ :: back)

theorem Works.of_cons {thread : Thread Tag Call Answer Error Value}
    {rest after : List (Thread Tag Call Answer Error Value)}
    (works : Works (thread :: rest) after) :
    (∃ request next, ∃ answer : Answer request, thread.rest = .call request next ∧
        after = ⟨thread.tag, ⟨request, answer⟩ :: thread.history, next answer⟩ :: rest) ∨
      ∃ rest', Works rest rest' ∧ after = thread :: rest' := by
  generalize same : thread :: rest = before at works
  obtain ⟨front, back, tag, history, request, next, answer⟩ := works
  cases front with
  | nil =>
    obtain ⟨rfl, rfl⟩ := List.cons.inj same
    exact Or.inl ⟨request, next, answer, rfl, rfl⟩
  | cons first front =>
    obtain ⟨rfl, rfl⟩ := List.cons.inj same
    exact Or.inr ⟨_, .call front back tag history request next answer, rfl⟩

theorem acc_works_of_next {rest : List (Thread Tag Call Answer Error Value)}
    (others : Acc (fun after before => Works before after) rest)
    (thread : Thread Tag Call Answer Error Value)
    (answers : ∀ request next, thread.rest = .call request next → ∀ answer rest,
      Acc (fun after before => Works before after) rest →
      Acc (fun after before => Works before after)
        (⟨thread.tag, ⟨request, answer⟩ :: thread.history, next answer⟩ :: rest)) :
    Acc (fun after before => Works before after) (thread :: rest) := by
  induction others with
  | intro rest others inductionHypothesis =>
    refine ⟨_, fun after works => ?_⟩
    obtain ⟨request, next, answer, same, rfl⟩ | ⟨rest', elsewhere, rfl⟩ := works.of_cons
    · exact answers request next same answer rest ⟨rest, others⟩
    · exact inductionHypothesis rest' elsewhere

/-- A thread more is a program more to be finished. The induction is on this program, and inside
on the calls of the others. -/
theorem acc_works_cons {rest : List (Thread Tag Call Answer Error Value)}
    (others : Acc (fun after before => Works before after) rest)
    (program : Program Call Answer Error Value) (tag : Tag)
    (history : List (Exchange Call Answer)) :
    Acc (fun after before => Works before after) (⟨tag, history, program⟩ :: rest) := by
  induction program generalizing rest history with
  | call request next inductionHypothesis =>
    refine acc_works_of_next others _ fun request' next' same answer rest' others' => ?_
    cases same
    exact inductionHypothesis answer others' _
  | _ => exact acc_works_of_next others _ nofun

theorem acc_works (threads : List (Thread Tag Call Answer Error Value)) :
    Acc (fun after before => Works before after) threads := by
  induction threads with
  | nil =>
    refine ⟨_, fun after works => ?_⟩
    generalize same : [] = before at works
    obtain ⟨front, back, tag, history, request, next, answer⟩ := works
    exact absurd same.symm (List.append_ne_nil_of_right_ne_nil _ (List.cons_ne_nil _ _))
  | cons thread rest inductionHypothesis =>
    exact acc_works_cons inductionHypothesis thread.rest thread.tag thread.history

/-- Nothing is launched, and nothing happens besides. -/
structure Closed (rules : Rules State Tag Call Answer Error Value) : Prop where
  launches : ∀ state tag program, ¬ rules.launches state tag program
  outside : ∀ before after, ¬ rules.outside before after

theorem Closed.works (closed : Closed rules) {before after : Pool State Tag Call Answer Error Value}
    (moves : Moves rules before after) : Works before.threads after.threads := by
  obtain ⟨event, step⟩ := moves
  cases step with
  | launch launches => exact absurd launches (closed.launches _ _ _)
  | call answered => exact .call _ _ _ _ _ _ _
  | outside moved => exact absurd moved (closed.outside _ _)

/-- No run of a closed pool goes on forever. -/
theorem Closed.ends (closed : Closed rules) (pool : Pool State Tag Call Answer Error Value) :
    Acc (fun after before => Moves rules before after) pool :=
  Subrelation.accessible (fun moves => closed.works moves)
    (InvImage.accessible Pool.threads (acc_works pool.threads))

/-- A closed pool whose threads have all ended cannot go on. -/
theorem Closed.stuck (closed : Closed rules) {pool : Pool State Tag Call Answer Error Value}
    (ended : ∀ thread ∈ pool.threads, thread.rest.Ended) : ∀ after, ¬ Moves rules pool after := by
  intro after moves
  have works := closed.works moves
  generalize pool.threads = threads at ended works
  generalize after.threads = threads' at works
  obtain ⟨front, back, tag, history, request, next, answer⟩ := works
  exact ended _ (List.mem_append_right front List.mem_cons_self)

/-- Where a pool whose calls are all answered cannot go on, every thread has ended. -/
theorem ended_of_stuck {pool : Pool State Tag Call Answer Error Value}
    (answered : ∀ tag request, ∃ answer after, rules.answers tag request pool.state answer after)
    (stuck : ∀ after, ¬ Moves rules pool after) :
    ∀ thread ∈ pool.threads, thread.rest.Ended := by
  rintro ⟨tag, history, rest⟩ member
  cases rest with
  | call request next =>
    obtain ⟨front, back, same⟩ := List.append_of_mem member
    obtain ⟨answer, after, told⟩ := answered tag request
    obtain ⟨state, threads⟩ := pool
    subst same
    exact absurd ⟨_, .call told⟩ (stuck _)
  | _ => trivial

end Pool

end ChimpChaos.Library
