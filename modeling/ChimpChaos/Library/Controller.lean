/-
This file is a small theory of controllers that keep one stored state up to date.

A controller decodes a snapshot from the stored state and runs a program on it, whose calls
may change the state; a pass may stop after any call. The two rules are those of invariants:
what every permitted call keeps holds wherever a pass stops, and what every pass keeps holds
in every state of a run.
-/

import ChimpChaos.Library.Program
import Mathlib.Logic.Relation

namespace ChimpChaos.Library

open Program Relation

/-- How a stored state is read, what is done about it, and how the calls are answered. -/
structure Controller (State Snapshot Call : Type) (Answer : Call → Type)
    (Error Value : Type) where
  snapshot : State → Option Snapshot
  pass : Snapshot → Program Call Answer Error Value
  answers : (request : Call) → State → Answer request → State → Prop

namespace Controller

variable {State Snapshot Call : Type} {Answer : Call → Type} {Error Value : Type}
  (controller : Controller State Snapshot Call Answer Error Value)

/-- One pass on the stored state, up to some call. -/
inductive Pass (before : State) : List (Exchange Call Answer) → State → Prop
  | run {snapshot : Snapshot} {trace : List (Exchange Call Answer)}
      {rest : Program Call Answer Error Value} {after : State}
      (decoded : controller.snapshot before = some snapshot)
      (reaches : Reaches controller.answers (controller.pass snapshot) before trace rest after) :
      Pass before trace after

/-- A pass that is accepted. -/
def Moves (accepts : State → List (Exchange Call Answer) → Prop) (before after : State) : Prop :=
  ∃ trace, controller.Pass before trace after ∧ accepts before trace

variable {controller} {before after : State} {trace : List (Exchange Call Answer)}

/-- What every permitted call of a pass keeps holds where the pass stops. -/
theorem Pass.invariant (pass : controller.Pass before trace after)
    {allowed : Snapshot → List (Exchange Call Answer) → Call → Prop}
    (follows : ∀ snapshot, controller.snapshot before = some snapshot →
      (controller.pass snapshot).Follows (allowed snapshot) (fun _ _ => True) [])
    {Keeps : List (Exchange Call Answer) → State → Prop} (start : Keeps [] before)
    (preserved : ∀ snapshot earlier request middle answer next,
      controller.snapshot before = some snapshot → Keeps earlier middle →
      allowed snapshot earlier request → controller.answers request middle answer next →
      Keeps (⟨request, answer⟩ :: earlier) next) : Keeps trace.reverse after := by
  cases pass with
  | run decoded reaches =>
    have kept := reaches.invariant
      (fun earlier request middle answer next keeps permitted answered =>
        preserved _ earlier request middle answer next decoded keeps permitted answered)
      (follows _ decoded) start
    rw [List.append_nil] at kept
    exact kept.1

/-- What every accepted pass keeps holds in every state of a run. -/
theorem run_invariant {accepts : State → List (Exchange Call Answer) → Prop}
    {Holds : State → Prop} {initial final : State}
    (kept : ∀ before trace after, Holds before → controller.Pass before trace after →
      accepts before trace → Holds after)
    (run : ReflTransGen (controller.Moves accepts) initial final) (start : Holds initial) :
    Holds final := by
  induction run with
  | refl => exact start
  | tail _ move inductionHypothesis =>
    obtain ⟨trace, pass, accepted⟩ := move
    exact kept _ trace _ inductionHypothesis pass accepted

/-- A pass that has been made. -/
structure Made (State Call : Type) (Answer : Call → Type) where
  before : State
  trace : List (Exchange Call Answer)
  after : State

variable (controller) in
/-- A run with the passes it has made, the newest first. -/
inductive Run (initial : State) : List (Made State Call Answer) → State → Prop
  | start : Run initial [] initial
  | pass {made : List (Made State Call Answer)} {before after : State}
      {trace : List (Exchange Call Answer)} (run : Run initial made before)
      (pass : controller.Pass before trace after) :
      Run initial (⟨before, trace, after⟩ :: made) after

/-- What every pass keeps holds before each pass of a run. -/
theorem Run.invariant {Holds : State → Prop} {initial final : State}
    {made : List (Made State Call Answer)}
    (kept : ∀ before trace after, Holds before → controller.Pass before trace after → Holds after)
    (run : controller.Run initial made final) (start : Holds initial) :
    Holds final ∧ ∀ pass ∈ made,
      Holds pass.before ∧ controller.Pass pass.before pass.trace pass.after := by
  induction run with
  | start => exact ⟨start, fun _ member => nomatch member⟩
  | pass run pass inductionHypothesis =>
    obtain ⟨holds, earlier⟩ := inductionHypothesis
    refine ⟨kept _ _ _ holds pass, fun other member => ?_⟩
    rcases List.mem_cons.mp member with rfl | member
    · exact ⟨holds, pass⟩
    · exact earlier other member

/-! ### Histories without a kind of call -/

/-- No call of a kind has been made. -/
def Avoids (kind : Call → Bool) (history : List (Exchange Call Answer)) : Prop :=
  ∀ exchange ∈ history, kind exchange.1 = false

theorem avoids_nil (kind : Call → Bool) : Avoids kind ([] : List (Exchange Call Answer)) :=
  fun _ member => nomatch member

theorem Avoids.cons {kind : Call → Bool} {history : List (Exchange Call Answer)}
    (avoids : Avoids kind history) (request : Call) (answer : Answer request)
    (other : kind request = false) : Avoids kind (⟨request, answer⟩ :: history) :=
  List.forall_mem_cons.mpr ⟨other, avoids⟩

theorem Avoids.tail {kind : Call → Bool} {exchange : Exchange Call Answer}
    {history : List (Exchange Call Answer)} (avoids : Avoids kind (exchange :: history)) :
    Avoids kind history :=
  (List.forall_mem_cons.mp avoids).2

theorem Avoids.not_head {kind : Call → Bool} {request : Call} {answer : Answer request}
    {history : List (Exchange Call Answer)} (isKind : kind request = true) :
    ¬ Avoids kind (⟨request, answer⟩ :: history) := by
  intro avoids
  have absent := avoids _ List.mem_cons_self
  rw [isKind] at absent
  cases absent

/-! ### Passes against a server function -/

section Script

variable (controller)

/-- A whole pass on a stored state, when there is a snapshot. -/
def runPass (serve : (request : Call) → State → Answer request × State) (before : State) :
    State :=
  match controller.snapshot before with
  | none => before
  | some snapshot => (exec serve (controller.pass snapshot) before).2

variable {controller} {serve : (request : Call) → State → Answer request × State}

theorem pass_runPass {snapshot : Snapshot}
    (serves : ∀ request state,
      controller.answers request state (serve request state).1 (serve request state).2)
    (decoded : controller.snapshot before = some snapshot) :
    controller.Pass before ((controller.pass snapshot).transcript serve before)
      (controller.runPass serve before) := by
  have reaches := reaches_serving serves (controller.pass snapshot) before
  unfold runPass
  rw [decoded]
  exact .run decoded reaches

theorem moves_runPass {accepts : State → List (Exchange Call Answer) → Prop}
    (serves : ∀ request state,
      controller.answers request state (serve request state).1 (serve request state).2)
    (accepted : ∀ trace, accepts before trace) :
    ReflTransGen (controller.Moves accepts) before (controller.runPass serve before) := by
  cases decoded : controller.snapshot before with
  | none =>
    unfold runPass
    rw [decoded]
  | some snapshot => exact .single ⟨_, pass_runPass serves decoded, accepted _⟩

end Script

end Controller

end ChimpChaos.Library
