/-
This file runs the programs of a pool over a lower interface.

Each call is put as a call of the lower interface, and its answer is translated back. When the
lower rules answer, launch and move as the upper ones do, up to a relation between the states, a
run of the lower pool is matched by a run of the upper one, thread by thread.
-/

import ChimpChaos.Library.Pool
import ChimpChaos.Library.Simulation
import Mathlib.Data.List.Forall2

namespace ChimpChaos.Library

open Relation Program

/-- How a call is put to a lower interface, and what the answer there means. -/
structure Lowering {Call LowCall : Type} (Answer : Call → Type) (LowAnswer : LowCall → Type) where
  put : Call → LowCall
  answerOf : (request : Call) → LowAnswer (put request) → Answer request

namespace Lowering

variable {Tag State LowState Call LowCall Error Value : Type} {Answer : Call → Type}
  {LowAnswer : LowCall → Type} (lowering : Lowering Answer LowAnswer)

def lower (program : Program Call Answer Error Value) : Program LowCall LowAnswer Error Value :=
  program.inject lowering.put lowering.answerOf

/-- What an exchange of the lower interface means. -/
inductive Translates : Exchange LowCall LowAnswer → Exchange Call Answer → Prop
  | exchange (request : Call) (answer : LowAnswer (lowering.put request)) :
      Translates ⟨lowering.put request, answer⟩ ⟨request, lowering.answerOf request answer⟩

variable {lowering} in
/-- The lower exchange of an exchange. -/
theorem Translates.exists_answer {low : Exchange LowCall LowAnswer}
    {exchange : Exchange Call Answer} (translates : lowering.Translates low exchange) :
    ∃ answer, low = ⟨lowering.put exchange.1, answer⟩ ∧
      exchange.2 = lowering.answerOf exchange.1 answer := by
  cases translates with
  | exchange request answer => exact ⟨answer, rfl, rfl⟩

/-- A thread as it runs over the lower interface. -/
structure Carries (low : Thread Tag LowCall LowAnswer Error Value)
    (thread : Thread Tag Call Answer Error Value) : Prop where
  tag : low.tag = thread.tag
  history : List.Forall₂ lowering.Translates low.history thread.history
  rest : low.rest = lowering.lower thread.rest

/-- The rules of the lower pool keep to those of the upper one. -/
structure Implements (low : Rules LowState Tag LowCall LowAnswer Error Value)
    (rules : Rules State Tag Call Answer Error Value) (Matches : LowState → State → Prop) :
    Prop where
  answers : ∀ tag request before state answer after, Matches before state →
    low.answers tag (lowering.put request) before answer after →
    ∃ state', rules.answers tag request state (lowering.answerOf request answer) state' ∧
      Matches after state'
  launches : ∀ before state tag program, Matches before state → low.launches before tag program →
    ∃ upper, program = lowering.lower upper ∧ rules.launches state tag upper
  outside : ∀ before state after, Matches before state → low.outside before after →
    ∃ state', ReflGen rules.outside state state' ∧ Matches after state'

/-- The states of two pools match, and so do their threads. -/
structure MatchesPool (Matches : LowState → State → Prop)
    (low : Pool LowState Tag LowCall LowAnswer Error Value)
    (pool : Pool State Tag Call Answer Error Value) : Prop where
  state : Matches low.state pool.state
  threads : List.Forall₂ lowering.Carries low.threads pool.threads

variable {lowering} {low : Rules LowState Tag LowCall LowAnswer Error Value}
  {rules : Rules State Tag Call Answer Error Value} {Matches : LowState → State → Prop}

/-- The place of a thread among the threads that match. -/
theorem exists_split {First Second : Type} {related : First → Second → Prop} {first : First}
    {back : List First} {all : List Second} (front : List First)
    (pairs : List.Forall₂ related (front ++ first :: back) all) :
    ∃ front' second back', all = front' ++ second :: back' ∧
      List.Forall₂ related front front' ∧ related first second ∧
      List.Forall₂ related back back' := by
  induction front generalizing all with
  | nil =>
    obtain ⟨second, back', same, rest, rfl⟩ := List.forall₂_cons_left_iff.mp pairs
    exact ⟨[], second, back', rfl, .nil, same, rest⟩
  | cons head front inductionHypothesis =>
    obtain ⟨head', all', same, rest, rfl⟩ := List.forall₂_cons_left_iff.mp pairs
    obtain ⟨front', second, back', rfl, before, found, after⟩ := inductionHypothesis rest
    exact ⟨head' :: front', second, back', rfl, .cons same before, found, after⟩

/-- One step of the lower pool is a step of the upper one or none. -/
theorem Implements.simulates (implements : lowering.Implements low rules Matches) :
    Simulates (Pool.Moves low) (Pool.Moves rules) (lowering.MatchesPool Matches) := by
  rintro before after ⟨state, threads⟩ ⟨event, step⟩ ⟨matched, carried⟩
  cases step with
  | launch launches =>
    obtain ⟨upper, rfl, launched⟩ := implements.launches _ _ _ _ matched launches
    exact ⟨_, .single ⟨_, .launch launched⟩, matched, .cons ⟨rfl, .nil, rfl⟩ carried⟩
  | call answered =>
    obtain ⟨front, ⟨tag, history, rest⟩, back, rfl, before, carries, later⟩ :=
      exists_split _ carried
    obtain ⟨rfl, exchanged, lowered⟩ := carries
    cases rest with
    | call request next =>
      cases lowered
      obtain ⟨state', told, matched'⟩ := implements.answers _ _ _ _ _ _ matched answered
      exact ⟨_, .single ⟨_, .call told⟩, matched', List.rel_append before
        (.cons ⟨rfl, .cons (.exchange request _) exchanged, rfl⟩ later)⟩
    | _ => cases lowered
  | outside moved =>
    obtain ⟨state', moves, matched'⟩ := implements.outside _ _ _ matched moved
    refine ⟨⟨state', threads⟩, ?_, matched', carried⟩
    cases moves with
    | refl => exact .refl
    | single moves => exact .single ⟨_, .outside moves⟩

end Lowering

end ChimpChaos.Library
