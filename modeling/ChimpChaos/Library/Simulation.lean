/-
This file relates the runs of two step relations.

A simulation matches every step of the concrete relation with one step of the abstract
relation or none. A run is then matched by a run, and what the abstract runs keep, the
concrete runs keep. Where the moves raise a rank, it bounds the number of steps they match.
-/

import Mathlib.Logic.Relation

namespace ChimpChaos.Library

open Relation

variable {Concrete Abstract : Type} {step : Concrete → Concrete → Prop}
  {move : Abstract → Abstract → Prop} {Matches : Concrete → Abstract → Prop}

/-- Every concrete step is matched by an abstract step or by none. -/
def Simulates (step : Concrete → Concrete → Prop) (move : Abstract → Abstract → Prop)
    (Matches : Concrete → Abstract → Prop) : Prop :=
  ∀ before after stage, step before after → Matches before stage →
    ∃ stage', ReflGen move stage stage' ∧ Matches after stage'

/-- A concrete run is matched by an abstract run. -/
theorem Simulates.run (simulates : Simulates step move Matches) {initial final : Concrete}
    (run : ReflTransGen step initial final) {stage : Abstract} (start : Matches initial stage) :
    ∃ stage', ReflTransGen move stage stage' ∧ Matches final stage' := by
  induction run with
  | refl => exact ⟨stage, .refl, start⟩
  | tail _ last inductionHypothesis =>
    obtain ⟨middle, moves, matched⟩ := inductionHypothesis
    obtain ⟨stage', moved, matched'⟩ := simulates _ _ _ last matched
    exact ⟨stage', moves.trans moved.to_reflTransGen, matched'⟩

/-- What every step preserves holds at the end of every run. -/
theorem invariant_of_run {Keeps : Concrete → Prop} {initial final : Concrete}
    (run : ReflTransGen step initial final) (start : Keeps initial)
    (preserved : ∀ before after, Keeps before → step before after → Keeps after) : Keeps final := by
  induction run with
  | refl => exact start
  | tail _ last inductionHypothesis => exact preserved _ _ inductionHypothesis last

/-! ### Runs that count steps -/

/-- A run with the number of its steps that are of a kind. -/
inductive Counted (step kind : Concrete → Concrete → Prop) (initial : Concrete) :
    Nat → Concrete → Prop
  | start : Counted step kind initial 0 initial
  | other {count : Nat} {before after : Concrete} (run : Counted step kind initial count before)
      (last : step before after) (unlike : ¬ kind before after) :
      Counted step kind initial count after
  | counted {count : Nat} {before after : Concrete}
      (run : Counted step kind initial count before) (last : step before after)
      (alike : kind before after) : Counted step kind initial (count + 1) after

variable {kind : Concrete → Concrete → Prop} {initial final : Concrete} {count : Nat}

theorem Counted.run (counted : Counted step kind initial count final) :
    ReflTransGen step initial final := by
  induction counted with
  | start => exact .refl
  | other _ last _ inductionHypothesis | counted _ last _ inductionHypothesis =>
    exact inductionHypothesis.tail last

/-- The steps of a run can be counted. -/
theorem counted_of_run (run : ReflTransGen step initial final) :
    ∃ count, Counted step kind initial count final := by
  induction run with
  | refl => exact ⟨0, .start⟩
  | @tail before after _ last inductionHypothesis =>
    obtain ⟨count, counted⟩ := inductionHypothesis
    by_cases alike : kind before after
    · exact ⟨count + 1, .counted counted last alike⟩
    · exact ⟨count, .other counted last alike⟩

/-- When every step of the kind is matched by a move that raises a rank, and no other step lowers
it, the rank bounds how many there are. -/
theorem Counted.le_rank (counted : Counted step kind initial count final)
    (rank : Abstract → Nat)
    (matched : ∀ before after stage, step before after → Matches before stage →
      ∃ stage', Matches after stage' ∧ rank stage ≤ rank stage' ∧
        (kind before after → rank stage < rank stage'))
    {stage : Abstract} (start : Matches initial stage) :
    ∃ stage', Matches final stage' ∧ rank stage + count ≤ rank stage' := by
  induction counted with
  | start => exact ⟨stage, start, Nat.le_refl _⟩
  | other _ last _ inductionHypothesis =>
    obtain ⟨middle, matches', bound⟩ := inductionHypothesis
    obtain ⟨stage', matches'', grows, -⟩ := matched _ _ _ last matches'
    exact ⟨stage', matches'', Nat.le_trans bound grows⟩
  | counted _ last alike inductionHypothesis =>
    obtain ⟨middle, matches', bound⟩ := inductionHypothesis
    obtain ⟨stage', matches'', -, grows⟩ := matched _ _ _ last matches'
    exact ⟨stage', matches'', Nat.lt_of_le_of_lt bound (grows alike)⟩

end ChimpChaos.Library
