/-
This file is a small theory of work that is done in rounds, each scheduled by the one before.

A round begins when it is due, or earlier when something is noticed; it ends by scheduling the
next one or by waiting for a change. Time is bounded by a pace: how late a round may begin, how
long it may take, and how long the pause after it may be. A round that fails, or that is cut
short, is missed. The rule: when each round that is not missed raises a rank, the rank reaches a
goal in time, one cycle for each step of the rank and one for each round missed.
-/

import Mathlib.Algebra.Order.Ring.Int

namespace ChimpChaos.Library

/-- Bounds on the delays of rounds. -/
structure Pace where
  late : Nat
  longest : Nat
  pause : Nat

/-- The time from the beginning of a round to that of the next, at most. -/
def Pace.cycle (pace : Pace) : Nat := pace.longest + pace.pause + pace.late

/-- The schedule of rounds: when the next is due, when the one that is going on has begun, whether
something was noticed meanwhile, and when the missed rounds had begun or, between two rounds,
everything was begun anew. -/
structure Rounds where
  due : Option Int
  begun : Option Int
  noticed : Bool
  missed : List Int

namespace Rounds

/-! ### What happens to a schedule -/

/-- Nothing has begun, and a round is due. -/
def fresh (clock : Int) : Rounds := ⟨some clock, none, false, []⟩

/-- A time no later than another that may be missing. -/
def earliest (due : Option Int) (clock : Int) : Int :=
  match due with
  | some time => min time clock
  | none => clock

/-- Something is noticed. A round that is going on may have missed it. -/
def notice (rounds : Rounds) (clock : Int) : Rounds :=
  match rounds.begun with
  | some _ => { rounds with noticed := true }
  | none => { rounds with due := some (earliest rounds.due clock) }

def begin (rounds : Rounds) (clock : Int) : Rounds :=
  { rounds with due := none, begun := some clock, noticed := false }

/-- The round is over. What was noticed meanwhile is looked at without a pause. -/
def finish (rounds : Rounds) (clock : Int) (pause : Option Nat) (failed : Bool) : Rounds where
  due := if rounds.noticed then some clock else pause.map fun time => clock + time
  begun := none
  noticed := false
  missed := if failed then rounds.begun.getD clock :: rounds.missed else rounds.missed

/-- Everything is begun anew. This counts as a missed round, also when none was going on. -/
def restart (rounds : Rounds) (clock : Int) : Rounds where
  due := some clock
  begun := none
  noticed := false
  missed := rounds.begun.getD clock :: rounds.missed

/-- How many of the rounds begun after some time have been missed. -/
def missedSince (rounds : Rounds) (start : Int) : Nat :=
  (rounds.missed.filter fun begun => decide (start < begun)).length

/-- The clock keeps the pace. -/
structure OnTime (rounds : Rounds) (pace : Pace) (clock : Int) : Prop where
  busy : ∀ begun, rounds.begun = some begun → clock ≤ begun + pace.longest
  idle : rounds.begun = none → ∀ due, rounds.due = some due → clock ≤ due + pace.late

@[simp] theorem begun_notice (rounds : Rounds) (clock : Int) :
    (rounds.notice clock).begun = rounds.begun := by
  unfold notice
  split <;> rfl

theorem noticed_notice {rounds : Rounds} {begun clock : Int} (busy : rounds.begun = some begun) :
    (rounds.notice clock).noticed = true := by
  rw [notice, busy]

theorem due_notice {rounds : Rounds} {clock : Int} (idle : rounds.begun = none) :
    (rounds.notice clock).due = some (earliest rounds.due clock) := by
  rw [notice, idle]

theorem earliest_le (due : Option Int) (clock : Int) : earliest due clock ≤ clock := by
  cases due with
  | none => exact le_refl _
  | some time => exact min_le_right _ _

theorem onTime_fresh (pace : Pace) (clock : Int) : (fresh clock).OnTime pace clock where
  busy := fun _ begun => nomatch begun
  idle := fun _ due scheduled => by
    obtain rfl := Option.some.inj scheduled
    omega

/-- At the end of a round nothing is overdue. -/
theorem onTime_finish (rounds : Rounds) (pace : Pace) (clock : Int) (pause : Option Nat)
    (failed : Bool) : (rounds.finish clock pause failed).OnTime pace clock where
  busy := fun _ begun => nomatch begun
  idle := fun _ due scheduled => by
    cases noticed : rounds.noticed <;> cases pause <;> simp [finish, noticed] at scheduled <;> omega

theorem onTime_restart (rounds : Rounds) (pace : Pace) (clock : Int) :
    (rounds.restart clock).OnTime pace clock where
  busy := fun _ begun => nomatch begun
  idle := fun _ due scheduled => by
    obtain rfl := Option.some.inj scheduled
    omega

theorem onTime_begin (rounds : Rounds) (pace : Pace) (clock : Int) :
    (rounds.begin clock).OnTime pace clock where
  busy := fun begun started => by
    obtain rfl := Option.some.inj started
    omega
  idle := fun idle => nomatch idle

/-! ### Reaching a goal in time -/

/-- The latest time for the beginning of a round that has so many cycles. -/
def limit (pace : Pace) (start : Int) (cycles : Nat) : Int := start + cycles * pace.cycle

theorem le_limit (pace : Pace) (start : Int) (cycles : Nat) : start ≤ limit pace start cycles :=
  Int.le_add_of_nonneg_right
    (Int.mul_nonneg (Int.natCast_nonneg cycles) (Int.natCast_nonneg pace.cycle))

theorem limit_mono (pace : Pace) (start : Int) {first second : Nat} (within : first ≤ second) :
    limit pace start first ≤ limit pace start second :=
  Int.add_le_add_left
    (Int.mul_le_mul_of_nonneg_right (Int.ofNat_le.mpr within) (Int.natCast_nonneg _)) start

theorem limit_succ (pace : Pace) (start : Int) (cycles : Nat) :
    limit pace start (cycles + 1) =
      limit pace start cycles + pace.longest + pace.pause + pace.late := by
  rw [limit, limit, Nat.cast_add, Nat.cast_one, Int.add_mul, Int.one_mul, Pace.cycle]
  omega

/-- How far a schedule may be behind when a rank has been reached and a goal is to be reached.
`seen` is the rank the round that is going on has found. -/
structure Punctual (rounds : Rounds) (pace : Pace) (start : Int) (goal rank seen : Nat) :
    Prop where
  idle : rounds.begun = none → rank < goal → ∃ due, rounds.due = some due ∧
    due + pace.late ≤ limit pace start (rounds.missedSince start + rank + 1)
  busy : ∀ begun, rounds.begun = some begun → start < begun → seen < goal →
    begun ≤ limit pace start (rounds.missedSince start + seen + 1)

section Punctual

variable {rounds : Rounds} {pace : Pace} {start clock : Int} {goal rank seen : Nat}

@[simp] theorem missedSince_begin : (rounds.begin clock).missedSince start =
    rounds.missedSince start := rfl

@[simp] theorem missedSince_notice :
    (rounds.notice clock).missedSince start = rounds.missedSince start := by
  unfold notice
  cases rounds.begun <;> rfl

theorem missedSince_finish {pause : Option Nat} {failed : Bool} :
    rounds.missedSince start ≤ (rounds.finish clock pause failed).missedSince start := by
  unfold finish missedSince
  cases failed with
  | false => exact le_refl _
  | true =>
    simp only [if_true, List.filter_cons]
    split_ifs <;> simp

/-- A missed round that began late enough is counted. -/
theorem missedSince_finish_failed {begun : Int} {pause : Option Nat}
    (busy : rounds.begun = some begun) (after : start < begun) :
    (rounds.finish clock pause true).missedSince start = rounds.missedSince start + 1 := by
  simp [finish, missedSince, busy, after]

theorem missedSince_restart_late (after : start < rounds.begun.getD clock) :
    (rounds.restart clock).missedSince start = rounds.missedSince start + 1 := by
  simp [restart, missedSince, after]

theorem missedSince_le : rounds.missedSince start ≤ rounds.missed.length :=
  List.length_filter_le _ _

/-- Whatever is going on at the start, the schedule is not behind. -/
theorem punctual_start (begun : ∀ begun, rounds.begun = some begun → begun ≤ start)
    (due : rounds.begun = none → rank < goal →
      ∃ due, rounds.due = some due ∧ due ≤ start + pace.pause) :
    rounds.Punctual pace start goal rank seen where
  idle := fun idle short => by
    obtain ⟨due, scheduled, early⟩ := due idle short
    refine ⟨due, scheduled, ?_⟩
    have later := le_limit pace start (rounds.missedSince start + rank)
    rw [limit_succ]
    omega
  busy := fun time busy after => absurd (begun time busy) (by omega)

/-- The rank grows. -/
theorem Punctual.raise (punctual : rounds.Punctual pace start goal rank seen) {rank' : Nat}
    (grown : rank ≤ rank') : rounds.Punctual pace start goal rank' seen where
  idle := fun idle short => by
    obtain ⟨due, scheduled, early⟩ := punctual.idle idle (by omega)
    exact ⟨due, scheduled, early.trans (limit_mono pace start (by omega))⟩
  busy := punctual.busy

theorem Punctual.notice (punctual : rounds.Punctual pace start goal rank seen) :
    (rounds.notice clock).Punctual pace start goal rank seen := by
  cases busy : rounds.begun with
  | some begun =>
    have same : rounds.notice clock = { rounds with noticed := true } := by
      rw [Rounds.notice, busy]
    rw [same]
    exact ⟨punctual.idle, punctual.busy⟩
  | none =>
    refine ⟨fun _ short => ?_, fun begun started => ?_⟩
    · obtain ⟨due, scheduled, early⟩ := punctual.idle busy short
      refine ⟨earliest rounds.due clock, due_notice busy, ?_⟩
      rw [missedSince_notice]
      rw [scheduled, earliest]
      have sooner := min_le_left due clock
      omega
    · rw [begun_notice, busy] at started
      cases started

theorem Punctual.begin (punctual : rounds.Punctual pace start goal rank seen)
    (idle : rounds.begun = none) (onTime : rounds.OnTime pace clock) :
    (rounds.begin clock).Punctual pace start goal rank rank where
  idle := fun absent => nomatch absent
  busy := fun begun started _ short => by
    obtain ⟨due, scheduled, early⟩ := punctual.idle idle short
    obtain rfl := Option.some.inj started
    exact (onTime.idle idle due scheduled).trans early

/-- A round comes to its end. It has failed or has raised the rank, and it waits for a change only
when the goal is reached. -/
theorem Punctual.finish {begun : Int} {pause : Option Nat} {failed : Bool}
    (punctual : rounds.Punctual pace start goal rank seen) (busy : rounds.begun = some begun)
    (onTime : rounds.OnTime pace clock) (seenLe : seen ≤ rank)
    (progress : start < begun → seen < goal → failed = true ∨ seen < rank)
    (within : ∀ time, pause = some time → time ≤ pace.pause)
    (waits : pause = none → rounds.noticed = false → goal ≤ rank) {seen' : Nat} :
    (rounds.finish clock pause failed).Punctual pace start goal rank seen' where
  idle := fun _ short => by
    have soon := onTime.busy begun busy
    obtain ⟨due, scheduled, next⟩ : ∃ due, (rounds.finish clock pause failed).due = some due ∧
        due ≤ clock + pace.pause := by
      cases noticed : rounds.noticed with
      | true => exact ⟨clock, by simp [Rounds.finish, noticed], by omega⟩
      | false =>
        cases pause with
        | none => exact absurd (waits rfl noticed) (by omega)
        | some time =>
          have short := within time rfl
          exact ⟨clock + time, by simp [Rounds.finish, noticed], by omega⟩
    refine ⟨due, scheduled, ?_⟩
    have counted : rounds.missedSince start ≤
        (rounds.finish clock pause failed).missedSince start := missedSince_finish
    rw [limit_succ]
    by_cases late : start < begun
    · have early := punctual.busy begun busy late (by omega)
      have enough : rounds.missedSince start + seen + 1 ≤
          (rounds.finish clock pause failed).missedSince start + rank := by
        rcases progress late (by omega) with rfl | raised
        · rw [missedSince_finish_failed busy late]
          omega
        · omega
      have further := limit_mono pace start enough
      omega
    · have later := le_limit pace start
        ((rounds.finish clock pause failed).missedSince start + rank)
      omega
  busy := fun begun started => nomatch started

theorem Punctual.restart (punctual : rounds.Punctual pace start goal rank seen)
    (onTime : rounds.OnTime pace clock) (seenLe : seen ≤ rank) {seen' : Nat} :
    (rounds.restart clock).Punctual pace start goal rank seen' where
  idle := fun _ short => by
    refine ⟨clock, rfl, ?_⟩
    rw [limit_succ]
    by_cases late : start < rounds.begun.getD clock
    · rw [missedSince_restart_late late]
      cases busy : rounds.begun with
      | none =>
        obtain ⟨due, scheduled, early⟩ := punctual.idle busy short
        have soon := onTime.idle busy due scheduled
        have further := limit_mono pace start
          (show rounds.missedSince start + rank + 1 ≤ rounds.missedSince start + 1 + rank by omega)
        omega
      | some begun =>
        rw [busy] at late
        have soon := onTime.busy begun busy
        have early := punctual.busy begun busy late (by omega)
        have further := limit_mono pace start
          (show rounds.missedSince start + seen + 1 ≤ rounds.missedSince start + 1 + rank by omega)
        omega
    · have later := le_limit pace start ((rounds.restart clock).missedSince start + rank)
      cases busy : rounds.begun with
      | none =>
        rw [busy] at late
        change ¬ start < clock at late
        omega
      | some begun =>
        rw [busy] at late
        change ¬ start < begun at late
        have soon := onTime.busy begun busy
        omega
  busy := fun begun started => nomatch started

/-- As long as the goal is not reached, little time has passed. -/
theorem Punctual.bound (punctual : rounds.Punctual pace start goal rank seen)
    (onTime : rounds.OnTime pace clock) (seenLe : seen ≤ rank) (short : rank < goal) :
    clock ≤ limit pace start (rounds.missedSince start + goal) + pace.longest := by
  have later := le_limit pace start (rounds.missedSince start + goal)
  cases busy : rounds.begun with
  | none =>
    obtain ⟨due, scheduled, early⟩ := punctual.idle busy short
    have soon := onTime.idle busy due scheduled
    have further := limit_mono pace start
      (show rounds.missedSince start + rank + 1 ≤ rounds.missedSince start + goal by omega)
    omega
  | some begun =>
    have soon := onTime.busy begun busy
    by_cases late : start < begun
    · have early := punctual.busy begun busy late (by omega)
      have further := limit_mono pace start
        (show rounds.missedSince start + seen + 1 ≤ rounds.missedSince start + goal by omega)
      omega
    · omega

end Punctual

end Rounds

end ChimpChaos.Library
