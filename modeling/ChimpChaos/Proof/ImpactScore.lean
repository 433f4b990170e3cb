/-
This file settles when the score of a metric follows its degradation.

Against a baseline that is not 0 the degradation is a percentage of the baseline, cut off at 0,
rounded and cut off at 100, and each of these keeps the order. Against a baseline of 0 every
value but 0 counts as 100 percent worse, whichever direction is the bad one: a metric that should
be high is punished for rising from nothing.
-/

import ChimpChaos.Library.Casts
import ChimpChaos.Operator.Analysis
import Mathlib.Tactic.Linarith

namespace ChimpChaos

open Library

/-! ### Degradation -/

/-- The second value is as bad as the first one or worse. -/
def AtLeastAsBad : DegradationDirection → Rat → Rat → Prop
  | .up, better, worse => better ≤ worse
  | .down, better, worse => worse ≤ better

/-- By how much a value is worse than the baseline. -/
def worsening : DegradationDirection → Rat → Rat → Rat
  | .up, baseline, during => during - baseline
  | .down, baseline, during => baseline - during

theorem worsening_mono {direction : DegradationDirection} {first second : Rat} (baseline : Rat)
    (worse : AtLeastAsBad direction first second) :
    worsening direction baseline first ≤ worsening direction baseline second := by
  cases direction with
  | up => exact sub_le_sub_right worse baseline
  | down => exact sub_le_sub_left worse baseline

theorem worsening_nonpos {direction : DegradationDirection} {baseline during : Rat}
    (unharmed : AtLeastAsBad direction during baseline) :
    worsening direction baseline during ≤ 0 := by
  cases direction with
  | up => exact sub_nonpos.mpr unharmed
  | down => exact sub_nonpos.mpr unharmed

theorem degradation_of_baseline {baseline : Rat} (nonzero : baseline ≠ 0) (during : Rat)
    (direction : DegradationDirection) :
    degradation (.finite baseline) (.finite during) direction =
      .finite (max (worsening direction baseline during / baseline * 100) 0) := by
  have present : ¬ F64.finite baseline = .zero := fun same => nonzero (F64.finite.inj same)
  unfold degradation
  rw [if_neg present, ← F64.maximum_finite]
  cases direction <;>
    simp [F64.subtract, F64.negate, F64.add, F64.divide, F64.multiply, nonzero, worsening,
      sub_eq_add_neg, F64.zero]

theorem degradation_of_none (during : Rat) (direction : DegradationDirection) :
    degradation (.finite 0) (.finite during) direction =
      if during = 0 then .finite 0 else .finite 100 := by
  have same : F64.finite during = .zero ↔ during = 0 :=
    ⟨F64.finite.inj, fun none => by rw [none]; rfl⟩
  unfold degradation
  rw [if_pos (show F64.finite 0 = .zero from rfl)]
  simp only [same]
  rfl

/-! ### Scores -/

/-- The score of a value. -/
def impactScore (direction : DegradationDirection) (maxImpact : UInt32) (baseline during : Rat) :
    UInt32 :=
  (calculateImpact (.finite baseline) (.finite during) direction maxImpact).1

section Scores

variable {direction : DegradationDirection} {maxImpact : UInt32}
  {baseline during first second : Rat}

theorem impactScore_eq (degraded : degradation (.finite baseline) (.finite during) direction =
    .finite second) :
    impactScore direction maxImpact baseline during = min (F64.finite second).roundToU32 100 := by
  rw [impactScore, calculateImpact, degraded]

theorem impactScore_of_none (direction : DegradationDirection) (during : Rat) :
    impactScore direction maxImpact 0 during = if during = 0 then 0 else 100 := by
  have degraded := degradation_of_none during direction
  split_ifs at degraded ⊢
  · rw [impactScore_eq degraded]
    decide +kernel
  · rw [impactScore_eq degraded]
    decide +kernel

/-- Against a baseline the score keeps the order. -/
theorem impactScore_mono (positive : 0 < baseline) (worse : AtLeastAsBad direction first second) :
    impactScore direction maxImpact baseline first ≤
      impactScore direction maxImpact baseline second := by
  rw [impactScore_eq (degradation_of_baseline positive.ne' first direction),
    impactScore_eq (degradation_of_baseline positive.ne' second direction),
    UInt32.le_iff_toNat_le, toNat_min_uint32, toNat_min_uint32]
  have ordered := worsening_mono baseline worse
  have percent : worsening direction baseline first / baseline * 100 ≤
      worsening direction baseline second / baseline * 100 := by gcongr
  exact min_le_min_right _
    (UInt32.le_iff_toNat_le.mp (F64.roundToU32_mono (max_le_max_right 0 percent)))

theorem impactScore_of_unharmed (positive : 0 < baseline)
    (unharmed : AtLeastAsBad direction during baseline) :
    impactScore direction maxImpact baseline during = 0 := by
  have gone : max (worsening direction baseline during / baseline * 100) 0 = 0 := by
    refine max_eq_right (mul_nonpos_of_nonpos_of_nonneg ?_ (by decide))
    exact div_nonpos_of_nonpos_of_nonneg (worsening_nonpos unharmed) positive.le
  rw [impactScore_eq (degradation_of_baseline positive.ne' during direction), gone]
  decide +kernel

end Scores

/-! ### Scores and degradation -/

/-- The score of two values follows their degradation: it is 0 for a value that is not worse than
the baseline, and a worse value has no lower score. -/
structure FollowsDegradation (direction : DegradationDirection) (maxImpact : UInt32)
    (baseline first second : Rat) : Prop where
  unharmed : ∀ during, during = first ∨ during = second → AtLeastAsBad direction during baseline →
    impactScore direction maxImpact baseline during = 0
  ordered : AtLeastAsBad direction first second →
    impactScore direction maxImpact baseline first ≤
      impactScore direction maxImpact baseline second

/-- The score follows the degradation if and only if high values are the bad ones, the baseline
is not 0, or both values are 0. -/
theorem followsDegradation_iff (direction : DegradationDirection) (maxImpact : UInt32)
    (baseline first second : Rat) (baseline_nonneg : 0 ≤ baseline) (first_nonneg : 0 ≤ first)
    (second_nonneg : 0 ≤ second) :
    FollowsDegradation direction maxImpact baseline first second ↔
      direction = .up ∨ baseline ≠ 0 ∨ (first = 0 ∧ second = 0) := by
  by_cases none : baseline = 0
  · subst none
    cases direction with
    | up =>
      refine ⟨fun _ => Or.inl rfl, fun _ => ⟨?_, ?_⟩⟩
      · intro during given unharmed
        have absent : during = 0 := by
          rcases given with rfl | rfl
          · exact le_antisymm unharmed first_nonneg
          · exact le_antisymm unharmed second_nonneg
        rw [impactScore_of_none, if_pos absent]
      · intro worse
        rw [impactScore_of_none, impactScore_of_none]
        by_cases absent : first = 0
        · rw [if_pos absent]
          exact UInt32.zero_le
        · have present : second ≠ 0 := ((lt_of_le_of_ne first_nonneg (Ne.symm absent)).trans_le
            worse).ne'
          rw [if_neg absent, if_neg present]
          exact UInt32.le_refl _
    | down =>
      constructor
      · intro follows
        have absent (during : Rat) (given : during = first ∨ during = second)
            (nonnegative : 0 ≤ during) : during = 0 := by
          by_contra present
          have score := follows.unharmed during given nonnegative
          rw [impactScore_of_none, if_neg present] at score
          exact absurd score (by decide)
        exact Or.inr (Or.inr ⟨absent first (Or.inl rfl) first_nonneg,
          absent second (Or.inr rfl) second_nonneg⟩)
      · rintro (up | nonzero | ⟨rfl, rfl⟩)
        · cases up
        · exact absurd rfl nonzero
        · refine ⟨fun during given _ => ?_, fun _ => UInt32.le_refl _⟩
          rw [impactScore_of_none, if_pos (or_self_iff.mp given)]
  · have positive := lt_of_le_of_ne baseline_nonneg (Ne.symm none)
    exact ⟨fun _ => Or.inr (Or.inl none), fun _ =>
      ⟨fun _ _ unharmed => impactScore_of_unharmed positive unharmed, impactScore_mono positive⟩⟩

/-- A throughput that falls from 1000 to 800, or to 200. -/
theorem followsDegradation_sample : FollowsDegradation .down 30 1000 800 200 :=
  (followsDegradation_iff .down 30 1000 800 200 (by decide) (by decide) (by decide)).mpr
    (Or.inr (Or.inl (by decide)))

example : impactScore .down 30 1000 800 = 20 := by decide +kernel

/-- A throughput that rises from nothing is scored as completely degraded. -/
theorem risingThroughput_scored : ¬ ∀ (direction : DegradationDirection) (maxImpact : UInt32)
    (baseline first second : Rat), 0 ≤ baseline → 0 ≤ first → 0 ≤ second →
    FollowsDegradation direction maxImpact baseline first second := by
  intro claim
  have score := (claim .down 100 0 1 1 (by decide) (by decide) (by decide)).unharmed 1 (Or.inl rfl)
    (show (0 : Rat) ≤ 1 by decide)
  rw [impactScore_of_none, if_neg (by decide)] at score
  exact absurd score (by decide)

end ChimpChaos
