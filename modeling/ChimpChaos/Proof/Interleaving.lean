/-
This file proves that experiments keep their lives apart when their passes interleave.

The passes of all experiments run call by call, in any order, with at most one pass for each
experiment. The stored status of each experiment still follows its own life; and since every
move of a life goes on to a later stage, few status writes ever take effect.
-/

import ChimpChaos.Cluster.Interleaved

namespace ChimpChaos

open Library Relation

/-! ### The rank of a stage -/

/-- How far an experiment has come in its life. -/
def Stage.rank : Stage → Nat
  | .pending => 0
  | .running _ => 1
  | .refused clean => if clean then 3 else 2
  | .finished _ _ _ _ clean => if clean then 3 else 2

theorem Stage.rank_le (stage : Stage) : stage.rank ≤ 3 := by
  cases stage with
  | pending | running => simp [rank]
  | refused clean | finished _ _ _ _ clean => cases clean <;> simp [rank]

theorem Stage.Moves.rank_lt {before after : Stage} (moves : Stage.Moves before after) :
    before.rank < after.rank := by
  cases moves <;> simp [rank]

/-! ### Status writes that take effect -/

/-- The stored status document of an experiment is not the one before. -/
def Rewritten (key : ObjectKey) (before after : System) : Prop :=
  ∃ object object', before.cluster.experiments.lookup key = some object ∧
    after.cluster.experiments.lookup key = some object' ∧ object'.status ≠ object.status

theorem Unmoved.not_rewritten {key : ObjectKey} {before after : System}
    (unmoved : Unmoved key before.cluster after.cluster) : ¬ Rewritten key before after := by
  rintro ⟨object, object', stored, found, changed⟩
  obtain ⟨origin, stored', same, -⟩ := unmoved.object object' found
  obtain rfl := Option.some.inj (stored.symm.trans stored')
  exact changed same

section Rank

variable {deployment : Deployment} {service : Service} {key : ObjectKey} {before after : System}
  {stage stage' : Stage}

theorem Goes.rank_le (goes : Goes key before.cluster after.cluster stage stage') :
    stage.rank ≤ stage'.rank := by
  cases goes with
  | stays => exact le_refl _
  | moves moved => exact moved.rank_lt.le

theorem Goes.rank_lt (goes : Goes key before.cluster after.cluster stage stage')
    (rewritten : Rewritten key before after) : stage.rank < stage'.rank := by
  cases goes with
  | stays unmoved => exact absurd rewritten unmoved.not_rewritten
  | moves moved => exact moved.rank_lt

end Rank

/-- However the passes of all experiments interleave, call by call, and whatever they are
answered: the stored status of an experiment that began without one is what its phase demands,
the next step changes it only as a life may go on, and at most three status writes have taken
effect. -/
theorem lifecycle_interleaved (deployment : Deployment) (key : ObjectKey) (initial : Cluster)
    (object : ExperimentObject) (stored : initial.experiments.lookup key = some object)
    (fresh : object.status = .null) (writes : Nat) (final : System)
    (run : Counted (Operates deployment anyListings) (Rewritten key) (.idle initial) writes
      final) :
    (∀ object', final.cluster.experiments.lookup key = some object' →
      ∃ status, ChaosExperimentStatus.parse object'.status = some status ∧
        WellFormed deployment.crates object'.spec.scenario status) ∧
    (∀ next, Operates deployment anyListings final next → ∀ object' object'',
      final.cluster.experiments.lookup key = some object' →
      next.cluster.experiments.lookup key = some object'' →
      ∃ before after, ChaosExperimentStatus.parse object'.status = some before ∧
        ChaosExperimentStatus.parse object''.status = some after ∧ Progress before after) ∧
    writes ≤ 3 := by
  have start : Tracks deployment key (.idle initial) .pending :=
    tracks_idle (renders_fresh deployment.crates stored fresh)
  obtain ⟨stage, tracks, bound⟩ := run.le_rank Stage.rank (fun before after stage step tracks => by
    obtain ⟨stage', goes, tracks'⟩ := Tracks.step anyListings_within tracks step
    exact ⟨stage', tracks', goes.rank_le, goes.rank_lt⟩) start
  refine ⟨fun object' found => ?_, fun next step object' object'' found found' => ?_, ?_⟩
  · obtain ⟨message, parsed, sound⟩ := tracks.rendered object' found
    exact ⟨_, parsed, stage.wellFormed sound message⟩
  · obtain ⟨stage', goes, tracks'⟩ := tracks.step anyListings_within step
    obtain ⟨message, parsed, -⟩ := tracks.rendered object' found
    obtain ⟨message', parsed', -⟩ := tracks'.rendered object'' found'
    exact ⟨_, _, parsed, parsed', Stage.progress goes.reflGen message message'⟩
  · exact (Nat.le_of_add_left_le bound).trans stage.rank_le

/-- Three passes call by call: an edge experiment is put into effect, ends and is cleaned up. -/
theorem lifecycle_interleaved_sample :
    ∃ writes final, Counted (Operates sampleDeployment anyListings) (Rewritten sampleKey)
        (.idle (sampleCluster [(sampleKey, sampleEdge)])) writes final ∧
      (storedStatus sampleKey final.cluster).map (fun status =>
        (status.phase, status.cleanupDone)) = some (.succeeded, true) ∧ writes ≤ 3 := by
  obtain ⟨writes, counted⟩ :
      ∃ writes, Counted (Operates sampleDeployment anyListings) (Rewritten sampleKey) _ writes _ :=
    counted_of_run operates_sampleSettled
  refine ⟨writes, _, counted, by decide +kernel, ?_⟩
  exact (lifecycle_interleaved sampleDeployment sampleKey _ sampleEdge rfl rfl writes _
    counted).2.2

end ChimpChaos
