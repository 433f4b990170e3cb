/-
This file proves what the report on the affected services is, whatever the order in which the
metric maps and the set of their services are iterated.

The services are sorted by their keys, which tells all of them apart, so nothing is left of the
order of the iteration. The entries are then sorted by their scores, and because this sort is
stable entries of one score stay in the order of their keys.
-/

import ChimpChaos.Library.Casts
import ChimpChaos.Library.StableSort
import ChimpChaos.Operator.ImpactReport
import Mathlib.Data.Finset.Card
import Mathlib.Data.String.Basic

namespace ChimpChaos

open Library

/-! ### The services of the metrics -/

/-- The six maps of a snapshot. -/
def metricStores (metrics : MetricsSnapshot) : List (Store ServiceKey F64) :=
  [metrics.latency.baseline, metrics.latency.during, metrics.errorRate.baseline,
    metrics.errorRate.during, metrics.throughput.baseline, metrics.throughput.during]

/-- Some map has a value for the service. -/
def Occurs (metrics : MetricsSnapshot) (svc : ServiceKey) : Prop :=
  ∃ store ∈ metricStores metrics, (store.lookup svc).isSome = true

def occurringServices (metrics : MetricsSnapshot) : Finset ServiceKey :=
  ((metricStores metrics).flatMap AList.keys).toFinset

theorem mem_occurringServices {metrics : MetricsSnapshot} {svc : ServiceKey} :
    svc ∈ occurringServices metrics ↔ Occurs metrics svc := by
  simp [occurringServices, Occurs, List.mem_flatMap, AList.lookup_isSome, AList.mem_keys]

/-- The set of services may be iterated in this order. -/
structure IterationOrder (metrics : MetricsSnapshot) (order : List ServiceKey) : Prop where
  nodup : order.Nodup
  mem : ∀ svc, svc ∈ order ↔ svc ∈ occurringServices metrics

/-- Two maps have the same values, in whatever order they hold them. -/
structure SamePair (first second : MetricPair) : Prop where
  baseline : ∀ svc, first.baseline.lookup svc = second.baseline.lookup svc
  during : ∀ svc, first.during.lookup svc = second.during.lookup svc

structure SameSnapshot (first second : MetricsSnapshot) : Prop where
  latency : SamePair first.latency second.latency
  errorRate : SamePair first.errorRate second.errorRate
  throughput : SamePair first.throughput second.throughput

theorem SameSnapshot.occurs {first second : MetricsSnapshot} (same : SameSnapshot first second)
    (svc : ServiceKey) : Occurs first svc ↔ Occurs second svc := by
  simp only [Occurs, metricStores, List.mem_cons, List.not_mem_nil, or_false, exists_eq_or_imp,
    exists_eq_left, same.latency.baseline, same.latency.during, same.errorRate.baseline,
    same.errorRate.during, same.throughput.baseline, same.throughput.during]

theorem SamePair.scoreMetric {first second : MetricPair} (same : SamePair first second)
    (svc : ServiceKey) (direction : DegradationDirection) :
    scoreMetric first svc direction = scoreMetric second svc direction := by
  unfold ChimpChaos.scoreMetric
  rw [same.baseline, same.during]

theorem SamePair.scoreErrorRate {first second : MetricPair} (same : SamePair first second)
    (svc : ServiceKey) : scoreErrorRate first svc = scoreErrorRate second svc := by
  unfold ChimpChaos.scoreErrorRate
  rw [same.baseline, same.during]

theorem SameSnapshot.affectedService {first second : MetricsSnapshot}
    (same : SameSnapshot first second) (minImpact : UInt32) :
    affectedService first minImpact = affectedService second minImpact := by
  funext svc
  unfold ChimpChaos.affectedService
  rw [same.latency.scoreMetric, same.errorRate.scoreErrorRate, same.throughput.scoreMetric]

/-- The report, when the set of services is iterated in some order. -/
def computeAffectedServicesIn (order : List ServiceKey) (metrics : MetricsSnapshot)
    (minImpact : UInt32) : UInt32 × List AffectedService :=
  let allServices := order.mergeSort ServiceKey.before
  (UInt32.ofNat allServices.length,
    (allServices.filterMap (affectedService metrics minImpact)).mergeSort fun first second =>
      second.impactScore ≤ first.impactScore)

/-- The order of the model is one of them. -/
theorem computeAffectedServices_eq (metrics : MetricsSnapshot) (minImpact : UInt32) :
    ∃ order, IterationOrder metrics order ∧
      computeAffectedServices metrics minImpact =
        computeAffectedServicesIn order metrics minImpact :=
  ⟨((metricStores metrics).flatMap AList.keys).dedup,
    ⟨List.nodup_dedup _, fun svc => by rw [List.mem_dedup, occurringServices, List.mem_toFinset]⟩,
    rfl⟩

/-! ### The order of the services -/

section Order

variable {first second third : ServiceKey}

theorem before_iff : first.before second = true ↔ first.workload < second.workload ∨
    (first.workload = second.workload ∧ (first.ns < second.ns ∨ first.ns = second.ns)) := by
  simp [ServiceKey.before]

theorem before_trans (left : first.before second = true) (right : second.before third = true) :
    first.before third = true := by
  rw [before_iff] at *
  rcases left with less | ⟨same, rest⟩
  · rcases right with less' | ⟨same', -⟩
    · exact Or.inl (less.trans less')
    · exact Or.inl (same' ▸ less)
  · rcases right with less' | ⟨same', rest'⟩
    · exact Or.inl (same ▸ less')
    · refine Or.inr ⟨same.trans same', ?_⟩
      rcases rest with less | equal
      · rcases rest' with less' | equal'
        · exact Or.inl (less.trans less')
        · exact Or.inl (equal' ▸ less)
      · exact equal ▸ rest'

theorem before_total (first second : ServiceKey) :
    (first.before second || second.before first) = true := by
  rw [Bool.or_eq_true, before_iff, before_iff]
  rcases lt_trichotomy first.workload second.workload with less | same | greater
  · exact Or.inl (Or.inl less)
  · rcases lt_trichotomy first.ns second.ns with less | equal | greater
    · exact Or.inl (Or.inr ⟨same, Or.inl less⟩)
    · exact Or.inl (Or.inr ⟨same, Or.inr equal⟩)
    · exact Or.inr (Or.inr ⟨same.symm, Or.inl greater⟩)
  · exact Or.inr (Or.inl greater)

theorem before_antisymm (left : first.before second = true) (right : second.before first = true) :
    first = second := by
  obtain ⟨workload, ns⟩ := first
  obtain ⟨workload', ns'⟩ := second
  rw [before_iff] at left right
  dsimp only at left right
  rcases left with less | ⟨rfl, rest⟩
  · rcases right with less' | ⟨rfl, -⟩
    · exact absurd less' less.not_gt
    · exact absurd less (lt_irrefl _)
  · rcases right with less' | ⟨-, rest'⟩
    · exact absurd less' (lt_irrefl _)
    · rcases rest with less | rfl
      · rcases rest' with less' | rfl
        · exact absurd less' less.not_gt
        · exact absurd less (lt_irrefl _)
      · rfl

end Order

/-! ### Scores -/

/-- The score of a service: the mean of its three scores, rounded down. -/
def serviceScore (metrics : MetricsSnapshot) (svc : ServiceKey) : Nat :=
  ((scoreMetric metrics.latency svc .up).impactScore.toNat +
    (scoreErrorRate metrics.errorRate svc).impactScore.toNat +
    (scoreMetric metrics.throughput svc .down).impactScore.toNat) / 3

theorem toNat_capped (score : UInt32) : (min score 100).toNat ≤ 100 :=
  UInt32.le_iff_toNat_le.mp (min_uint32_le_right score 100)

theorem scoreMetric_le (pair : MetricPair) (svc : ServiceKey) (direction : DegradationDirection) :
    (scoreMetric pair svc direction).impactScore.toNat ≤ 100 := toNat_capped _

theorem scoreErrorRate_le (pair : MetricPair) (svc : ServiceKey) :
    (scoreErrorRate pair svc).impactScore.toNat ≤ 100 := by
  unfold scoreErrorRate
  dsimp only
  split_ifs
  · exact toNat_capped _
  · exact toNat_capped _

/-- Three scores do not overflow. -/
theorem toNat_mean {first second third : UInt32} (firstLe : first.toNat ≤ 100)
    (secondLe : second.toNat ≤ 100) (thirdLe : third.toNat ≤ 100) :
    ((first + second + third) / 3).toNat = (first.toNat + second.toNat + third.toNat) / 3 := by
  rw [UInt32.toNat_div, UInt32.toNat_add, UInt32.toNat_add]
  show _ / 3 = _
  omega

/-- The entry of a service. -/
structure IsEntry (metrics : MetricsSnapshot) (svc : ServiceKey) (service : AffectedService) :
    Prop where
  workload : service.workload = svc.workload
  ns : service.ns = svc.ns
  score : service.impactScore.toNat = serviceScore metrics svc
  impactType : service.impactType = none
  metrics : service.metrics = ⟨scoreMetric metrics.latency svc .up,
    scoreErrorRate metrics.errorRate svc, scoreMetric metrics.throughput svc .down⟩

/-- A service has its entry when its score reaches the threshold, and no entry otherwise. -/
theorem affectedService_spec (metrics : MetricsSnapshot) (minImpact : UInt32) (svc : ServiceKey) :
    if minImpact.toNat ≤ serviceScore metrics svc then
      ∃ service, affectedService metrics minImpact svc = some service ∧ IsEntry metrics svc service
    else affectedService metrics minImpact svc = none := by
  have mean := toNat_mean (scoreMetric_le metrics.latency svc .up)
    (scoreErrorRate_le metrics.errorRate svc) (scoreMetric_le metrics.throughput svc .down)
  unfold affectedService
  dsimp only
  split_ifs with reaches listed listed
  · exact ⟨_, rfl, rfl, rfl, mean, rfl, rfl⟩
  · rw [UInt32.le_iff_toNat_le, mean] at listed
    exact absurd reaches listed
  · rw [UInt32.le_iff_toNat_le, mean] at listed
    exact absurd listed reaches
  · rfl

/-! ### The report -/

def entryKey (service : AffectedService) : ServiceKey := ⟨service.workload, service.ns⟩

theorem IsEntry.key {metrics : MetricsSnapshot} {svc : ServiceKey} {service : AffectedService}
    (isEntry : IsEntry metrics svc service) : entryKey service = svc := by
  rw [entryKey, isEntry.workload, isEntry.ns]

/-- The entry comes strictly before another one: by a higher score, or with the same score by its
workload and then by its namespace. -/
def RanksBefore (first second : AffectedService) : Prop :=
  second.impactScore < first.impactScore ∨
    (first.impactScore = second.impactScore ∧ (first.workload < second.workload ∨
      (first.workload = second.workload ∧ first.ns < second.ns)))

/-- What the report on some metrics is. -/
structure CanonicalReport (metrics : MetricsSnapshot) (minImpact : UInt32)
    (report : UInt32 × List AffectedService) : Prop where
  total : report.1.toNat = (occurringServices metrics).card
  listed : ∀ svc, (∃ service ∈ report.2, entryKey service = svc) ↔
    Occurs metrics svc ∧ minImpact.toNat ≤ serviceScore metrics svc
  entries : ∀ service ∈ report.2, IsEntry metrics (entryKey service) service
  once : (report.2.map entryKey).Nodup
  ranked : report.2.Pairwise RanksBefore
  bounded : ∀ service ∈ report.2, service.impactScore.toNat ≤ 100 ∧
    service.metrics.latencyP99.impactScore.toNat ≤ 100 ∧
    service.metrics.errorRate.impactScore.toNat ≤ 100 ∧
    service.metrics.throughput.impactScore.toNat ≤ 100

section Report

variable {metrics : MetricsSnapshot} {minImpact : UInt32} {order : List ServiceKey}

theorem affectedService_eq_some {svc : ServiceKey} {service : AffectedService}
    (affected : affectedService metrics minImpact svc = some service) :
    minImpact.toNat ≤ serviceScore metrics svc ∧ IsEntry metrics svc service := by
  have spec := affectedService_spec metrics minImpact svc
  split_ifs at spec with reaches
  · obtain ⟨entry, same, isEntry⟩ := spec
    rw [affected] at same
    obtain rfl := Option.some.inj same
    exact ⟨reaches, isEntry⟩
  · rw [affected] at spec
    cases spec

theorem iterationOrder_length (iterated : IterationOrder metrics order) :
    order.length = (occurringServices metrics).card := by
  rw [← List.toFinset_card_of_nodup iterated.nodup]
  congr 1
  ext svc
  rw [List.mem_toFinset, iterated.mem]

/-- The entries before the last sort, one after the other in the order of their keys. -/
def scannedEntries (order : List ServiceKey) (metrics : MetricsSnapshot) (minImpact : UInt32) :
    List AffectedService :=
  (order.mergeSort ServiceKey.before).filterMap (affectedService metrics minImpact)

theorem mem_scannedEntries {service : AffectedService} :
    service ∈ scannedEntries order metrics minImpact ↔
      ∃ svc ∈ order, affectedService metrics minImpact svc = some service := by
  simp only [scannedEntries, List.mem_filterMap, List.mem_mergeSort]

theorem scannedEntries_pairwise (metrics : MetricsSnapshot) (minImpact : UInt32)
    (nodup : order.Nodup) :
    (scannedEntries order metrics minImpact).Pairwise fun first second =>
      entryKey first ≠ entryKey second ∧ (entryKey first).before (entryKey second) = true := by
  have distinct : (order.mergeSort ServiceKey.before).Pairwise (· ≠ ·) :=
    (List.mergeSort_perm order ServiceKey.before).nodup_iff.mpr nodup
  have sorted : (order.mergeSort ServiceKey.before).Pairwise
      fun first second => first.before second = true := by
    refine List.pairwise_mergeSort ?_ before_total order
    intro first second third left right
    exact before_trans left right
  refine (distinct.and sorted).filterMap _
    fun first second ordered entry affected entry' affected' => ?_
  have key : entryKey entry = first := (affectedService_eq_some (Option.mem_def.mp affected)).2.key
  have key' : entryKey entry' = second :=
    (affectedService_eq_some (Option.mem_def.mp affected')).2.key
  rw [key, key']
  exact ordered

theorem ranked_of_stable {first second : AffectedService}
    (scored : second.impactScore ≤ first.impactScore)
    (tied : first.impactScore ≤ second.impactScore → entryKey first ≠ entryKey second ∧
      (entryKey first).before (entryKey second) = true) : RanksBefore first second := by
  by_cases same : first.impactScore ≤ second.impactScore
  · obtain ⟨distinct, before⟩ := tied same
    have equal : first.impactScore = second.impactScore := UInt32.le_antisymm same scored
    rcases before_iff.mp before with less | ⟨workload, less | ns⟩
    · exact Or.inr ⟨equal, Or.inl less⟩
    · exact Or.inr ⟨equal, Or.inr ⟨workload, less⟩⟩
    · exact absurd (congrArg₂ ServiceKey.mk workload ns) distinct
  · exact Or.inl (UInt32.not_le.mp same)

/-- The entries as they are reported. -/
theorem rankedEntries_pairwise (nodup : order.Nodup) :
    ((scannedEntries order metrics minImpact).mergeSort fun first second =>
      second.impactScore ≤ first.impactScore).Pairwise RanksBefore := by
  have ordered := scannedEntries_pairwise metrics minImpact nodup
  have distinct : (scannedEntries order metrics minImpact).Nodup :=
    ordered.imp fun keys same => keys.1 (congrArg entryKey same)
  refine (pairwise_mergeSort_stable ?_ ?_ distinct ordered).imp ?_
  · intro first second third left right
    rw [decide_eq_true_eq] at *
    exact UInt32.le_trans right left
  · intro first second
    rw [Bool.or_eq_true, decide_eq_true_eq, decide_eq_true_eq]
    exact UInt32.le_total _ _
  · rintro first second ⟨scored, tied⟩
    rw [decide_eq_true_eq] at scored tied
    exact ranked_of_stable scored tied

theorem canonicalReport_in (iterated : IterationOrder metrics order)
    (few : (occurringServices metrics).card < 2 ^ 32) :
    CanonicalReport metrics minImpact (computeAffectedServicesIn order metrics minImpact) := by
  have perm : (computeAffectedServicesIn order metrics minImpact).2.Perm
      (scannedEntries order metrics minImpact) := List.mergeSort_perm _ _
  have entry {service : AffectedService}
      (member : service ∈ (computeAffectedServicesIn order metrics minImpact).2) :
      ∃ svc ∈ order, affectedService metrics minImpact svc = some service :=
    mem_scannedEntries.mp (perm.subset member)
  have isEntry {service : AffectedService}
      (member : service ∈ (computeAffectedServicesIn order metrics minImpact).2) :
      IsEntry metrics (entryKey service) service := by
    obtain ⟨svc, -, affected⟩ := entry member
    have isEntry := (affectedService_eq_some affected).2
    rwa [← isEntry.key] at isEntry
  refine ⟨?_, ?_, fun service member => isEntry member, ?_, ?_, fun service member => ?_⟩
  · show (UInt32.ofNat (order.mergeSort ServiceKey.before).length).toNat = _
    rw [List.length_mergeSort, iterationOrder_length iterated, UInt32.toNat_ofNat_of_lt' few]
  · intro svc
    constructor
    · rintro ⟨service, member, rfl⟩
      obtain ⟨svc, within, affected⟩ := entry member
      obtain ⟨reaches, isEntry⟩ := affectedService_eq_some affected
      rw [isEntry.key]
      exact ⟨mem_occurringServices.mp ((iterated.mem svc).mp within), reaches⟩
    · rintro ⟨occurs, reaches⟩
      have spec := affectedService_spec metrics minImpact svc
      rw [if_pos reaches] at spec
      obtain ⟨service, affected, isEntry⟩ := spec
      have within : svc ∈ order := (iterated.mem svc).mpr (mem_occurringServices.mpr occurs)
      exact ⟨service, perm.symm.subset (mem_scannedEntries.mpr ⟨svc, within, affected⟩),
        isEntry.key⟩
  · have keys := scannedEntries_pairwise metrics minImpact iterated.nodup
    rw [(perm.map entryKey).nodup_iff, List.Nodup, List.pairwise_map]
    exact keys.imp fun distinct => distinct.1
  · exact rankedEntries_pairwise iterated.nodup
  · have same := isEntry member
    have latency := scoreMetric_le metrics.latency (entryKey service) .up
    have errorRate := scoreErrorRate_le metrics.errorRate (entryKey service)
    have throughput := scoreMetric_le metrics.throughput (entryKey service) .down
    refine ⟨?_, ?_⟩
    · rw [same.score, serviceScore]
      omega
    · rw [same.metrics]
      exact ⟨latency, errorRate, throughput⟩

/-- The report does not depend on the order of the iteration. -/
theorem computeAffectedServicesIn_eq {order' : List ServiceKey} {metrics' : MetricsSnapshot}
    (same : SameSnapshot metrics metrics') (iterated : IterationOrder metrics order)
    (iterated' : IterationOrder metrics' order') :
    computeAffectedServicesIn order' metrics' minImpact =
      computeAffectedServicesIn order metrics minImpact := by
  have perm : order'.Perm order := by
    refine (List.perm_ext_iff_of_nodup iterated'.nodup iterated.nodup).mpr fun svc => ?_
    rw [iterated'.mem, iterated.mem, mem_occurringServices, mem_occurringServices, same.occurs]
  have sorted : order'.mergeSort ServiceKey.before = order.mergeSort ServiceKey.before := by
    refine mergeSort_eq_of_perm ?_ before_total ?_ perm
    · intro first second third left right
      exact before_trans left right
    · intro first second left right
      exact before_antisymm left right
  unfold computeAffectedServicesIn
  rw [sorted, same.affectedService]

end Report

/-- The report is the canonical one for every iteration order of the maps and of the set of
services, and it is the same for all of them. -/
theorem affectedServices_canonical (metrics : MetricsSnapshot) (minImpact : UInt32)
    (few : (occurringServices metrics).card < 2 ^ 32) :
    CanonicalReport metrics minImpact (computeAffectedServices metrics minImpact) ∧
      ∀ metrics' order, SameSnapshot metrics metrics' → IterationOrder metrics' order →
        computeAffectedServicesIn order metrics' minImpact =
          computeAffectedServices metrics minImpact := by
  obtain ⟨order, iterated, report⟩ := computeAffectedServices_eq metrics minImpact
  rw [report]
  exact ⟨canonicalReport_in iterated few, fun metrics' order' same iterated' =>
    computeAffectedServicesIn_eq same iterated iterated'⟩

/-- A service that gets slower, and one that shows up during the experiment only. -/
def sampleMetrics : MetricsSnapshot where
  latency := {
    baseline := AList.insert ⟨"payment", "shop"⟩ (.finite 100) ∅
    during := AList.insert ⟨"payment", "shop"⟩ (.finite 180)
      (AList.insert ⟨"ledger", "shop"⟩ (.finite 50) ∅) }
  errorRate := { baseline := ∅, during := ∅ }
  throughput := { baseline := ∅, during := ∅ }

theorem affectedServices_canonical_sample :
    CanonicalReport sampleMetrics 5 (computeAffectedServices sampleMetrics 5) :=
  (affectedServices_canonical sampleMetrics 5 (by decide +kernel)).1

end ChimpChaos
