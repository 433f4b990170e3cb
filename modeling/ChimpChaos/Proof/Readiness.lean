/-
This file settles whether an analysis and an impact map of one experiment agree on what to do
next.

Both read the experiment, both wait until it has ended, and both refuse a window or a time that
they cannot parse. But of an experiment that has ended without its times the one makes an error
and the other a final status, and only the analysis takes time off the start, which the time
library may refuse with a panic. These are the only differences.
-/

import ChimpChaos.Cluster.StatusDocument
import ChimpChaos.Cluster.Pass

namespace ChimpChaos

open Library Relation

/-! ### Decisions -/

/-- What a pass does about its experiment, once it has read it. -/
inductive Decision where
  | nothing
  | writes (phase : AnalysisPhase)
  | queries
  | fails
  | panics
  deriving DecidableEq, Repr

/-- The statuses of the experiments, as they are read. -/
abbrev ExperimentReader : Type := String → String → Except OperatorError ChaosExperimentStatus

/-- The first thing an analysis does apart from reading its experiment. -/
def analysisDecision (experiments : ExperimentReader) : AnalysisHandler Unit → Decision
  | .done _ => .nothing
  | .fail _ => .fails
  | .panic => .panics
  | .call (.getExperimentStatus ns name) next =>
    analysisDecision experiments (next (experiments ns name))
  | .call (.queryAt ..) _ => .queries
  | .call (.patchAnalysisStatus _ _ status) _ => .writes status.phase

/-- The first thing an impact map does apart from reading its experiment. -/
def impactMapDecision (experiments : ExperimentReader) : ImpactMapHandler Unit → Decision
  | .done _ => .nothing
  | .fail _ => .fails
  | .panic => .panics
  | .call (.getExperimentStatus ns name) next =>
    impactMapDecision experiments (next (experiments ns name))
  | .call (.queryVectorAt ..) _ => .queries
  | .call (.classification _) _ => .queries
  | .call (.patchImpactMapStatus _ _ status) _ => .writes status.phase

/-- Both wait, both give up, both query, or both make an error. -/
def Agree (first second : Decision) : Prop :=
  first = second ∧ first ∈ [.writes .pending, .writes .failed, .queries, .fails]

/-- The experiment an analysis refers to. -/
def analysedExperiment (analysis : ChaosAnalysis) : String × String :=
  (analysis.spec.experimentRef.ns.getD (analysisNamespace analysis),
    analysis.spec.experimentRef.name)

/-! ### What the two passes decide -/

/-- Half of a window, as an analysis counts it. -/
def halfWindow (baselineSecs : UInt64) : Int := baselineSecs.toInt64.toInt.tdiv 2

/-- The window and the times of an experiment can be parsed. -/
structure TimesRead (crates : TimeCrate) (window : String) (expStatus : ChaosExperimentStatus)
    (baselineSecs : UInt64) (started completed : DateTime) : Prop where
  window : parseDurationStr window = some baselineSecs
  started : ∃ startedAt, expStatus.startedAt = some startedAt ∧
    crates.parseFromRfc3339 startedAt = .ok started
  completed : ∃ completedAt, expStatus.completedAt = some completedAt ∧
    crates.parseFromRfc3339 completedAt = .ok completed

section Decisions

variable {crates : TimeCrate} {experiments : ExperimentReader} {expStatus : ChaosExperimentStatus}
  {baselineSecs : UInt64} {started completed : DateTime}

theorem TimesRead.timed {window : String}
    (read : TimesRead crates window expStatus baselineSecs started completed) :
    expStatus.startedAt.isSome = true ∧ expStatus.completedAt.isSome = true := by
  obtain ⟨-, ⟨startedAt, hasStart, -⟩, completedAt, hasEnd, -⟩ := read
  rw [hasStart, hasEnd]
  exact ⟨rfl, rfl⟩

theorem TimesRead.unique {window : String} {baselineSecs' : UInt64} {started' completed' : DateTime}
    (read : TimesRead crates window expStatus baselineSecs started completed)
    (read' : TimesRead crates window expStatus baselineSecs' started' completed') :
    baselineSecs = baselineSecs' ∧ started = started' := by
  obtain ⟨parsed, ⟨startedAt, hasStart, start⟩, -⟩ := read
  obtain ⟨parsed', ⟨startedAt', hasStart', start'⟩, -⟩ := read'
  obtain rfl := Option.some.inj (hasStart.symm.trans hasStart')
  exact ⟨Option.some.inj (parsed.symm.trans parsed'), Except.ok.inj (start.symm.trans start')⟩

theorem required_eq_ok {Value : Type} {message : String} {option : Option Value} {value : Value} :
    required message option = .ok value ↔ option = some value := by
  cases option <;> simp [required]

theorem parseTime_eq_ok {field text : String} {time : DateTime} :
    parseTime crates field text = .ok time ↔ crates.parseFromRfc3339 text = .ok time := by
  unfold parseTime
  cases crates.parseFromRfc3339 text <;> simp [Except.mapError]

theorem bind_eq_ok {Error Value Result : Type} {first : Except Error Value}
    {continuation : Value → Except Error Result} {result : Result} :
    (first >>= continuation) = .ok result ↔
      ∃ value, first = .ok value ∧ continuation value = .ok result := by
  cases first with
  | error error => exact ⟨nofun, fun ⟨_, failed, _⟩ => nomatch failed⟩
  | ok value => exact ⟨fun same => ⟨value, rfl, same⟩, fun ⟨_, rfl, same⟩ => same⟩

theorem analysisWindow_eq_ok {spec : ChaosAnalysisSpec} :
    analysisWindow crates spec expStatus = .ok (baselineSecs, started, completed) ↔
      TimesRead crates spec.prometheus.baselineWindow expStatus baselineSecs started completed := by
  unfold analysisWindow
  simp only [bind_eq_ok, required_eq_ok, parseTime_eq_ok]
  constructor
  · rintro ⟨startedAt, hasStart, completedAt, hasEnd, _, window, _, start, _, final, same⟩
    cases same
    exact ⟨window, ⟨startedAt, hasStart, start⟩, completedAt, hasEnd, final⟩
  · rintro ⟨window, ⟨startedAt, hasStart, start⟩, completedAt, hasEnd, final⟩
    exact ⟨startedAt, hasStart, completedAt, hasEnd, _, window, _, start, _, final, rfl⟩

theorem exists_calculateTimeWindows {startedAt completedAt window : String} :
    (∃ windows, calculateTimeWindows crates startedAt completedAt window = .ok windows) ↔
      ∃ baselineSecs started completed, parseDurationStr window = some baselineSecs ∧
        crates.parseFromRfc3339 startedAt = .ok started ∧
        crates.parseFromRfc3339 completedAt = .ok completed := by
  unfold calculateTimeWindows
  simp only [bind_eq_ok, required_eq_ok, parseTime_eq_ok]
  constructor
  · rintro ⟨_, baselineSecs, window, started, start, completed, final, -⟩
    exact ⟨baselineSecs, started, completed, window, start, final⟩
  · rintro ⟨baselineSecs, started, completed, window, start, final⟩
    exact ⟨_, baselineSecs, window, started, start, completed, final, rfl⟩

theorem queryTimes_of_read {spec : ChaosAnalysisSpec}
    (read : TimesRead crates spec.prometheus.baselineWindow expStatus baselineSecs started
      completed) :
    queryTimes crates spec expStatus =
      (Program.ofOption (crates.minusSeconds started (halfWindow baselineSecs)) >>= fun time =>
        .done (time, crates.midpoint started completed)) := by
  unfold queryTimes
  rw [analysisWindow_eq_ok.mpr read]
  rfl

/-- An analysis of an experiment that has ended queries when the times can be parsed and half of
the window can be taken off the start. -/
theorem decision_measure_of_read {analysis : ChaosAnalysis}
    (read : TimesRead crates analysis.spec.prometheus.baselineWindow expStatus baselineSecs started
      completed) :
    analysisDecision experiments (measure crates analysis expStatus) =
      if (crates.minusSeconds started (halfWindow baselineSecs)).isSome then .queries
      else .panics := by
  unfold measure
  rw [queryTimes_of_read read]
  cases crates.minusSeconds started (halfWindow baselineSecs) <;> rfl

theorem decision_measure_of_unread {analysis : ChaosAnalysis}
    (unread : ∀ baselineSecs started completed, ¬ TimesRead crates
      analysis.spec.prometheus.baselineWindow expStatus baselineSecs started completed) :
    analysisDecision experiments (measure crates analysis expStatus) = .fails := by
  unfold measure queryTimes
  cases window : analysisWindow crates analysis.spec expStatus with
  | error error => rfl
  | ok read => exact absurd (analysisWindow_eq_ok.mp window) (unread _ _ _)

/-- Whatever the query of an impact map, it queries first. -/
theorem decision_assess_of_ready {graphClient : Bool} {impactMap : ReportedImpactMap}
    {startedAt completedAt : String}
    (ready : checkExperimentReadiness expStatus = .ready startedAt completedAt) :
    impactMapDecision experiments (assessImpact crates graphClient impactMap expStatus) =
      match calculateTimeWindows crates startedAt completedAt
        impactMap.prometheus.baselineWindow with
      | .ok _ => .queries
      | .error _ => .fails := by
  unfold assessImpact
  rw [ready]
  dsimp only
  cases calculateTimeWindows crates startedAt completedAt impactMap.prometheus.baselineWindow <;>
    rfl

/-- An impact map of an experiment that has ended with its times queries when they can be
parsed. -/
theorem decision_assess_of_read {graphClient : Bool} {impactMap : ReportedImpactMap}
    (ended : expStatus.phase.isTerminal = true)
    (read : TimesRead crates impactMap.prometheus.baselineWindow expStatus baselineSecs started
      completed) :
    impactMapDecision experiments (assessImpact crates graphClient impactMap expStatus) =
      .queries := by
  obtain ⟨window, ⟨startedAt, hasStart, start⟩, completedAt, hasEnd, final⟩ := read
  have ready : checkExperimentReadiness expStatus = .ready startedAt completedAt := by
    rw [checkExperimentReadiness, if_pos ended, hasStart, hasEnd]
  obtain ⟨windows, calculated⟩ := exists_calculateTimeWindows.mpr
    ⟨baselineSecs, started, completed, window, start, final⟩
  rw [decision_assess_of_ready ready, calculated]

theorem decision_assess_of_unread {graphClient : Bool} {impactMap : ReportedImpactMap}
    {startedAt completedAt : String} (ended : expStatus.phase.isTerminal = true)
    (hasStart : expStatus.startedAt = some startedAt)
    (hasEnd : expStatus.completedAt = some completedAt)
    (unread : ∀ baselineSecs started completed, ¬ TimesRead crates
      impactMap.prometheus.baselineWindow expStatus baselineSecs started completed) :
    impactMapDecision experiments (assessImpact crates graphClient impactMap expStatus) =
      .fails := by
  have ready : checkExperimentReadiness expStatus = .ready startedAt completedAt := by
    rw [checkExperimentReadiness, if_pos ended, hasStart, hasEnd]
  rw [decision_assess_of_ready ready]
  cases calculated : calculateTimeWindows crates startedAt completedAt
      impactMap.prometheus.baselineWindow with
  | error error => rfl
  | ok windows =>
    obtain ⟨baselineSecs, started, completed, window, start, final⟩ :=
      exists_calculateTimeWindows.mp ⟨windows, calculated⟩
    exact absurd ⟨window, ⟨startedAt, hasStart, start⟩, completedAt, hasEnd, final⟩
      (unread baselineSecs started completed)

theorem decision_assess_of_untimed {graphClient : Bool} {impactMap : ReportedImpactMap}
    (ended : expStatus.phase.isTerminal = true)
    (untimed : expStatus.startedAt = none ∨ expStatus.completedAt = none) :
    impactMapDecision experiments (assessImpact crates graphClient impactMap expStatus) =
      .writes .failed := by
  have unready : checkExperimentReadiness expStatus =
      .notFound "experiment has no startedAt/completedAt" := by
    rw [checkExperimentReadiness, if_pos ended]
    rcases untimed with absent | absent
    · rw [absent]
    · rw [absent]
      cases expStatus.startedAt <;> rfl
  unfold assessImpact
  rw [unready]
  rfl

theorem decision_assess_of_waiting {graphClient : Bool} {impactMap : ReportedImpactMap}
    (waiting : ¬ expStatus.phase.isTerminal = true) :
    impactMapDecision experiments (assessImpact crates graphClient impactMap expStatus) =
      .writes .pending := by
  unfold assessImpact
  rw [checkExperimentReadiness, if_neg waiting]
  rfl

/-- What an analysis decides once it has read its experiment. -/
theorem decision_reconcileAnalysis {analysis : ChaosAnalysis}
    (waiting : (analysis.status.getD default).phase ≠ .completed)
    (found : experiments (analysedExperiment analysis).1 (analysedExperiment analysis).2 =
      .ok expStatus) :
    analysisDecision experiments (reconcileAnalysis crates analysis) =
      if expStatus.phase.isTerminal = true then
        analysisDecision experiments (measure crates analysis expStatus)
      else .writes .pending := by
  unfold reconcileAnalysis
  dsimp only
  rw [if_neg waiting, analysisCall, Program.request_bind, analysisDecision]
  unfold analysedExperiment at found
  dsimp only at found
  rw [found]
  dsimp only
  split_ifs <;> rfl

/-- What an impact map decides once it has read its experiment. -/
theorem decision_reconcileImpactMap {graphClient : Bool} {impactMap : ReportedImpactMap}
    (waiting : isCompleted impactMap = false)
    (found : experiments (referredExperiment impactMap.toChaosImpactMap).1
      (referredExperiment impactMap.toChaosImpactMap).2 = .ok expStatus) :
    impactMapDecision experiments (reconcileImpactMap crates graphClient impactMap) =
      impactMapDecision experiments (assessImpact crates graphClient impactMap expStatus) := by
  unfold reconcileImpactMap
  rw [waiting, if_neg Bool.false_ne_true]
  dsimp only
  rw [impactMapCall, Program.request_bind, impactMapDecision, found]

end Decisions

/-! ### Agreement -/

/-- The experiment has not ended, or it has both times, and half of the window can be taken off
the start when all of them can be parsed. -/
def ReadAlike (crates : TimeCrate) (window : String) (expStatus : ChaosExperimentStatus) : Prop :=
  expStatus.phase.isTerminal = true →
    (expStatus.startedAt.isSome = true ∧ expStatus.completedAt.isSome = true) ∧
      ∀ baselineSecs started completed,
        TimesRead crates window expStatus baselineSecs started completed →
          (crates.minusSeconds started (halfWindow baselineSecs)).isSome = true

theorem readAlike_of_read {crates : TimeCrate} {window : String}
    {expStatus : ChaosExperimentStatus} {baselineSecs : UInt64} {started completed : DateTime}
    (ended : expStatus.phase.isTerminal = true)
    (read : TimesRead crates window expStatus baselineSecs started completed) :
    ReadAlike crates window expStatus ↔
      (crates.minusSeconds started (halfWindow baselineSecs)).isSome = true := by
  constructor
  · intro alike
    exact (alike ended).2 _ _ _ read
  · intro taken _
    refine ⟨read.timed, fun baselineSecs' started' completed' read' => ?_⟩
    obtain ⟨rfl, rfl⟩ := read.unique read'
    exact taken

/-- An analysis and an impact map of one experiment, neither completed and with one window, agree
on what to do if and only if the experiment has not ended, or it has its times and half of the
window can be taken off the start. -/
theorem readiness_agrees_iff (crates : TimeCrate) (graphClient : Bool) (analysis : ChaosAnalysis)
    (impactMap : ReportedImpactMap) (experiments : ExperimentReader)
    (expStatus : ChaosExperimentStatus)
    (waiting : (analysis.status.getD default).phase ≠ .completed)
    (waiting' : isCompleted impactMap = false)
    (sameExperiment : analysedExperiment analysis = referredExperiment impactMap.toChaosImpactMap)
    (sameWindow : analysis.spec.prometheus.baselineWindow = impactMap.prometheus.baselineWindow)
    (found : experiments (analysedExperiment analysis).1 (analysedExperiment analysis).2 =
      .ok expStatus) :
    Agree (analysisDecision experiments (reconcileAnalysis crates analysis))
        (impactMapDecision experiments (reconcileImpactMap crates graphClient impactMap)) ↔
      ReadAlike crates analysis.spec.prometheus.baselineWindow expStatus := by
  rw [decision_reconcileAnalysis waiting found,
    decision_reconcileImpactMap waiting' (sameExperiment ▸ found)]
  by_cases ended : expStatus.phase.isTerminal = true
  · rw [if_pos ended]
    by_cases timed : expStatus.startedAt.isSome = true ∧ expStatus.completedAt.isSome = true
    · by_cases read : ∃ baselineSecs started completed, TimesRead crates
        analysis.spec.prometheus.baselineWindow expStatus baselineSecs started completed
      · obtain ⟨baselineSecs, started, completed, read⟩ := read
        rw [decision_measure_of_read read, decision_assess_of_read ended (sameWindow ▸ read),
          readAlike_of_read ended read]
        split_ifs with taken
        · exact ⟨fun _ => taken, fun _ => ⟨rfl, by decide⟩⟩
        · exact ⟨fun agree => (nomatch agree.1), fun taken' => absurd taken' taken⟩
      · have unread (baselineSecs : UInt64) (started completed : DateTime) : ¬ TimesRead crates
            analysis.spec.prometheus.baselineWindow expStatus baselineSecs started completed :=
          fun read' => read ⟨_, _, _, read'⟩
        obtain ⟨startedAt, hasStart⟩ := Option.isSome_iff_exists.mp timed.1
        obtain ⟨completedAt, hasEnd⟩ := Option.isSome_iff_exists.mp timed.2
        rw [decision_measure_of_unread unread,
          decision_assess_of_unread ended hasStart hasEnd (sameWindow ▸ unread)]
        exact ⟨fun _ _ => ⟨timed, fun _ _ _ read' => absurd read' (unread _ _ _)⟩,
          fun _ => ⟨rfl, by decide⟩⟩
    · have untimed : expStatus.startedAt = none ∨ expStatus.completedAt = none := by
        rw [← Option.not_isSome_iff_eq_none, ← Option.not_isSome_iff_eq_none]
        exact not_and_or.mp timed
      have unread (baselineSecs : UInt64) (started completed : DateTime) : ¬ TimesRead crates
          analysis.spec.prometheus.baselineWindow expStatus baselineSecs started completed :=
        fun read => timed read.timed
      rw [decision_measure_of_unread unread, decision_assess_of_untimed ended untimed]
      exact ⟨fun agree => (nomatch agree.1), fun alike => absurd (alike ended).1 timed⟩
  · rw [if_neg ended, decision_assess_of_waiting ended]
    exact ⟨fun _ ended' => absurd ended' ended, fun _ => ⟨rfl, by decide⟩⟩

/-- An analysis of the sample experiment. -/
def freshAnalysis : ChaosAnalysis where
  metadata := {}
  spec := sampleAnalysisSpec
  status := none

/-- Both query for the sample experiment once it has succeeded. -/
theorem readiness_agrees_sample :
    Agree (analysisDecision (fun _ _ => .ok (sampleExperimentStatus .succeeded))
        (reconcileAnalysis sampleTimeCrate freshAnalysis))
      (impactMapDecision (fun _ _ => .ok (sampleExperimentStatus .succeeded))
        (reconcileImpactMap sampleTimeCrate true sampleImpactMap)) := by
  refine (readiness_agrees_iff sampleTimeCrate true freshAnalysis sampleImpactMap
    (fun _ _ => .ok (sampleExperimentStatus .succeeded)) (sampleExperimentStatus .succeeded)
    (by decide) rfl rfl rfl rfl).mpr ?_
  exact fun _ => ⟨⟨rfl, rfl⟩, fun _ _ _ _ => rfl⟩

/-- A status that is stored at some time in a run that began without one. -/
def ReachableStatus (status : ChaosExperimentStatus) : Prop :=
  ∃ deployment key initial final object, initial.experiments.lookup key = some object ∧
    object.status = .null ∧ ReflTransGen (Turn deployment anyListings key anyPass) initial final ∧
    storedStatus key final = some status

/-- A pod experiment that is to last no time. -/
def invalidPod : ExperimentObject :=
  { samplePod with spec := { samplePod.spec with duration := 0 } }

/-- Of an experiment that failed its validation the analysis makes an error and the impact map a
final status. -/
theorem invalid_disagrees : ¬ ∀ (crates : TimeCrate) (graphClient : Bool)
    (analysis : ChaosAnalysis) (impactMap : ReportedImpactMap) (experiments : ExperimentReader)
    (expStatus : ChaosExperimentStatus), ReachableStatus expStatus →
    (analysis.status.getD default).phase ≠ .completed → isCompleted impactMap = false →
    analysedExperiment analysis = referredExperiment impactMap.toChaosImpactMap →
    analysis.spec.prometheus.baselineWindow = impactMap.prometheus.baselineWindow →
    experiments (analysedExperiment analysis).1 (analysedExperiment analysis).2 = .ok expStatus →
    Agree (analysisDecision experiments (reconcileAnalysis crates analysis))
      (impactMapDecision experiments (reconcileImpactMap crates graphClient impactMap)) := by
  intro claim
  have reachable : ReachableStatus (failedStatus ValidationError.invalidDuration.toString) := by
    refine ⟨sampleDeployment, sampleKey, sampleCluster [(sampleKey, invalidPod)],
      runPasses sampleDeployment sampleKey (sampleCluster [(sampleKey, invalidPod)])
        [sampleServer 0], invalidPod, rfl, rfl,
      run_runPasses (fun server member => ?_) (fun _ _ _ _ => trivial) _, by decide +kernel⟩
    obtain rfl := List.mem_singleton.mp member
    exact (sampleServer_serves 0).any
  have agree := claim sampleTimeCrate true freshAnalysis sampleImpactMap
    (fun _ _ => .ok (failedStatus ValidationError.invalidDuration.toString)) _ reachable
    (by decide) rfl rfl rfl rfl
  exact nomatch agree.1

end ChimpChaos
