/-
This file settles whether an analysis panics and at which times it asks Prometheus.

It asks at two times. The later one is half way through the experiment, whatever the window is.
The earlier one is half of the window before the start, and there the seconds of the window go
through a signed integer: from `2 ^ 63` on they count as negative, so that the time comes to lie
after the start. And the time library panics for more seconds than it can hold and for a time
before its first one.
-/

import ChimpChaos.Library.Casts
import ChimpChaos.Library.Failing
import ChimpChaos.Proof.DurationText
import ChimpChaos.Proof.Readiness

namespace ChimpChaos

open Library Program

/-! ### The time library -/

/-- The time library computes without loss between its first and its last time, panics for a
number of seconds that its own durations cannot hold, and knows the years 1970 to 9999 in every
time zone. Times count no leap seconds. -/
structure ChronoArithmetic (crates : TimeCrate) (earliest latest : Int) : Prop where
  minusSeconds : ∀ time seconds, crates.minusSeconds time seconds =
    if seconds.natAbs ≤ 9223372036854775 ∧
        earliest ≤ time.instant - seconds * 1000000000 ∧
        time.instant - seconds * 1000000000 ≤ latest then
      some { time with instant := time.instant - seconds * 1000000000 }
    else none
  midpoint : ∀ first second : DateTime, first.instant ≤ second.instant →
    (crates.midpoint first second).instant =
      first.instant + (second.instant - first.instant).tdiv 2
  earliest : earliest ≤ -86400000000000
  latest : 253402387200000000000 ≤ latest

/-- The local time lies in the years 1970 to 9999, less than a day from UTC. -/
structure WithinYears (time : DateTime) : Prop where
  first : 0 ≤ time.instant + time.offsetSecs * 1000000000
  last : time.instant + time.offsetSecs * 1000000000 < 253402300800000000000
  offset : time.offsetSecs.natAbs < 86400

section Arithmetic

variable {crates : TimeCrate} {earliest latest : Int} {time started baseline : DateTime}
  {seconds : Int} {baselineSecs : UInt64}

theorem ChronoArithmetic.minusSeconds_eq_some (arithmetic : ChronoArithmetic crates earliest latest)
    {result : DateTime} :
    crates.minusSeconds time seconds = some result ↔
      (seconds.natAbs ≤ 9223372036854775 ∧ earliest ≤ result.instant ∧ result.instant ≤ latest) ∧
        result = { time with instant := time.instant - seconds * 1000000000 } := by
  rw [arithmetic.minusSeconds]
  constructor
  · intro taken
    split_ifs at taken with inside
    obtain rfl := Option.some.inj taken
    exact ⟨inside, rfl⟩
  · rintro ⟨inside, rfl⟩
    rw [if_pos inside]

theorem WithinYears.inRange (years : WithinYears time)
    (arithmetic : ChronoArithmetic crates earliest latest) :
    earliest ≤ time.instant ∧ time.instant ≤ latest := by
  have lower := arithmetic.earliest
  have upper := arithmetic.latest
  have first := years.first
  have last := years.last
  have offset := years.offset
  omega

/-- The middle of two times is between them. -/
theorem ChronoArithmetic.midpoint_between (arithmetic : ChronoArithmetic crates earliest latest)
    {completed : DateTime} (ordered : started.instant ≤ completed.instant) :
    started.instant ≤ (crates.midpoint started completed).instant ∧
      (crates.midpoint started completed).instant ≤ completed.instant := by
  rw [arithmetic.midpoint _ _ ordered, Int.tdiv_eq_ediv_of_nonneg (by omega)]
  omega

/-- Half of the window is what the cast leaves of it, and the time library can take it off the
start. -/
def HalfWindowFits (earliest : Int) (started : DateTime) (baselineSecs : UInt64) : Prop :=
  baselineSecs.toNat = 2 ^ 64 - 1 ∨
    (baselineSecs.toNat / 2 ≤ 9223372036854775 ∧
      earliest ≤ started.instant - (baselineSecs.toNat / 2 : Nat) * 1000000000)

theorem halfWindow_of_fits (fits : baselineSecs.toNat < 2 ^ 63) :
    halfWindow baselineSecs = (baselineSecs.toNat / 2 : Nat) := by
  rw [halfWindow, toInt64_of_fits fits, Int.tdiv_eq_ediv_of_nonneg (Int.natCast_nonneg _)]
  omega

/-- The half of a window that the cast makes negative. -/
theorem halfWindow_of_large (large : 2 ^ 63 ≤ baselineSecs.toNat) :
    halfWindow baselineSecs = -((2 ^ 64 - baselineSecs.toNat) / 2 : Nat) := by
  have below := baselineSecs.toNat_lt
  have negated : (baselineSecs.toNat : Int) - 2 ^ 64 = -((2 ^ 64 - baselineSecs.toNat : Nat)) := by
    omega
  rw [halfWindow, toInt64_of_large large, negated, Int.neg_tdiv,
    Int.tdiv_eq_ediv_of_nonneg (Int.natCast_nonneg _)]
  omega

/-- When it fits, the time lies before the start and not before the whole window. -/
theorem baseline_of_fits (arithmetic : ChronoArithmetic crates earliest latest)
    (years : WithinYears started) (fits : HalfWindowFits earliest started baselineSecs) :
    ∃ baseline, crates.minusSeconds started (halfWindow baselineSecs) = some baseline ∧
      started.instant - baselineSecs.toNat * 1000000000 ≤ baseline.instant ∧
      baseline.instant ≤ started.instant := by
  have range := years.inRange arithmetic
  have taken {seconds : Nat} (small : seconds ≤ 9223372036854775)
      (inside : earliest ≤ started.instant - seconds * 1000000000) :
      crates.minusSeconds started seconds =
        some { started with instant := started.instant - seconds * 1000000000 } :=
    arithmetic.minusSeconds_eq_some.mpr ⟨⟨by omega, inside, by dsimp only; omega⟩, rfl⟩
  rcases fits with last | ⟨small, inside⟩
  · have none : halfWindow baselineSecs = (0 : Nat) := by
      rw [halfWindow_of_large (by omega), last]
      rfl
    rw [none]
    refine ⟨_, taken (by omega) (by simpa using range.1), ?_, ?_⟩
    · dsimp only
      omega
    · dsimp only
      omega
  · rw [halfWindow_of_fits (by omega)]
    refine ⟨_, taken small inside, ?_, ?_⟩
    · dsimp only
      omega
    · dsimp only
      omega

/-- The time lies before the start only when half of the window fits. -/
theorem fits_of_baseline (arithmetic : ChronoArithmetic crates earliest latest)
    (taken : crates.minusSeconds started (halfWindow baselineSecs) = some baseline)
    (before : baseline.instant ≤ started.instant) :
    HalfWindowFits earliest started baselineSecs := by
  obtain ⟨⟨small, inside, -⟩, rfl⟩ := arithmetic.minusSeconds_eq_some.mp taken
  dsimp only at before inside
  by_cases fits : baselineSecs.toNat < 2 ^ 63
  · rw [halfWindow_of_fits fits] at small inside
    exact Or.inr ⟨by omega, inside⟩
  · have below := baselineSecs.toNat_lt
    rw [halfWindow_of_large (by omega)] at before
    left
    omega

end Arithmetic

/-! ### Runs -/

/-- How the calls of an analysis are answered: the experiment's status is the given one, if it is
read, and everything else is anything. -/
def answersWith (expStatus : ChaosExperimentStatus) :
    (request : AnalysisCall) → Unit → AnalysisAnswer request → Unit → Prop
  | .getExperimentStatus .., _, answer, _ => ∀ read, answer = .ok read → read = expStatus
  | .queryAt .., _, _, _ => True
  | .patchAnalysisStatus .., _, _, _ => True

def queriedTime : Exchange AnalysisCall AnalysisAnswer → Option String
  | ⟨.queryAt _ time, _⟩ => some time
  | _ => none

/-- The times Prometheus is asked at, in their order. -/
def queriedTimes (trace : List (Exchange AnalysisCall AnalysisAnswer)) : List String :=
  trace.filterMap queriedTime

/-- No run of the program panics, and each asks at proper times only. -/
def Stays (expStatus : ChaosExperimentStatus) (Proper : List String → Prop)
    (program : AnalysisHandler Unit) : Prop :=
  ∀ trace rest, Reaches (answersWith expStatus) program () trace rest () →
    rest ≠ .panic ∧ Proper (queriedTimes trace)

/-- Every query is at the next of some times. -/
def asksAt (times : List String) (history : List (Exchange AnalysisCall AnalysisAnswer))
    (request : AnalysisCall) : Prop :=
  ∀ promql time, request = .queryAt promql time →
    queriedTimes history.reverse ++ [time] <+: times

section Runs

variable {crates : TimeCrate} {expStatus : ChaosExperimentStatus} {Proper : List String → Prop}
  {program : AnalysisHandler Unit} {times : List String}

/-- The rule for a whole program: it is steady and its calls are as they should be. -/
theorem stays_of_follows (steady : program.Steady)
    (follows : program.Follows (asksAt times) (fun _ _ => True) [])
    (proper : ∀ asked, asked <+: times → Proper asked) : Stays expStatus Proper program := by
  intro trace rest reaches
  refine ⟨?_, proper _ ?_⟩
  · rintro rfl
    exact steady.reached reaches
  · have preserved (earlier : List (Exchange AnalysisCall AnalysisAnswer)) (request : AnalysisCall)
        (_ : Unit) (answer : AnalysisAnswer request) (_ : Unit)
        (asked : queriedTimes earlier.reverse <+: times) (allowed : asksAt times earlier request)
        (_ : answersWith expStatus request () answer ()) :
        queriedTimes (⟨request, answer⟩ :: earlier).reverse <+: times := by
      rw [List.reverse_cons, queriedTimes, List.filterMap_append]
      cases request with
      | queryAt promql time => exact allowed promql time rfl
      | getExperimentStatus | patchAnalysisStatus =>
        show queriedTimes earlier.reverse ++ [] <+: times
        rw [List.append_nil]
        exact asked
    have asked := (reaches.invariant preserved follows List.nil_prefix).1
    rwa [List.append_nil, List.reverse_reverse] at asked

theorem steady_patchAnalysisStatus (ns name : String) (status : ChaosAnalysisStatus) :
    (patchAnalysisStatus ns name status).Steady :=
  steady_call fun answer => steady_ofExcept answer

theorem follows_patchAnalysisStatus (ns name : String) (status : ChaosAnalysisStatus)
    (history : List (Exchange AnalysisCall AnalysisAnswer)) :
    (patchAnalysisStatus ns name status).Follows (asksAt times) (fun _ _ => True) history :=
  ⟨nofun, fun answer => by cases answer <;> trivial⟩

/-- A program that makes no call stays. -/
theorem stays_of_ended (steady : program.Steady) (ended : program.Ended) (proper : Proper []) :
    Stays expStatus Proper program := by
  intro trace rest reaches
  obtain ⟨rfl, rfl, -⟩ := reaches.of_ended ended
  refine ⟨?_, proper⟩
  rintro rfl
  exact steady

theorem stays_patchAnalysisStatus (proper : Proper []) (ns name : String)
    (status : ChaosAnalysisStatus) :
    Stays expStatus Proper (patchAnalysisStatus ns name status) := by
  have follows : (patchAnalysisStatus ns name status).Follows (asksAt []) (fun _ _ => True) [] :=
    follows_patchAnalysisStatus ns name status []
  refine stays_of_follows (steady_patchAnalysisStatus ns name status) follows fun asked none => ?_
  rw [List.prefix_nil.mp none]
  exact proper

/-- The rule for the call that reads the experiment. -/
theorem stays_read {ns name : String}
    {next : Except OperatorError ChaosExperimentStatus → AnalysisHandler Unit}
    (proper : Proper []) (failed : ∀ error, Stays expStatus Proper (next (.error error)))
    (found : Stays expStatus Proper (next (.ok expStatus))) :
    Stays expStatus Proper (.call (.getExperimentStatus ns name) next) := by
  rintro trace rest reaches
  cases reaches with
  | stop => exact ⟨nofun, proper⟩
  | @call _ _ _ _ _ answer later _ answered reaches =>
    cases answer with
    | error error => exact failed error later rest reaches
    | ok read =>
      obtain rfl := answered read rfl
      exact found later rest reaches

/-- A measurement asks at its two times. -/
theorem stays_measure {analysis : ChaosAnalysis} {baseline chaos : DateTime}
    (computed : queryTimes crates analysis.spec expStatus = .done (baseline, chaos))
    (proper : ∀ asked, asked <+: [crates.toRfc3339 baseline, crates.toRfc3339 chaos] →
      Proper asked) :
    Stays expStatus Proper (measure crates analysis expStatus) := by
  unfold measure
  rw [computed]
  refine stays_of_follows ?_ ?_ proper
  · refine steady_call fun answer => ?_
    cases answer with
    | error error =>
      show (patchAnalysisFailed _ _ _).Steady
      exact steady_patchAnalysisStatus _ _ _
    | ok baselineValue =>
      refine steady_call fun answer => ?_
      cases answer with
      | error error =>
        show (patchAnalysisFailed _ _ _).Steady
        exact steady_patchAnalysisStatus _ _ _
      | ok duringValue =>
        show (patchAnalysisStatus _ _ _).Steady
        exact steady_patchAnalysisStatus _ _ _
  · refine ⟨?_, fun answer => ?_⟩
    · rintro _ _ ⟨rfl⟩
      exact ⟨_, rfl⟩
    · cases answer with
      | error error =>
        show (patchAnalysisFailed _ _ _).Follows _ _ _
        exact follows_patchAnalysisStatus _ _ _ _
      | ok baselineValue =>
        refine ⟨?_, fun answer => ?_⟩
        · rintro _ _ ⟨rfl⟩
          exact List.prefix_rfl
        · cases answer with
          | error error =>
            show (patchAnalysisFailed _ _ _).Follows _ _ _
            exact follows_patchAnalysisStatus _ _ _ _
          | ok duringValue =>
            show (patchAnalysisStatus _ _ _).Follows _ _ _
            exact follows_patchAnalysisStatus _ _ _ _

/-- What an analysis does with the experiment it has read. -/
def afterReading (crates : TimeCrate) (analysis : ChaosAnalysis)
    (expStatus : ChaosExperimentStatus) : AnalysisHandler Unit :=
  if expStatus.phase.isTerminal then measure crates analysis expStatus
  else patchAnalysisStatus (analysisNamespace analysis) (analysisName analysis)
    (waitingStatus analysis.spec.experimentRef.name expStatus.phase)

theorem reconcileAnalysis_of_waiting (crates : TimeCrate) (expStatus : ChaosExperimentStatus)
    {analysis : ChaosAnalysis}
    (waiting : (analysis.status.getD default).phase ≠ .completed) :
    ∃ next, reconcileAnalysis crates analysis =
        .call (.getExperimentStatus (analysedExperiment analysis).1
          (analysedExperiment analysis).2) next ∧
      next (.ok expStatus) = afterReading crates analysis expStatus ∧
      ∀ error, ∃ message, next (.error error) =
        patchAnalysisFailed (analysisNamespace analysis) (analysisName analysis) message := by
  unfold reconcileAnalysis
  dsimp only
  rw [if_neg waiting, analysisCall, Program.request_bind]
  exact ⟨_, rfl, rfl, fun error => ⟨_, rfl⟩⟩

end Runs

/-! ### The windows -/

/-- The two times lie in the windows before and during the experiment. -/
structure InWindows (window : String) (started completed baseline chaos : DateTime) : Prop where
  baseline : ∃ number factor, Denotes window number factor ∧
    started.instant - (number * factor : Nat) * 1000000000 ≤ baseline.instant ∧
    baseline.instant ≤ started.instant
  chaos : started.instant ≤ chaos.instant ∧ chaos.instant ≤ completed.instant

/-- Whenever Prometheus is asked, it is at the two computed times, and these lie in their
windows. -/
def AsksInWindows (crates : TimeCrate) (analysis : ChaosAnalysis)
    (expStatus : ChaosExperimentStatus) (started completed : DateTime) (asked : List String) :
    Prop :=
  asked ≠ [] → ∃ baseline chaos,
    queryTimes crates analysis.spec expStatus = .done (baseline, chaos) ∧
    asked <+: [crates.toRfc3339 baseline, crates.toRfc3339 chaos] ∧
    InWindows analysis.spec.prometheus.baselineWindow started completed baseline chaos

/-- An analysis does not panic and asks Prometheus in its windows only. -/
def StaysInWindows (crates : TimeCrate) (analysis : ChaosAnalysis)
    (expStatus : ChaosExperimentStatus) (started completed : DateTime) : Prop :=
  Stays expStatus (AsksInWindows crates analysis expStatus started completed)
    (reconcileAnalysis crates analysis)

/-- The parsed seconds are never more than the text says. -/
theorem length_of_parsed {window : String} {baselineSecs : UInt64}
    (parsed : parseDurationStr window = some baselineSecs) :
    ∃ number factor, Denotes window number factor ∧ baselineSecs.toNat ≤ number * factor := by
  obtain ⟨number, factor, denotes, -, rfl⟩ := denotes_of_parseDurationStr parsed
  exact ⟨number, factor, denotes, by rw [UInt64.toNat_ofNat']; exact Nat.mod_le _ _⟩

section Windows

variable {crates : TimeCrate} {analysis : ChaosAnalysis} {expStatus : ChaosExperimentStatus}
  {started completed : DateTime} {earliest latest : Int} {baselineSecs : UInt64}

theorem fits_of_stays (arithmetic : ChronoArithmetic crates earliest latest)
    (read : TimesRead crates analysis.spec.prometheus.baselineWindow expStatus baselineSecs started
      completed)
    (waiting : (analysis.status.getD default).phase ≠ .completed)
    (ended : expStatus.phase.isTerminal = true)
    (stays : StaysInWindows crates analysis expStatus started completed) :
    HalfWindowFits earliest started baselineSecs := by
  obtain ⟨next, program, found, -⟩ :=
    reconcileAnalysis_of_waiting crates expStatus waiting
  rw [afterReading, if_pos ended, measure, queryTimes_of_read read] at found
  unfold StaysInWindows at stays
  rw [program] at stays
  have truthful (read : ChaosExperimentStatus)
      (same : (.ok expStatus : Except OperatorError ChaosExperimentStatus) = .ok read) :
      read = expStatus := (Except.ok.inj same).symm
  cases taken : crates.minusSeconds started (halfWindow baselineSecs) with
  | none =>
    rw [taken] at found
    have panics : next (.ok expStatus) = .panic := found
    exact absurd panics (stays [_] _ (.call truthful (.stop _ ()))).1
  | some baseline =>
    rw [taken] at found
    obtain ⟨after, asks⟩ : ∃ after, next (.ok expStatus) =
        .call (.queryAt analysis.spec.query (crates.toRfc3339 baseline)) after := ⟨_, found⟩
    have first : Reaches (answersWith expStatus) (next (.ok expStatus)) ()
        [⟨.queryAt analysis.spec.query (crates.toRfc3339 baseline), .ok .zero⟩]
        (after (.ok .zero)) () := by
      rw [asks]
      exact .call trivial (.stop _ ())
    obtain ⟨baseline', chaos, computed, -, inside⟩ :=
      (stays _ _ (.call truthful first)).2 (List.cons_ne_nil _ _)
    rw [queryTimes_of_read read, taken] at computed
    obtain ⟨rfl, -⟩ := Prod.mk.inj (Program.done.inj computed)
    exact fits_of_baseline arithmetic taken inside.baseline.choose_spec.choose_spec.2.2

theorem stays_of_fits (arithmetic : ChronoArithmetic crates earliest latest)
    (ordered : started.instant ≤ completed.instant) (years : WithinYears started)
    (read : TimesRead crates analysis.spec.prometheus.baselineWindow expStatus baselineSecs started
      completed)
    (fits : HalfWindowFits earliest started baselineSecs) :
    Stays expStatus (AsksInWindows crates analysis expStatus started completed)
      (measure crates analysis expStatus) := by
  obtain ⟨baseline, taken, late, before⟩ := baseline_of_fits arithmetic years fits
  obtain ⟨number, factor, denotes, long⟩ := length_of_parsed read.window
  have computed : queryTimes crates analysis.spec expStatus =
      .done (baseline, crates.midpoint started completed) := by
    rw [queryTimes_of_read read, taken]
    rfl
  refine stays_measure computed fun asked at' _ => ⟨_, _, computed, at', ?_, ?_⟩
  · exact ⟨number, factor, denotes, by omega, before⟩
  · exact arithmetic.midpoint_between ordered

end Windows

/-- An analysis of an experiment with parsable times neither panics nor leaves its windows if and
only if it is completed, its experiment has not ended, its window cannot be parsed, or half of the
window fits. -/
theorem staysInWindows_iff (crates : TimeCrate) (earliest latest : Int)
    (arithmetic : ChronoArithmetic crates earliest latest) (analysis : ChaosAnalysis)
    (expStatus : ChaosExperimentStatus) (startedAt completedAt : String)
    (started completed : DateTime) (hasStart : expStatus.startedAt = some startedAt)
    (start : crates.parseFromRfc3339 startedAt = .ok started)
    (hasEnd : expStatus.completedAt = some completedAt)
    (final : crates.parseFromRfc3339 completedAt = .ok completed)
    (ordered : started.instant ≤ completed.instant) (years : WithinYears started) :
    StaysInWindows crates analysis expStatus started completed ↔
      ((analysis.status.getD default).phase ≠ .completed → expStatus.phase.isTerminal = true →
        ∀ baselineSecs, parseDurationStr analysis.spec.prometheus.baselineWindow =
          some baselineSecs → HalfWindowFits earliest started baselineSecs) := by
  have timed {baselineSecs : UInt64}
      (parsed : parseDurationStr analysis.spec.prometheus.baselineWindow = some baselineSecs) :
      TimesRead crates analysis.spec.prometheus.baselineWindow expStatus baselineSecs started
        completed := ⟨parsed, ⟨startedAt, hasStart, start⟩, completedAt, hasEnd, final⟩
  constructor
  · intro stays waiting ended baselineSecs parsed
    exact fits_of_stays arithmetic (timed parsed) waiting ended stays
  · intro fits
    unfold StaysInWindows
    by_cases waiting : (analysis.status.getD default).phase ≠ .completed
    · obtain ⟨next, program, found, failed⟩ :=
        reconcileAnalysis_of_waiting crates expStatus waiting
      rw [program]
      refine stays_read (fun asked => absurd rfl asked) (fun error => ?_) ?_
      · obtain ⟨message, same⟩ := failed error
        rw [same]
        exact stays_patchAnalysisStatus (fun asked => absurd rfl asked) _ _ _
      · rw [found, afterReading]
        split_ifs with ended
        · cases parsed : parseDurationStr analysis.spec.prometheus.baselineWindow with
          | some baselineSecs =>
            exact stays_of_fits arithmetic ordered years (timed parsed)
              (fits waiting ended _ parsed)
          | none =>
            have refused : measure crates analysis expStatus = .fail (.analysis
                ("invalid baselineWindow: " ++ analysis.spec.prometheus.baselineWindow)) := by
              unfold measure queryTimes analysisWindow
              rw [hasStart, hasEnd, parsed]
              rfl
            rw [refused]
            exact stays_of_ended trivial trivial fun asked => absurd rfl asked
        · exact stays_patchAnalysisStatus (fun asked => absurd rfl asked) _ _ _
    · unfold reconcileAnalysis
      dsimp only
      rw [if_pos (not_not.mp waiting)]
      exact stays_of_ended trivial trivial fun asked => absurd rfl asked

/-- The time library at the start and the end of the sample experiment, with its limits. -/
def sampleChrono : TimeCrate :=
  { sampleTimeCrate with
    minusSeconds := fun time seconds =>
      if seconds.natAbs ≤ 9223372036854775 ∧
          -8334601228800000000000 ≤ time.instant - seconds * 1000000000 ∧
          time.instant - seconds * 1000000000 ≤ 8210266876799999999999 then
        some { time with instant := time.instant - seconds * 1000000000 }
      else none }

theorem sampleChrono_arithmetic :
    ChronoArithmetic sampleChrono (-8334601228800000000000) 8210266876799999999999 where
  minusSeconds := fun _ _ => rfl
  midpoint := fun _ _ _ => rfl
  earliest := by decide
  latest := by decide

/-- A fresh analysis of the sample experiment with some window. -/
def windowAnalysis (window : String) : ChaosAnalysis :=
  { freshAnalysis with
    spec := { sampleAnalysisSpec with
      prometheus := { sampleAnalysisSpec.prometheus with baselineWindow := window } } }

/-- The start of the sample experiment. -/
def sampleStarted : DateTime := ⟨1767261600000000000, 0⟩

/-- The end of the sample experiment. -/
def sampleCompleted : DateTime := ⟨1767261900000000000, 0⟩

theorem sampleChrono_started :
    sampleChrono.parseFromRfc3339 "2026-01-01T10:00:00Z" = .ok sampleStarted := by decide +kernel

theorem sampleChrono_completed :
    sampleChrono.parseFromRfc3339 "2026-01-01T10:05:00Z" = .ok sampleCompleted := by decide +kernel

theorem withinYears_sampleStarted : WithinYears sampleStarted where
  first := by decide
  last := by decide
  offset := by decide

/-- A window of five minutes fits. -/
theorem staysInWindows_sample :
    StaysInWindows sampleChrono freshAnalysis (sampleExperimentStatus .succeeded) sampleStarted
      sampleCompleted := by
  refine (staysInWindows_iff sampleChrono _ _ sampleChrono_arithmetic freshAnalysis
    (sampleExperimentStatus .succeeded) _ _ _ _ rfl sampleChrono_started rfl sampleChrono_completed
    (by decide) withinYears_sampleStarted).mpr fun _ _ baselineSecs parsed => ?_
  have fiveMinutes : parseDurationStr freshAnalysis.spec.prometheus.baselineWindow = some 300 := by
    decide +kernel
  obtain rfl := Option.some.inj (fiveMinutes.symm.trans parsed)
  exact Or.inr (by decide)

/-- A window of as many seconds as a signed integer holds makes an analysis panic. -/
theorem longWindow_panics : ¬ ∀ (crates : TimeCrate) (earliest latest : Int),
    ChronoArithmetic crates earliest latest → ∀ (analysis : ChaosAnalysis)
    (expStatus : ChaosExperimentStatus) (startedAt completedAt : String)
    (started completed : DateTime), expStatus.startedAt = some startedAt →
    crates.parseFromRfc3339 startedAt = .ok started →
    expStatus.completedAt = some completedAt →
    crates.parseFromRfc3339 completedAt = .ok completed →
    started.instant ≤ completed.instant → WithinYears started → WithinYears completed →
    StaysInWindows crates analysis expStatus started completed := by
  intro claim
  have stays := claim sampleChrono _ _ sampleChrono_arithmetic
    (windowAnalysis "9223372036854775807") (sampleExperimentStatus .succeeded) _ _ _ _ rfl
    sampleChrono_started rfl sampleChrono_completed (by decide) withinYears_sampleStarted
    ⟨by decide, by decide, by decide⟩
  have parsed : parseDurationStr "9223372036854775807" = some 9223372036854775807 := by
    decide +kernel
  have fits := fits_of_stays sampleChrono_arithmetic
    ⟨parsed, ⟨_, rfl, sampleChrono_started⟩, _, rfl, sampleChrono_completed⟩ (by decide) rfl stays
  exact absurd fits (by unfold HalfWindowFits; decide)

end ChimpChaos
