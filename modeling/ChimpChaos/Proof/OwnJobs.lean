/-
This file says when the outcome of a running pod experiment is decided by its own Jobs.

A pass on such an experiment lists the Jobs by the experiment's name and judges the whole
list; the recorded Job names are not looked at. The list may hold Jobs of an earlier
experiment of the same name and may lack recorded ones. `verdict` is the judgement as a
function of the list and of the first reading of the clock, and every whole pass writes it.
The rest compares the verdict with the recorded Jobs alone.
-/

import ChimpChaos.Cluster.Pass
import ChimpChaos.Library.Casts

namespace ChimpChaos

open Library Program

/-! ### Own Jobs -/

def jobFailed (job : Job) : Prop := (job.status.bind JobStatus.failed).getD 0 > 0

def jobSucceeded (job : Job) : Prop := (job.status.bind JobStatus.succeeded).getD 0 > 0

/-- A Job whose name the experiment has recorded. -/
def IsOwnJob (experiment : ChaosExperiment) (job : Job) : Prop :=
  ∃ name ∈ (statusOf experiment).runnerJobs, job.metadata.name = some name

def OwnJobFailed (experiment : ChaosExperiment) (jobs : List Job) : Prop :=
  ∃ job ∈ jobs, IsOwnJob experiment job ∧ jobFailed job

/-- Every recorded name is listed. -/
def OwnJobsListed (experiment : ChaosExperiment) (jobs : List Job) : Prop :=
  ∀ name ∈ (statusOf experiment).runnerJobs, ∃ job ∈ jobs, job.metadata.name = some name

/-- Every recorded name is listed with a success. -/
def OwnJobsSucceeded (experiment : ChaosExperiment) (jobs : List Job) : Prop :=
  ∀ name ∈ (statusOf experiment).runnerJobs,
    ∃ job ∈ jobs, job.metadata.name = some name ∧ jobSucceeded job

/-- Two lists that differ in Jobs of others only. -/
def SameOwnJobs (experiment : ChaosExperiment) (jobs jobs' : List Job) : Prop :=
  ∀ job, IsOwnJob experiment job → (job ∈ jobs ↔ job ∈ jobs')

section Jobs

variable {experiment : ChaosExperiment} {jobs jobs' : List Job}

theorem SameOwnJobs.symm (same : SameOwnJobs experiment jobs jobs') :
    SameOwnJobs experiment jobs' jobs := fun job own => (same job own).symm

theorem SameOwnJobs.failed (same : SameOwnJobs experiment jobs jobs')
    (failed : OwnJobFailed experiment jobs) : OwnJobFailed experiment jobs' := by
  obtain ⟨job, member, own, isFailed⟩ := failed
  exact ⟨job, (same job own).mp member, own, isFailed⟩

theorem anyJobFailed_iff : anyJobFailed jobs = true ↔ ∃ job ∈ jobs, jobFailed job := by
  simp [anyJobFailed, jobFailed]

theorem OwnJobFailed.any (failed : OwnJobFailed experiment jobs) : anyJobFailed jobs = true := by
  obtain ⟨job, member, -, isFailed⟩ := failed
  exact anyJobFailed_iff.mpr ⟨job, member, isFailed⟩

theorem jobSucceeded_of_all (all : allJobsSucceeded jobs = true) {job : Job}
    (member : job ∈ jobs) : jobSucceeded job := by
  simp only [allJobsSucceeded, Bool.and_eq_true, List.all_eq_true, decide_eq_true_eq] at all
  exact all.2 job member

/-- Among Jobs that have all succeeded, the recorded ones have when they are listed. -/
theorem ownJobsSucceeded_iff (all : allJobsSucceeded jobs = true) :
    OwnJobsSucceeded experiment jobs ↔ OwnJobsListed experiment jobs := by
  constructor
  · intro succeeded name recorded
    obtain ⟨job, member, named, -⟩ := succeeded name recorded
    exact ⟨job, member, named⟩
  · intro listed name recorded
    obtain ⟨job, member, named⟩ := listed name recorded
    exact ⟨job, member, named, jobSucceeded_of_all all member⟩

end Jobs

/-! ### The duration -/

section Duration

variable (crates : Crates) (experiment : ChaosExperiment)

/-- When the experiment was started, as far as its status can be parsed. -/
def startOf : Option Int := (statusOf experiment).startedAt.bind crates.parseFromRfc3339

/-- The duration has elapsed at a time. -/
def DurationElapsed (time : Int) : Prop :=
  ∃ start, startOf crates experiment = some start ∧
    start + experiment.spec.duration.toNat * 1000000000 ≤ time

/-- The comparison of `isDurationElapsed`. -/
def durationTest (durationSecs : UInt64) (start time : Int) : Bool :=
  decide (numSeconds (time - start) ≥ durationSecs.toInt64.toInt)

/-- What the code takes for an elapsed duration. -/
def elapsedTest (time : Int) : Bool :=
  ((startOf crates experiment).map fun start =>
    durationTest experiment.spec.duration start time).getD false

/-- Whole seconds are counted right for every duration that fits a signed integer. -/
theorem durationTest_iff {durationSecs : UInt64} (positive : 0 < durationSecs.toNat)
    (fits : durationSecs.toNat < 2 ^ 63) (start time : Int) :
    durationTest durationSecs start time = true ↔
      start + durationSecs.toNat * 1000000000 ≤ time := by
  rw [durationTest, decide_eq_true_eq, toInt64_of_fits fits, numSeconds]
  rcases le_total 0 (time - start) with later | earlier
  · rw [Int.tdiv_eq_ediv_of_nonneg later]
    omega
  · have nonnegative : 0 ≤ (start - time).tdiv 1000000000 :=
      Int.tdiv_nonneg (by omega) (by decide)
    rw [← Int.neg_sub, Int.neg_tdiv]
    omega

theorem durationTest_of_elapsed {durationSecs : UInt64} (fits : durationSecs.toNat < 2 ^ 63)
    {start time : Int} (elapsed : start + durationSecs.toNat * 1000000000 ≤ time) :
    durationTest durationSecs start time = true := by
  rw [durationTest, decide_eq_true_eq, toInt64_of_fits fits, numSeconds,
    Int.tdiv_eq_ediv_of_nonneg (by omega)]
  omega

end Duration

/-! ### What a whole pass writes -/

/-- The phase of the status a pass has written. -/
def writtenPhase (trace : History) : Option Phase :=
  trace.findSome? fun exchange =>
    match exchange.1 with
    | .patchExperimentStatus _ _ status => some status.phase
    | _ => none

/-- The readings of the clock, the oldest first. -/
def readings (trace : History) : List Int :=
  trace.filterMap fun
    | ⟨.now, time⟩ => some time
    | _ => none

/-- A whole pass, whatever it is answered, in which some Jobs are listed and the clock, when it
is first read, shows a given time. -/
structure Judged (deployment : Deployment) (experiment : ChaosExperiment) (jobs : List Job)
    (time : Int) (trace : History) : Prop where
  run : ∃ rest, Reaches (fun _ (_ : Unit) _ _ => True) (deployment.pass experiment) () trace
    rest () ∧ rest.Ended
  listed : ⟨.listJobs (expNamespace experiment) (experimentLabel ++ "=" ++ expName experiment),
    .ok jobs⟩ ∈ trace
  read : ∀ reading, (readings trace).head? = some reading → reading = time

/-- The phase that is written for a list of Jobs at a time. -/
def verdict (crates : Crates) (experiment : ChaosExperiment) (time : Int) (jobs : List Job) :
    Option Phase :=
  if anyJobFailed jobs then some .failed
  else if allJobsSucceeded jobs then some .succeeded
  else if elapsedTest crates experiment time then some .succeeded
  else none

section Pass

variable {deployment : Deployment} {experiment : ChaosExperiment} {jobs : List Job} {time : Int}
  {trace : History}

/-- A whole pass on a running pod experiment lists the Jobs and judges them. -/
theorem pass_runningPod (active : Active experiment)
    (running : (statusOf experiment).phase = .running)
    (pod : experiment.spec.scenario.isEdgeChaos = false) :
    deployment.pass experiment =
      (handleRunningPod deployment.crates (expName experiment) (expNamespace experiment)
        (statusOf experiment) experiment.spec.duration >>= fun _ =>
          .done (.requeue (requeueDuration .running))) := by
  rw [Deployment.pass_running active running, handleRunning, pod]
  rfl

theorem of_complete {State Value : Type}
    {step : (request : ApiCall) → State → Answer request → State → Prop} {crates : Crates}
    {ns name : String} {status : ChaosExperimentStatus} {phase : Phase} {message : String}
    {value : Value} {state final : State} {rest : Handler Value}
    (reaches : Reaches step (complete crates ns name status phase message >>= fun _ => .done value)
      state trace rest final) (ended : rest.Ended) :
    ∃ time answer, trace = [⟨.now, time⟩, ⟨.patchExperimentStatus ns name
      (completedStatus status phase message (crates.toRfc3339 time)), answer⟩] := by
  obtain ⟨time, _, _, rfl, -, reaches⟩ := reaches.of_call ended
  obtain ⟨answer, _, _, rfl, -, reaches⟩ := reaches.of_call ended
  refine ⟨time, answer, ?_⟩
  cases answer <;> rw [(reaches.of_ended trivial).1]

/-- What follows a listing: no other listing, and the verdict is written. -/
structure Judgement (crates : Crates) (experiment : ChaosExperiment) (jobs : List Job)
    (trace : History) : Prop where
  unlisted : ∀ ns selector answer, ⟨.listJobs ns selector, answer⟩ ∉ trace
  written : ∀ time, (∀ reading, (readings trace).head? = some reading → reading = time) →
    writtenPhase trace = verdict crates experiment time jobs

theorem judgement_of_elapsed {State : Type}
    {step : (request : ApiCall) → State → Answer request → State → Prop} {crates : Crates}
    {state final : State} {rest : Handler ReconcileResult} {message : String}
    {result : ReconcileResult} (unfailed : anyJobFailed jobs = false)
    (unfinished : allJobsSucceeded jobs = false)
    (reaches : Reaches step (completeIfElapsed crates (expNamespace experiment)
      (expName experiment) (statusOf experiment) experiment.spec.duration message >>= fun _ =>
        .done result) state trace rest final) (ended : rest.Ended) :
    Judgement crates experiment jobs trace := by
  have idle (untested : ∀ time, elapsedTest crates experiment time = false) (none : trace = []) :
      Judgement crates experiment jobs trace := by
    subst none
    refine ⟨fun _ _ _ => List.not_mem_nil, fun time _ => ?_⟩
    simp [verdict, unfailed, unfinished, untested, writtenPhase]
  unfold completeIfElapsed at reaches
  cases started : (statusOf experiment).startedAt with
  | none =>
    rw [started] at reaches
    exact idle (fun _ => by simp [elapsedTest, startOf, started]) (reaches.of_ended trivial).1
  | some startedAt =>
    simp only [started, isDurationElapsed] at reaches
    cases parsed : crates.parseFromRfc3339 startedAt with
    | none =>
      simp only [parsed] at reaches
      exact idle (fun _ => by simp [elapsedTest, startOf, started, parsed])
        (reaches.of_ended trivial).1
    | some start =>
      have test (time : Int) : elapsedTest crates experiment time =
          durationTest experiment.spec.duration start time := by
        simp [elapsedTest, startOf, started, parsed]
      simp only [parsed] at reaches
      obtain ⟨time, _, later, rfl, -, reaches⟩ := reaches.of_call ended
      have first (time' : Int) (read : ∀ reading,
          (readings (⟨.now, time⟩ :: later)).head? = some reading → reading = time') :
          time = time' := read time rfl
      change Reaches step ((if durationTest experiment.spec.duration start time = true then
        complete crates (expNamespace experiment) (expName experiment) (statusOf experiment)
          .succeeded message else .done ()) >>= fun _ => .done result) _ _ _ _ at reaches
      cases tested : durationTest experiment.spec.duration start time with
      | false =>
        rw [tested, if_neg Bool.false_ne_true] at reaches
        obtain rfl := (reaches.of_ended trivial).1
        refine ⟨by simp, fun time' read => ?_⟩
        rw [← first time' read]
        simp [verdict, unfailed, unfinished, test, tested, writtenPhase]
      | true =>
        rw [tested, if_pos rfl] at reaches
        obtain ⟨completedAt, answer, rfl⟩ := of_complete reaches ended
        refine ⟨by simp, fun time' read => ?_⟩
        rw [← first time' read]
        simp [verdict, unfailed, unfinished, test, tested, writtenPhase, completedStatus]

/-- What follows a listing judges it. -/
theorem judgement_of_listed {State : Type}
    {step : (request : ApiCall) → State → Answer request → State → Prop} {crates : Crates}
    {state final : State} {rest : Handler ReconcileResult} {result : ReconcileResult}
    (reaches : Reaches step ((if anyJobFailed jobs = true then
        complete crates (expNamespace experiment) (expName experiment) (statusOf experiment)
          .failed "One or more runner jobs failed"
      else if allJobsSucceeded jobs = true then
        complete crates (expNamespace experiment) (expName experiment) (statusOf experiment)
          .succeeded "All runner jobs completed"
      else completeIfElapsed crates (expNamespace experiment) (expName experiment)
        (statusOf experiment) experiment.spec.duration "Duration elapsed") >>= fun _ =>
        .done result) state trace rest final) (ended : rest.Ended) :
    Judgement crates experiment jobs trace := by
  cases failed : anyJobFailed jobs with
  | true =>
    rw [failed, if_pos rfl] at reaches
    obtain ⟨completedAt, answer, rfl⟩ := of_complete reaches ended
    exact ⟨by simp, fun _ _ => by simp [verdict, failed, writtenPhase, completedStatus]⟩
  | false =>
    rw [failed, if_neg Bool.false_ne_true] at reaches
    cases finished : allJobsSucceeded jobs with
    | true =>
      rw [finished, if_pos rfl] at reaches
      obtain ⟨completedAt, answer, rfl⟩ := of_complete reaches ended
      exact ⟨by simp, fun _ _ => by simp [verdict, failed, finished, writtenPhase, completedStatus]⟩
    | false =>
      rw [finished, if_neg Bool.false_ne_true] at reaches
      exact judgement_of_elapsed failed finished reaches ended

/-- What a whole pass writes is the verdict. -/
theorem Judged.writtenPhase_eq (judged : Judged deployment experiment jobs time trace)
    (active : Active experiment) (running : (statusOf experiment).phase = .running)
    (pod : experiment.spec.scenario.isEdgeChaos = false) :
    writtenPhase trace = verdict deployment.crates experiment time jobs := by
  obtain ⟨⟨rest, reaches, ended⟩, listed, read⟩ := judged
  rw [pass_runningPod active running pod] at reaches
  obtain ⟨answer, _, later, rfl, -, reaches⟩ := reaches.of_call ended
  cases answer with
  | error error =>
    obtain rfl := (reaches.of_ended trivial).1
    cases List.mem_singleton.mp listed
  | ok jobs' =>
    have judgement := judgement_of_listed reaches ended
    rcases List.mem_cons.mp listed with same | member
    · cases same
      exact judgement.written time read
    · exact absurd member (judgement.unlisted _ _ _)

/-- The answers that list some Jobs and read some time. -/
def listingAnswer (jobs : List Job) (time : Int) : (request : ApiCall) → Answer request
  | .listJobs _ _ => .ok jobs
  | .now => time
  | request => reply sampleSurroundings (sampleCluster []) request

/-- Every list of Jobs is judged at every time by some whole pass. -/
theorem exists_judged (active : Active experiment)
    (running : (statusOf experiment).phase = .running)
    (pod : experiment.spec.scenario.isEdgeChaos = false) (jobs : List Job) (time : Int) :
    ∃ trace, Judged deployment experiment jobs time trace := by
  let serveListing (request : ApiCall) (state : Unit) : Answer request × Unit :=
    (listingAnswer jobs time request, state)
  refine ⟨(deployment.pass experiment).transcript serveListing (), ?_, ?_, ?_⟩
  · exact ⟨_, (reaches_exec serveListing _ ()).forget, Outcome.remaining_ended _⟩
  · rw [pass_runningPod active running pod]
    exact List.mem_cons_self
  · intro reading first
    obtain ⟨⟨request, answer⟩, member, isReading⟩ :=
      List.mem_filterMap.mp (List.mem_of_mem_head? first)
    obtain ⟨_, told⟩ := answer_of_mem_transcript member
    cases request <;> cases isReading
    exact told

end Pass

/-! ### When the own Jobs decide -/

/-- The outcome is decided by the experiment's own Jobs. -/
structure DecidedByOwnJobs (crates : Crates) (experiment : ChaosExperiment) (jobs : List Job)
    (time : Int) (written : Option Phase) : Prop where
  failed : written = some .failed ↔ OwnJobFailed experiment jobs
  succeeded : ¬ DurationElapsed crates experiment time → written = some .succeeded →
    OwnJobsSucceeded experiment jobs

/-- A list of Jobs, judged at a time, says the same as the own Jobs in it: no other Job has
failed unless an own one has; when all Jobs have succeeded before the duration has elapsed, every
recorded Job is among them; and the elapsed time is not overrated, unless every recorded Job has
succeeded anyway. -/
structure SpeaksForOwnJobs (crates : Crates) (experiment : ChaosExperiment) (jobs : List Job)
    (time : Int) : Prop where
  failures : anyJobFailed jobs = true → OwnJobFailed experiment jobs
  complete : anyJobFailed jobs = false → allJobsSucceeded jobs = true →
    DurationElapsed crates experiment time ∨ OwnJobsListed experiment jobs
  timely : anyJobFailed jobs = false → elapsedTest crates experiment time = true →
    DurationElapsed crates experiment time ∨ OwnJobsSucceeded experiment jobs

section Decided

variable {crates : Crates} {experiment : ChaosExperiment} {jobs jobs' : List Job} {time : Int}

theorem verdict_failed_iff :
    verdict crates experiment time jobs = some .failed ↔ anyJobFailed jobs = true := by
  unfold verdict
  split_ifs <;> simp_all

theorem verdict_succeeded_iff :
    verdict crates experiment time jobs = some .succeeded ↔ anyJobFailed jobs = false ∧
      (allJobsSucceeded jobs = true ∨ elapsedTest crates experiment time = true) := by
  unfold verdict
  split_ifs <;> simp_all

theorem decidedByOwnJobs_iff :
    DecidedByOwnJobs crates experiment jobs time (verdict crates experiment time jobs) ↔
      SpeaksForOwnJobs crates experiment jobs time := by
  constructor
  · intro decided
    refine ⟨fun failed => decided.failed.mp (verdict_failed_iff.mpr failed), ?_, ?_⟩
    · intro unfailed all
      rw [← ownJobsSucceeded_iff all]
      exact or_iff_not_imp_left.mpr fun early =>
        decided.succeeded early (verdict_succeeded_iff.mpr ⟨unfailed, Or.inl all⟩)
    · intro unfailed tested
      exact or_iff_not_imp_left.mpr fun early =>
        decided.succeeded early (verdict_succeeded_iff.mpr ⟨unfailed, Or.inr tested⟩)
  · intro speaks
    refine ⟨verdict_failed_iff.trans ⟨speaks.failures, OwnJobFailed.any⟩, fun early written => ?_⟩
    obtain ⟨unfailed, all | tested⟩ := verdict_succeeded_iff.mp written
    · exact (ownJobsSucceeded_iff all).mpr ((speaks.complete unfailed all).resolve_left early)
    · exact (speaks.timely unfailed tested).resolve_left early

/-- Lists with the same own Jobs, for which both speak, are judged alike exactly when a Job has
failed, the duration counts as elapsed, or both or none have wholly succeeded. -/
theorem verdict_eq_iff (same : SameOwnJobs experiment jobs jobs')
    (speaks : SpeaksForOwnJobs crates experiment jobs time)
    (speaks' : SpeaksForOwnJobs crates experiment jobs' time) :
    verdict crates experiment time jobs = verdict crates experiment time jobs' ↔
      anyJobFailed jobs = true ∨ elapsedTest crates experiment time = true ∨
        allJobsSucceeded jobs = allJobsSucceeded jobs' := by
  have failed : anyJobFailed jobs = anyJobFailed jobs' := by
    rw [Bool.eq_iff_iff]
    exact ⟨fun failed => (same.failed (speaks.failures failed)).any,
      fun failed => (same.symm.failed (speaks'.failures failed)).any⟩
  unfold verdict
  rw [← failed]
  cases anyJobFailed jobs <;> cases elapsedTest crates experiment time <;>
    cases allJobsSucceeded jobs <;> cases allJobsSucceeded jobs' <;> simp

end Decided

/-- Two whole passes on a running pod experiment at one time, for lists with the same own Jobs,
are decided by the own Jobs and write the same phase if and only if both lists speak for the own
Jobs and agree on whether all their Jobs have succeeded, as far as that matters. -/
theorem decidedByOwnJobs_judged (deployment : Deployment) (experiment : ChaosExperiment)
    (active : Active experiment) (running : (statusOf experiment).phase = .running)
    (pod : experiment.spec.scenario.isEdgeChaos = false) (jobs jobs' : List Job) (time : Int)
    (trace trace' : History) (same : SameOwnJobs experiment jobs jobs')
    (judged : Judged deployment experiment jobs time trace)
    (judged' : Judged deployment experiment jobs' time trace') :
    (DecidedByOwnJobs deployment.crates experiment jobs time (writtenPhase trace) ∧
        DecidedByOwnJobs deployment.crates experiment jobs' time (writtenPhase trace') ∧
        writtenPhase trace = writtenPhase trace') ↔
      SpeaksForOwnJobs deployment.crates experiment jobs time ∧
        SpeaksForOwnJobs deployment.crates experiment jobs' time ∧
        (anyJobFailed jobs = true ∨ elapsedTest deployment.crates experiment time = true ∨
          allJobsSucceeded jobs = allJobsSucceeded jobs') := by
  rw [judged.writtenPhase_eq active running pod, judged'.writtenPhase_eq active running pod,
    decidedByOwnJobs_iff, decidedByOwnJobs_iff]
  exact and_congr_right fun speaks => and_congr_right fun speaks' =>
    verdict_eq_iff same speaks speaks'

/-! ### A stale Job -/

/-- A pod experiment that runs with one recorded Job. -/
def runningPod : ChaosExperiment :=
  { freshSnapshot sampleKey samplePod with
    status := some {
      phase := .running
      startedAt := some "1970-01-01T00:00:00+00:00"
      experimentId := some sampleUid
      runnerJobs := ["chaos-runner-0b8f5c1e-node-a"] } }

/-- A Job that carries the name of the sample experiment in its label. -/
def labelledJob (name : String) (succeeded failed : Int) : Job where
  metadata := { name := some name, labels := some (jobLabels "demo" .podKiller) }
  spec := none
  status := some { succeeded := some succeeded, failed := some failed }

def ownJob : Job := labelledJob "chaos-runner-0b8f5c1e-node-a" 1 0

/-- A Job of an earlier experiment of the same name. -/
def staleJob (succeeded failed : Int) : Job :=
  labelledJob "chaos-runner-9c1d2e3f-node-a" succeeded failed

theorem not_isOwnJob_staleJob (succeeded failed : Int) :
    ¬ IsOwnJob runningPod (staleJob succeeded failed) := by
  rintro ⟨name, recorded, named⟩
  obtain rfl := List.mem_singleton.mp recorded
  exact absurd (Option.some.inj named) (by decide)

theorem active_runningPod : Active runningPod := ⟨by decide +kernel, rfl⟩

theorem exists_judged_runningPod (jobs : List Job) :
    ∃ trace, Judged sampleDeployment runningPod jobs 0 trace :=
  exists_judged active_runningPod rfl rfl jobs 0

theorem ownJob_listed (others : List Job) : OwnJobsListed runningPod (ownJob :: others) := by
  intro name recorded
  obtain rfl := List.mem_singleton.mp recorded
  exact ⟨ownJob, List.mem_cons_self, rfl⟩

/-- A stale Job that has succeeded changes nothing. -/
theorem decidedByOwnJobs_judged_sample : ∃ trace trace',
    Judged sampleDeployment runningPod [ownJob] 0 trace ∧
      Judged sampleDeployment runningPod [ownJob, staleJob 1 0] 0 trace' ∧
      writtenPhase trace = writtenPhase trace' := by
  obtain ⟨trace, judged⟩ := exists_judged_runningPod [ownJob]
  obtain ⟨trace', judged'⟩ := exists_judged_runningPod [ownJob, staleJob 1 0]
  have same : SameOwnJobs runningPod [ownJob] [ownJob, staleJob 1 0] := by
    intro job own
    simp only [List.mem_cons, List.not_mem_nil, or_false]
    refine ⟨Or.inl, fun member => member.resolve_right ?_⟩
    rintro rfl
    exact not_isOwnJob_staleJob 1 0 own
  have early : elapsedTest sampleCrates runningPod 0 = false := by decide +kernel
  have speaks (others : List Job) (unfailed : anyJobFailed (ownJob :: others) = false) :
      SpeaksForOwnJobs sampleCrates runningPod (ownJob :: others) 0 := {
    failures := fun failed => absurd (failed.symm.trans unfailed) (by decide)
    complete := fun _ _ => Or.inr (ownJob_listed others)
    timely := fun _ tested => absurd (tested.symm.trans early) (by decide) }
  exact ⟨trace, trace', judged, judged',
    ((decidedByOwnJobs_judged sampleDeployment runningPod active_runningPod rfl rfl _ _ 0 trace
      trace' same judged judged').mpr
      ⟨speaks _ (by decide), speaks _ (by decide), Or.inr (Or.inr (by decide))⟩).2.2⟩

/-- A stale Job that has failed turns the outcome: the experiment's only Job has succeeded, and
`Failed` is written. -/
theorem staleJob_decides : ¬ ∀ (deployment : Deployment) (experiment : ChaosExperiment),
    Active experiment → (statusOf experiment).phase = .running →
    experiment.spec.scenario.isEdgeChaos = false →
    ∀ (jobs jobs' : List Job) (time : Int) (trace trace' : History),
      SameOwnJobs experiment jobs jobs' → Judged deployment experiment jobs time trace →
      Judged deployment experiment jobs' time trace' →
      DecidedByOwnJobs deployment.crates experiment jobs time (writtenPhase trace) ∧
        DecidedByOwnJobs deployment.crates experiment jobs' time (writtenPhase trace') ∧
        writtenPhase trace = writtenPhase trace' := by
  intro claim
  obtain ⟨trace, judged⟩ := exists_judged_runningPod [ownJob, staleJob 0 1]
  have decided := (claim sampleDeployment runningPod active_runningPod rfl rfl _ _ 0 trace trace
    (fun _ _ => Iff.rfl) judged judged).1
  have written : writtenPhase trace = some .failed := by
    rw [judged.writtenPhase_eq active_runningPod rfl rfl, verdict_failed_iff]
    decide
  obtain ⟨job, member, own, failed⟩ := decided.failed.mp written
  rcases List.mem_cons.mp member with rfl | member
  · exact absurd failed (by unfold jobFailed; decide)
  · obtain rfl := List.mem_singleton.mp member
    exact not_isOwnJob_staleJob 0 1 own

end ChimpChaos
