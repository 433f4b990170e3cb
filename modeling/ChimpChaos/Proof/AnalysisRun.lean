/-
This file proves what every run of an analysis keeps: its measured fields are there all
together when it is completed, and none of them before.
-/

import ChimpChaos.Cluster.StatusDocument
import ChimpChaos.Library.Casts

namespace ChimpChaos

open Library Program Relation

/-! ### The shape of a status -/

/-- What a stored status has in its phase: every measured field once it is completed, with a
score of at most 100 that has passed just when it is within the limit, and none before. -/
structure AllOrNothing (maxImpact : UInt32) (status : ChaosAnalysisStatus) : Prop where
  completed : status.phase = .completed → status.baselineValue.isSome = true ∧
    status.duringValue.isSome = true ∧ status.degradationPercent.isSome = true ∧
    status.verdict.isSome = true ∧ ∃ score, status.impactScore = some score ∧ score ≤ 100 ∧
      (status.verdict = some .pass ↔ score ≤ maxImpact)
  unfinished : status.phase ≠ .completed → status.baselineValue = none ∧
    status.duringValue = none ∧ status.degradationPercent = none ∧ status.verdict = none ∧
    status.impactScore = none

/-- The status of an analysis that has not completed: a phase and a message. -/
def noteStatus (phase : AnalysisPhase) (message : String) : ChaosAnalysisStatus where
  phase := phase
  message := some message

theorem degradation_isFinite {baseline during : F64} (finite : baseline.isFinite = true)
    (finite' : during.isFinite = true) (direction : DegradationDirection) :
    (degradation baseline during direction).isFinite = true := by
  obtain ⟨first, rfl⟩ := F64.eq_finite finite
  obtain ⟨second, rfl⟩ := F64.eq_finite finite'
  unfold degradation
  split_ifs with zero same
  · rfl
  · rfl
  · have divisible : first ≠ 0 := fun absent => zero (by rw [absent]; rfl)
    refine F64.isFinite_maximum ?_ rfl
    cases direction <;>
      simp [F64.subtract, F64.negate, F64.add, F64.divide, F64.multiply, F64.isFinite, divisible]

/-! ### What a status write leaves -/

theorem allOrNothing_default (maxImpact : UInt32) : AllOrNothing maxImpact default where
  completed := nofun
  unfinished := fun _ => ⟨rfl, rfl, rfl, rfl, rfl⟩

theorem allOrNothing_note {reread : Rat → Rat} {maxImpact : UInt32} {stored : ChaosAnalysisStatus}
    (shape : AllOrNothing maxImpact stored) (waits : stored.phase ≠ .completed)
    {phase : AnalysisPhase} (unfinished : phase ≠ .completed) (message : String) :
    AllOrNothing maxImpact (stored.merge reread (noteStatus phase message)) where
  completed := fun completed => absurd completed unfinished
  unfinished := fun _ => by
    obtain ⟨baseline, during, percent, verdict, score⟩ := shape.unfinished waits
    exact ⟨baseline, during, percent, verdict, score⟩

theorem allOrNothing_result (reread : Rat → Rat) (spec : ChaosAnalysisSpec)
    (stored : ChaosAnalysisStatus) {baseline during : F64} (finite : baseline.isFinite = true)
    (finite' : during.isFinite = true) :
    AllOrNothing spec.maxImpact (stored.merge reread (resultStatus spec baseline during)) where
  completed := fun _ => by
    have legible {value : F64} (finite : value.isFinite = true) :
        (value.readBack reread).isSome = true := (value.readBack_isSome reread).trans finite
    refine ⟨legible finite, legible finite', legible (degradation_isFinite finite finite' _), rfl,
      _, rfl, min_uint32_le_right _ 100, ?_⟩
    show some (if _ then _ else _ : AnalysisVerdict) = _ ↔ _
    split_ifs with within
    · exact ⟨fun _ => within, fun _ => rfl⟩
    · exact ⟨fun failed => (nomatch failed), fun holds => absurd holds within⟩
  unfinished := fun absent => absurd rfl absent

/-! ### What a pass does -/

/-- The exchanges of an analysis so far, the newest first. -/
abbrev AnalysisHistory : Type := List (Exchange AnalysisCall AnalysisAnswer)

def AnalysisCall.isPatch : AnalysisCall → Bool
  | .patchAnalysisStatus .. => true
  | _ => false

/-- No status has been written yet. -/
abbrev Unpatched (history : AnalysisHistory) : Prop :=
  Controller.Avoids AnalysisCall.isPatch history

/-- A query was answered with a value. -/
def ValueRead (history : AnalysisHistory) (value : F64) : Prop :=
  ∃ promql time, ⟨.queryAt promql time, .ok value⟩ ∈ history

/-- The calls a pass can make. It reads, or it writes a note or a result. -/
inductive AnalysisIssues (analysis : ChaosAnalysis) (history : AnalysisHistory) :
    AnalysisCall → Prop
  | experiment (ns name : String) : AnalysisIssues analysis history (.getExperimentStatus ns name)
  | query (promql time : String) : AnalysisIssues analysis history (.queryAt promql time)
  | note (phase : AnalysisPhase) (unfinished : phase ≠ .completed) (message : String) :
      AnalysisIssues analysis history (.patchAnalysisStatus (analysisNamespace analysis)
        (analysisName analysis) (noteStatus phase message))
  | result (baseline during : F64) (read : ValueRead history baseline)
      (read' : ValueRead history during) :
      AnalysisIssues analysis history (.patchAnalysisStatus (analysisNamespace analysis)
        (analysisName analysis) (resultStatus analysis.spec baseline during))

/-- The calls of a pass on an analysis that has not completed. None comes after a write. -/
structure AnalysisIssued (analysis : ChaosAnalysis) (history : AnalysisHistory)
    (request : AnalysisCall) : Prop where
  waits : (analysis.status.getD default).phase ≠ .completed
  quiet : Unpatched history
  issues : AnalysisIssues analysis history request

section Follows

variable {analysis : ChaosAnalysis} {history : AnalysisHistory}

theorem patchAnalysisStatus_follows {status : ChaosAnalysisStatus}
    (issued : AnalysisIssued analysis history (.patchAnalysisStatus (analysisNamespace analysis)
      (analysisName analysis) status)) :
    (patchAnalysisStatus (analysisNamespace analysis) (analysisName analysis) status).Follows
      (AnalysisIssued analysis) (fun _ _ => True) history := by
  refine ⟨issued, fun answer => ?_⟩
  cases answer <;> trivial

theorem patchAnalysisFailed_follows (waits : (analysis.status.getD default).phase ≠ .completed)
    (quiet : Unpatched history) (message : String) :
    (patchAnalysisFailed (analysisNamespace analysis) (analysisName analysis) message).Follows
      (AnalysisIssued analysis) (fun _ _ => True) history :=
  patchAnalysisStatus_follows ⟨waits, quiet, .note .failed nofun message⟩

theorem measure_follows (crates : TimeCrate) (expStatus : ChaosExperimentStatus)
    (waits : (analysis.status.getD default).phase ≠ .completed)
    (quiet : Unpatched history) :
    (measure crates analysis expStatus).Follows (AnalysisIssued analysis) (fun _ _ => True)
      history := by
  unfold measure queryTimes
  cases analysisWindow crates analysis.spec expStatus with
  | error error => trivial
  | ok window =>
    obtain ⟨baselineSecs, started, completed⟩ := window
    simp only [ofExcept_ok, done_bind]
    cases crates.minusSeconds started (baselineSecs.toInt64.toInt.tdiv 2) with
    | none => trivial
    | some baselineTime =>
      refine ⟨⟨waits, quiet, .query _ _⟩, fun answer => ?_⟩
      have quiet' := quiet.cons _ answer rfl
      cases answer with
      | error error => exact patchAnalysisFailed_follows waits quiet' _
      | ok baseline =>
        refine ⟨⟨waits, quiet', .query _ _⟩, fun answer => ?_⟩
        have quiet'' := quiet'.cons _ answer rfl
        cases answer with
        | error error => exact patchAnalysisFailed_follows waits quiet'' _
        | ok during =>
          exact patchAnalysisStatus_follows ⟨waits, quiet'', .result baseline during
            ⟨_, _, List.mem_cons_of_mem _ List.mem_cons_self⟩ ⟨_, _, List.mem_cons_self⟩⟩

theorem reconcileAnalysis_follows (crates : TimeCrate) (analysis : ChaosAnalysis) :
    (reconcileAnalysis crates analysis).Follows (AnalysisIssued analysis) (fun _ _ => True) [] := by
  unfold reconcileAnalysis
  dsimp only
  split_ifs with completed
  · trivial
  · have unpatched : Unpatched [] := Controller.avoids_nil _
    refine ⟨⟨completed, unpatched, .experiment _ _⟩, fun answer => ?_⟩
    have quiet := unpatched.cons _ answer rfl
    cases answer with
    | error error => exact patchAnalysisFailed_follows completed quiet _
    | ok expStatus =>
      show (if expStatus.phase.isTerminal = true then _ else _ : AnalysisHandler Unit).Follows
        _ _ _
      split_ifs with terminal
      · exact measure_follows crates expStatus completed quiet
      · exact patchAnalysisStatus_follows ⟨completed, quiet, .note .pending nofun _⟩

end Follows

/-! ### What every run keeps -/

section Run

variable {crates : TimeCrate} {reread : Rat → Rat} {key : ObjectKey} {spec : ChaosAnalysisSpec}
  {before after : Json} {trace : AnalysisHistory}

/-- The stored status has the shape its phase demands. -/
def StoresShape (reread : Rat → Rat) (maxImpact : UInt32) (document : Json) : Prop :=
  ∃ status, ChaosAnalysisStatus.parse reread document = some status ∧
    AllOrNothing maxImpact status

/-- Every value that was read is finite. -/
def ReadsFinite (history : AnalysisHistory) : Prop :=
  ∀ value, ValueRead history value → value.isFinite = true

theorem readsFinite_nil : ReadsFinite [] := by
  rintro value ⟨_, _, member⟩
  cases member

theorem readsFinite_cons {history : AnalysisHistory} (finite : ReadsFinite history)
    {exchange : Exchange AnalysisCall AnalysisAnswer}
    (answered : ∀ promql time value, exchange = ⟨.queryAt promql time, .ok value⟩ →
      value.isFinite = true) : ReadsFinite (exchange :: history) := by
  rintro value ⟨promql, time, member⟩
  rcases List.mem_cons.mp member with same | member
  · exact answered promql time value same.symm
  · exact finite value ⟨promql, time, member⟩

/-- What a status write of a pass leaves. -/
theorem storesShape_patch {analysis : ChaosAnalysis} {history : AnalysisHistory}
    {ns name : String} {status stored : ChaosAnalysisStatus}
    (issued : AnalysisIssued analysis history (.patchAnalysisStatus ns name status))
    (finite : ReadsFinite history) (shape : AllOrNothing analysis.spec.maxImpact stored)
    (waits : stored.phase ≠ .completed) :
    AllOrNothing analysis.spec.maxImpact (stored.merge reread status) := by
  obtain ⟨-, -, issues⟩ := issued
  cases issues with
  | note phase unfinished message => exact allOrNothing_note shape waits unfinished message
  | result baseline during read read' =>
    exact allOrNothing_result reread analysis.spec stored (finite baseline read)
      (finite during read')

/-- A pass keeps the shape. -/
theorem storesShape_pass (shape : StoresShape reread spec.maxImpact before)
    (pass : (analysisController crates reread key spec).Pass before trace after) :
    StoresShape reread spec.maxImpact after := by
  let Keeps (history : AnalysisHistory) (document : Json) : Prop :=
    (Unpatched history → document = before) ∧ ReadsFinite history ∧
      StoresShape reread spec.maxImpact document
  suffices kept : Keeps trace.reverse after from kept.2.2
  refine pass.invariant (fun analysis _ => reconcileAnalysis_follows crates analysis)
    (⟨fun _ => rfl, readsFinite_nil, shape⟩ : Keeps [] before) ?_
  rintro analysis earlier request middle answer next decoded ⟨same, finite, shape'⟩ issued answered
  obtain ⟨-, -, rfl, parsed⟩ := analysisSnapshot_eq_some decoded
  cases request with
  | getExperimentStatus ns name =>
    obtain rfl : next = middle := answered
    exact ⟨fun quiet => same quiet.tail,
      readsFinite_cons finite nofun, shape'⟩
  | queryAt promql time =>
    obtain ⟨rfl, known⟩ := answered
    refine ⟨fun quiet => same quiet.tail,
      readsFinite_cons finite ?_, shape'⟩
    rintro _ _ value same
    cases same
    exact known value rfl
  | patchAnalysisStatus ns name status =>
    obtain rfl := same issued.quiet
    refine ⟨fun quiet => absurd quiet (Controller.Avoids.not_head rfl),
      readsFinite_cons finite nofun, ?_⟩
    rcases PatchAnswered.after_eq answered with rfl | rfl
    · exact shape'
    · unfold patchedDocument
      split_ifs with addressed
      · obtain ⟨stored, parsed', shaped⟩ := shape'
        obtain rfl := Option.some.inj (parsed.symm.trans parsed')
        exact ⟨_, ChaosAnalysisStatus.parse_mergePatch parsed status,
          storesShape_patch issued finite shaped issued.waits⟩
      · exact shape'

/-- A pass on a completed analysis does nothing. -/
theorem completed_pass {status : ChaosAnalysisStatus}
    (parsed : ChaosAnalysisStatus.parse reread before = some status)
    (completed : status.phase = .completed)
    (pass : (analysisController crates reread key spec).Pass before trace after) :
    trace = [] ∧ after = before := by
  cases pass with
  | run decoded reaches =>
    obtain ⟨-, -, -, parsed'⟩ := analysisSnapshot_eq_some decoded
    obtain rfl := Option.some.inj (parsed.symm.trans parsed')
    have idle : reconcileAnalysis crates _ = .done () := if_pos completed
    change Reaches _ (reconcileAnalysis crates _) _ _ _ _ at reaches
    rw [idle] at reaches
    obtain ⟨rfl, -, rfl⟩ := reaches.of_ended trivial
    exact ⟨rfl, rfl⟩

end Run

/-- Everything a run of an analysis reaches has its measured fields all together or not at all,
and once the analysis is completed nothing is called and nothing changes. Experiment statuses
and queries may be answered by anything that is a number, and every call may fail. -/
theorem analysis_allOrNothing (crates : TimeCrate) (reread : Rat → Rat) (key : ObjectKey)
    (spec : ChaosAnalysisSpec) (document : Json)
    (run : ReflTransGen ((analysisController crates reread key spec).Moves fun _ _ => True) .null
      document) :
    ∃ status, ChaosAnalysisStatus.parse reread document = some status ∧
      AllOrNothing spec.maxImpact status ∧
      (status.phase = .completed → ∀ later,
        ReflTransGen ((analysisController crates reread key spec).Moves fun _ _ => True) document
          later →
        later = document ∧ ∀ trace after,
          (analysisController crates reread key spec).Pass later trace after → trace = []) := by
  have start : StoresShape reread spec.maxImpact .null :=
    ⟨default, ChaosAnalysisStatus.parse_null reread, allOrNothing_default spec.maxImpact⟩
  obtain ⟨status, parsed, shape⟩ := Controller.run_invariant
    (fun _ _ _ shape pass _ => storesShape_pass shape pass) run start
  refine ⟨status, parsed, shape, fun completed later steps => ?_⟩
  let Same (other : Json) : Prop := other = document
  have same : Same later := by
    refine Controller.run_invariant (fun before trace after same pass _ => ?_) steps rfl
    rw [show before = document from same] at pass
    exact (completed_pass parsed completed pass).2
  rw [show later = document from same]
  exact ⟨rfl, fun trace after pass => (completed_pass parsed completed pass).1⟩

/-! ### An analysis that fails its criterion -/

/-- Calls answered for an experiment that is in some phase, with a latency of 100 before and
of 180 in the middle of it. -/
def sampleAnalysisServer (phase : Phase) (request : AnalysisCall) (document : Json) :
    AnalysisAnswer request × Json :=
  match request with
  | .getExperimentStatus .. => (.ok (sampleExperimentStatus phase), document)
  | .queryAt _ time =>
    (.ok (.finite (if time = "2026-01-01T09:57:30+00:00" then 100 else 180)), document)
  | .patchAnalysisStatus ns name status =>
    (.ok (), patchedDocument sampleKey (ns, name) document status.toJson)

theorem sampleAnalysisServer_serves (phase : Phase) (request : AnalysisCall) (document : Json) :
    AnalysisAnswers sampleKey request document (sampleAnalysisServer phase request document).1
      (sampleAnalysisServer phase request document).2 := by
  cases request with
  | getExperimentStatus ns name => rfl
  | queryAt promql time =>
    refine ⟨rfl, fun value same => ?_⟩
    cases same
    rfl
  | patchAnalysisStatus ns name status => exact Or.inl ⟨rfl, rfl⟩

def sampleAnalysis : Controller Json ChaosAnalysis AnalysisCall AnalysisAnswer OperatorError Unit :=
  analysisController sampleTimeCrate id sampleKey sampleAnalysisSpec

/-- A pass while the experiment runs and a pass after its end: the latency is 80 percent worse,
and 50 would have been within the limit. -/
theorem analysis_allOrNothing_sample :
    let document := sampleAnalysis.runPass (sampleAnalysisServer .succeeded)
      (sampleAnalysis.runPass (sampleAnalysisServer .running) .null)
    (ChaosAnalysisStatus.parse id document).map (fun status =>
      (status.phase, status.impactScore, status.verdict)) =
        some (.completed, some 80, some .fail) ∧
      ∃ status, ChaosAnalysisStatus.parse id document = some status ∧
        AllOrNothing sampleAnalysisSpec.maxImpact status := by
  intro document
  obtain ⟨status, parsed, shape, -⟩ := analysis_allOrNothing sampleTimeCrate id sampleKey
    sampleAnalysisSpec document
    ((Controller.moves_runPass (sampleAnalysisServer_serves .running) fun _ => trivial).trans
      (Controller.moves_runPass (sampleAnalysisServer_serves .succeeded) fun _ => trivial))
  exact ⟨by decide +kernel, status, parsed, shape⟩

end ChimpChaos
