/-
This file proves what a completed analysis stands for in the running operator.

The experiment controller goes on call by call while passes of the analysis overlap, begin on any
version of it and fail anywhere. When the stored analysis is completed, the experiment has ended,
its stored times are the ones from which the two query times were computed, and what is stored
is computed from the two values that were read there.
-/

import ChimpChaos.Cluster.Reporting
import ChimpChaos.Proof.AnalysisRun
import ChimpChaos.Proof.Readiness

namespace ChimpChaos

open Library Program Relation

/-! ### What can be read of a result -/

/-- A result as a reader finds it: each value is read back, and one that is not a number is
absent. -/
def legibleResult (reread : Rat → Rat) (spec : ChaosAnalysisSpec) (baseline during : F64) :
    ChaosAnalysisStatus :=
  let result := resultStatus spec baseline during
  { result with
    baselineValue := result.baselineValue.bind (F64.readBack reread)
    duringValue := result.duringValue.bind (F64.readBack reread)
    degradationPercent := result.degradationPercent.bind (F64.readBack reread) }

/-- A result replaces whatever analysis is stored. -/
theorem parse_mergePatch_result {reread : Rat → Rat} {document : Json}
    {stored : ChaosAnalysisStatus}
    (parsed : ChaosAnalysisStatus.parse reread document = some stored) (spec : ChaosAnalysisSpec)
    (baseline during : F64) :
    ChaosAnalysisStatus.parse reread
        (Json.mergePatch document (resultStatus spec baseline during).toJson) =
      some (legibleResult reread spec baseline during) :=
  ChaosAnalysisStatus.parse_mergePatch parsed _

/-! ### What a pass does -/

/-- An ended experiment and two values, read at the two times that its own times give. -/
structure Measured (crates : TimeCrate) (key : ObjectKey) (spec : ChaosAnalysisSpec)
    (log : AnalysisHistory) (ended : ChaosExperimentStatus) (baseline during : F64) : Prop where
  experiment : ⟨.getExperimentStatus key.1 key.2, .ok ended⟩ ∈ log
  terminal : ended.phase.isTerminal = true
  values : ∃ baselineSecs started completed baselineTime,
    analysisWindow crates spec ended = .ok (baselineSecs, started, completed) ∧
      crates.minusSeconds started (halfWindow baselineSecs) = some baselineTime ∧
      ⟨.queryAt spec.query (crates.toRfc3339 baselineTime), .ok baseline⟩ ∈ log ∧
      ⟨.queryAt spec.query (crates.toRfc3339 (crates.midpoint started completed)),
        .ok during⟩ ∈ log

theorem Measured.mono {crates : TimeCrate} {key : ObjectKey} {spec : ChaosAnalysisSpec}
    {log later : AnalysisHistory} {ended : ChaosExperimentStatus} {baseline during : F64}
    (measured : Measured crates key spec log ended baseline during) (extended : log ⊆ later) :
    Measured crates key spec later ended baseline during := by
  obtain ⟨secs, started, completed, time, window, taken, first, second⟩ := measured.values
  exact ⟨extended measured.experiment, measured.terminal, secs, started, completed, time, window,
    taken, extended first, extended second⟩

/-- The calls of a pass: it reads, or it writes a note or what it has measured. -/
inductive Examines (crates : TimeCrate) (analysis : ChaosAnalysis) (history : AnalysisHistory) :
    AnalysisCall → Prop
  | experiment : Examines crates analysis history
      (.getExperimentStatus (analysedExperiment analysis).1 (analysedExperiment analysis).2)
  | query (promql time : String) : Examines crates analysis history (.queryAt promql time)
  | note (ns name : String) (phase : AnalysisPhase) (unfinished : phase ≠ .completed)
      (message : String) :
      Examines crates analysis history (.patchAnalysisStatus ns name (noteStatus phase message))
  | result (ns name : String) (ended : ChaosExperimentStatus) (baseline during : F64)
      (measured : Measured crates (analysedExperiment analysis) analysis.spec history ended
        baseline during) :
      Examines crates analysis history
        (.patchAnalysisStatus ns name (resultStatus analysis.spec baseline during))

section Examines

variable {crates : TimeCrate} {analysis : ChaosAnalysis} {history : AnalysisHistory}

theorem patchAnalysisStatus_examines {status : ChaosAnalysisStatus}
    (examines : Examines crates analysis history (.patchAnalysisStatus
      (analysisNamespace analysis) (analysisName analysis) status)) :
    (patchAnalysisStatus (analysisNamespace analysis) (analysisName analysis) status).Follows
      (Examines crates analysis) (fun _ _ => True) history := by
  refine ⟨examines, fun answer => ?_⟩
  cases answer <;> trivial

theorem patchAnalysisFailed_examines (message : String) :
    (patchAnalysisFailed (analysisNamespace analysis) (analysisName analysis) message).Follows
      (Examines crates analysis) (fun _ _ => True) history :=
  patchAnalysisStatus_examines (.note _ _ .failed nofun message)

theorem measure_examines {ended : ChaosExperimentStatus}
    (read : ⟨.getExperimentStatus (analysedExperiment analysis).1 (analysedExperiment analysis).2,
      .ok ended⟩ ∈ history) (terminal : ended.phase.isTerminal = true) :
    (measure crates analysis ended).Follows (Examines crates analysis) (fun _ _ => True)
      history := by
  unfold measure queryTimes
  cases window : analysisWindow crates analysis.spec ended with
  | error error => trivial
  | ok times =>
    obtain ⟨baselineSecs, started, completed⟩ := times
    simp only [ofExcept_ok, done_bind]
    cases taken : crates.minusSeconds started (baselineSecs.toInt64.toInt.tdiv 2) with
    | none => trivial
    | some baselineTime =>
      refine ⟨.query _ _, fun answer => ?_⟩
      cases answer with
      | error error => exact patchAnalysisFailed_examines _
      | ok baseline =>
        refine ⟨.query _ _, fun answer => ?_⟩
        cases answer with
        | error error => exact patchAnalysisFailed_examines _
        | ok during =>
          refine patchAnalysisStatus_examines (.result _ _ ended baseline during
            ⟨List.mem_cons_of_mem _ (List.mem_cons_of_mem _ read), terminal, baselineSecs, started,
              completed, baselineTime, window, taken, ?_, List.mem_cons_self⟩)
          exact List.mem_cons_of_mem _ List.mem_cons_self

theorem reconcileAnalysis_examines (crates : TimeCrate) (analysis : ChaosAnalysis) :
    (reconcileAnalysis crates analysis).Follows (Examines crates analysis) (fun _ _ => True)
      [] := by
  unfold reconcileAnalysis
  dsimp only
  split_ifs with completed
  · trivial
  · refine ⟨.experiment, fun answer => ?_⟩
    cases answer with
    | error error => exact patchAnalysisFailed_examines _
    | ok ended =>
      show (if ended.phase.isTerminal = true then _ else _ : AnalysisHandler Unit).Follows _ _ _
      split_ifs with terminal
      · exact measure_examines List.mem_cons_self terminal
      · exact patchAnalysisStatus_examines (.note _ _ .pending nofun _)

end Examines

/-! ### The passes of an analysis in the running operator -/

/-- A version of an analysis. -/
def analysisVersion (key : ObjectKey) (spec : ChaosAnalysisSpec)
    (status : Option ChaosAnalysisStatus) : ChaosAnalysis where
  metadata := { name := some key.2, ns := some key.1 }
  spec
  status

/-- The experiment of an analysis. -/
def experimentOf (key : ObjectKey) (spec : ChaosAnalysisSpec) : ObjectKey :=
  analysedExperiment (analysisVersion key spec none)

/-- How the calls of an analysis are answered: an experiment is read as it is stored, and a query
is answered with anything. -/
def AnalysisServed (key : ObjectKey) : (request : AnalysisCall) → Cluster → Json →
    AnalysisAnswer request → Json → Prop
  | .getExperimentStatus ns name, cluster, before, answer, after =>
    ReadsExperiment cluster (ns, name) answer ∧ after = before
  | .queryAt .., _, before, _, after => after = before
  | .patchAnalysisStatus ns name status, _, before, answer, after =>
    PatchAnswered key (ns, name) status.toJson before answer after

/-- Any number of passes of an analysis, on any versions of it. -/
def analysing (deployment : Deployment) (service : Service) (crates : TimeCrate)
    (key : ObjectKey) (spec : ChaosAnalysisSpec) :
    Rules (Reporting AnalysisCall AnalysisAnswer) (Option ChaosAnalysisStatus) AnalysisCall
      AnalysisAnswer OperatorError Unit :=
  reporting deployment service (AnalysisServed key) fun status program =>
    program = reconcileAnalysis crates (analysisVersion key spec status)

/-- The status of an experiment that an exchange tells. -/
def statusTold (key : ObjectKey) : Exchange AnalysisCall AnalysisAnswer →
    Option ChaosExperimentStatus
  | ⟨.getExperimentStatus ns name, .ok status⟩ => if (ns, name) = key then some status else none
  | _ => none

/-- The stored analysis can be read, and when it is completed it is what was measured. -/
def Explained (crates : TimeCrate) (reread : Rat → Rat) (key : ObjectKey)
    (spec : ChaosAnalysisSpec) (document : Json) (log : AnalysisHistory) : Prop :=
  ∃ status, ChaosAnalysisStatus.parse reread document = some status ∧
    (status.phase = .completed → ∃ ended baseline during,
      Measured crates (experimentOf key spec) spec log ended baseline during ∧
        status = legibleResult reread spec baseline during)

/-- What is known in every state: of the experiment, of the stored analysis, and of the passes. -/
def analysisContract (deployment : Deployment) (crates : TimeCrate) (reread : Rat → Rat)
    (key : ObjectKey) (spec : ChaosAnalysisSpec) :
    Pool.Contract (Reporting AnalysisCall AnalysisAnswer) (Option ChaosAnalysisStatus) AnalysisCall
      AnalysisAnswer where
  Global state := Believes deployment (experimentOf key spec) (statusTold (experimentOf key spec))
    state.system state.log ∧ Explained crates reread key spec state.document state.log
  Local _ history state := history ⊆ state.log
  allowed status := Examines crates (analysisVersion key spec status)
  Later before after := before.log ⊆ after.log

section Run

variable {deployment : Deployment} {service : Service} {crates : TimeCrate} {reread : Rat → Rat}
  {key : ObjectKey} {spec : ChaosAnalysisSpec} {document : Json} {log : AnalysisHistory}

theorem Explained.mono {later : AnalysisHistory}
    (explained : Explained crates reread key spec document log) (extended : log ⊆ later) :
    Explained crates reread key spec document later := by
  obtain ⟨status, parsed, completed⟩ := explained
  refine ⟨status, parsed, fun done => ?_⟩
  obtain ⟨ended, baseline, during, measured, same⟩ := completed done
  exact ⟨ended, baseline, during, measured.mono extended, same⟩

/-- A status write leaves an analysis that is explained. -/
theorem Explained.patched {status : Option ChaosAnalysisStatus} {history : AnalysisHistory}
    {ns name : String} {written : ChaosAnalysisStatus}
    (explained : Explained crates reread key spec document log)
    (examines : Examines crates (analysisVersion key spec status) history
      (.patchAnalysisStatus ns name written)) (known : history ⊆ log) :
    Explained crates reread key spec (Json.mergePatch document written.toJson) log := by
  obtain ⟨stored, parsed, -⟩ := explained
  cases examines with
  | note _ _ phase unfinished message =>
    exact ⟨_, ChaosAnalysisStatus.parse_mergePatch parsed _, fun done => absurd done unfinished⟩
  | result _ _ ended baseline during measured =>
    exact ⟨_, parse_mergePatch_result parsed spec baseline during, fun _ =>
      ⟨ended, baseline, during, measured.mono known, rfl⟩⟩

theorem Explained.served {status : Option ChaosAnalysisStatus} {history : AnalysisHistory}
    {request : AnalysisCall} {cluster : Cluster} {answer : AnalysisAnswer request} {after : Json}
    (explained : Explained crates reread key spec document log)
    (examines : Examines crates (analysisVersion key spec status) history request)
    (known : history ⊆ log) (served : AnalysisServed key request cluster document answer after) :
    Explained crates reread key spec after log := by
  cases request with
  | getExperimentStatus ns name =>
    obtain ⟨-, rfl⟩ := served
    exact explained
  | queryAt promql time =>
    obtain rfl : after = document := served
    exact explained
  | patchAnalysisStatus ns name written =>
    rcases PatchAnswered.after_eq served with rfl | rfl
    · exact explained
    · unfold patchedDocument
      split_ifs
      · exact explained.patched examines known
      · exact explained

theorem statusTold_stored {cluster : Cluster} {request : AnalysisCall}
    {answer : AnalysisAnswer request} {after : Json} {place : ObjectKey}
    (served : AnalysisServed key request cluster document answer after)
    {status : ChaosExperimentStatus} (told : statusTold place ⟨request, answer⟩ = some status) :
    ∃ object, cluster.experiments.lookup place = some object ∧
      ChaosExperimentStatus.parse object.status = some status := by
  cases request with
  | getExperimentStatus ns name =>
    cases answer with
    | error error => cases told
    | ok read =>
      have known : (if (ns, name) = place then some read else none) = some status := told
      split_ifs at known with same
      obtain rfl := Option.some.inj known
      rw [← same]
      exact served.1 read rfl
  | _ => cases told

theorem analysing_keeps (within : service.Within) :
    Pool.Keeps (analysing deployment service crates key spec)
      (analysisContract deployment crates reread key spec) where
  launch := by
    rintro state status program - rfl
    exact ⟨List.nil_subset _, reconcileAnalysis_examines crates _⟩
  call := by
    rintro status history request state answer after ⟨believes, explained⟩ known examines
      ⟨document, served, rfl⟩
    refine ⟨⟨believes.tell fun _ => statusTold_stored served,
      (explained.served examines known served).mono (List.subset_cons_self _ _)⟩,
      List.cons_subset_cons _ known, List.subset_cons_self _ _⟩
  outside := by
    rintro state after ⟨believes, explained⟩ ⟨system, step, rfl⟩
    exact ⟨⟨believes.operates within step, explained⟩, List.Subset.refl _⟩
  stable := fun _ _ _ _ later known => List.Subset.trans known later

end Run

/-- However passes of the experiments and of the analysis interleave, call by call, whatever they
are answered and on whatever version of the analysis they begin: when the stored analysis is
completed, an ended experiment was read, what is stored is computed from values read at the two
times that its times give, and the experiment, while it is there, still has ended so. -/
theorem completedAnalysis_measured (deployment : Deployment) (crates : TimeCrate)
    (reread : Rat → Rat) (key : ObjectKey) (spec : ChaosAnalysisSpec) (initial : Cluster)
    (object : ExperimentObject)
    (stored : initial.experiments.lookup (experimentOf key spec) = some object)
    (fresh : object.status = .null) (document : Json)
    (waiting : ∃ status, ChaosAnalysisStatus.parse reread document = some status ∧
      status.phase ≠ .completed)
    (pool : Pool (Reporting AnalysisCall AnalysisAnswer) (Option ChaosAnalysisStatus) AnalysisCall
      AnalysisAnswer OperatorError Unit)
    (run : ReflTransGen (Pool.Moves (analysing deployment anyListings crates key spec))
      (idleReport initial document) pool) (status : ChaosAnalysisStatus)
    (parsed : ChaosAnalysisStatus.parse reread pool.state.document = some status)
    (completed : status.phase = .completed) :
    ∃ ended baseline during,
      Measured crates (experimentOf key spec) spec pool.state.log ended baseline during ∧
      status = legibleResult reread spec baseline during ∧
      ∀ object', pool.state.system.cluster.experiments.lookup (experimentOf key spec) =
          some object' →
        ∃ current, ChaosExperimentStatus.parse object'.status = some current ∧
          current.phase = ended.phase ∧ current.startedAt = ended.startedAt ∧
          current.completedAt = ended.completedAt := by
  have start : Pool.Meets (analysisContract deployment crates reread key spec)
      (idleReport initial document) := by
    obtain ⟨status, parsed, unfinished⟩ := waiting
    exact ⟨⟨⟨.pending, tracks_idle (renders_fresh deployment.crates stored fresh),
      fun _ member => absurd member List.not_mem_nil⟩,
      status, parsed, fun done => absurd done unfinished⟩,
      fun _ member => absurd member List.not_mem_nil⟩
  obtain ⟨believes, status', parsed', explained⟩ :=
    (start.run (analysing_keeps anyListings_within) run).global
  obtain rfl := Option.some.inj (parsed.symm.trans parsed')
  obtain ⟨ended, baseline, during, measured, same⟩ := explained completed
  refine ⟨ended, baseline, during, measured, same, fun object' found => ?_⟩
  exact believes.stored measured.experiment (if_pos rfl) measured.terminal found

/-! ### An analysis after its experiment -/

/-- The time library at the times of the small cluster. -/
def sampleEpoch : TimeCrate where
  parseFromRfc3339 text :=
    if text = "1970-01-01T00:00:00+00:00" then .ok ⟨0, 0⟩
    else if text = "1970-01-01T00:00:10+00:00" then .ok ⟨10000000000, 0⟩
    else .error "input contains invalid characters"
  toRfc3339 time :=
    if time.instant < 0 then "1969-12-31T23:57:30+00:00" else "1970-01-01T00:00:05+00:00"
  minusSeconds time seconds := some { time with instant := time.instant - seconds * 1000000000 }
  midpoint first second :=
    { first with instant := first.instant + (second.instant - first.instant).tdiv 2 }

/-- Calls answered from the cluster, with a latency of 100 before the experiment and of 120 in the
middle of it. -/
def sampleReportAnswer (cluster : Cluster) : (request : AnalysisCall) → AnalysisAnswer request
  | .getExperimentStatus ns name =>
    match storedStatus (ns, name) cluster with
    | some status => .ok status
    | none => .error notFoundError
  | .queryAt _ time => .ok (.finite (if time = "1969-12-31T23:57:30+00:00" then 100 else 120))
  | .patchAnalysisStatus .. => .ok ()

def sampleReportDocument (document : Json) : AnalysisCall → Json
  | .patchAnalysisStatus ns name status =>
    patchedDocument sampleKey (ns, name) document status.toJson
  | _ => document

def sampleReportServer (request : AnalysisCall)
    (state : Reporting AnalysisCall AnalysisAnswer) :
    AnalysisAnswer request × Reporting AnalysisCall AnalysisAnswer :=
  let answer := sampleReportAnswer state.system.cluster request
  (answer, { state with
    document := sampleReportDocument state.document request
    log := ⟨request, answer⟩ :: state.log })

theorem sampleReportServer_served (cluster : Cluster) (document : Json) (request : AnalysisCall) :
    AnalysisServed sampleKey request cluster document (sampleReportAnswer cluster request)
      (sampleReportDocument document request) := by
  cases request with
  | getExperimentStatus ns name =>
    refine ⟨fun status read => ?_, rfl⟩
    rw [sampleReportAnswer] at read
    split at read
    · next stored found =>
      obtain rfl := Except.ok.inj read
      exact storedStatus_eq_some.mp found
    · cases read
  | queryAt promql time => rfl
  | patchAnalysisStatus ns name status => exact Or.inl ⟨rfl, rfl⟩

/-- What a pass on an analysis without a status leaves. -/
def sampleReport (cluster : Cluster) : Reporting AnalysisCall AnalysisAnswer :=
  (Program.exec sampleReportServer
    (reconcileAnalysis sampleEpoch (analysisVersion sampleKey sampleAnalysisSpec none))
    ⟨.idle cluster, .null, []⟩).2

/-- A run of the experiments and a pass of the analysis after it. -/
theorem analysing_afterwards {initial cluster : Cluster}
    (before : ReflTransGen (Operates sampleDeployment anyListings) (.idle initial)
      (.idle cluster)) :
    ∃ pool, ReflTransGen (Pool.Moves (analysing sampleDeployment anyListings sampleEpoch
        sampleKey sampleAnalysisSpec)) (idleReport initial .null) pool ∧
      pool.state = sampleReport cluster := by
  have serves (request : AnalysisCall) (state : Reporting AnalysisCall AnalysisAnswer) :
      (analysing sampleDeployment anyListings sampleEpoch sampleKey sampleAnalysisSpec).answers none
        request state (sampleReportServer request state).1 (sampleReportServer request state).2 :=
    ⟨_, sampleReportServer_served state.system.cluster state.document request, rfl⟩
  have reaches := reaches_serving serves
    (reconcileAnalysis sampleEpoch (analysisVersion sampleKey sampleAnalysisSpec none))
    ⟨.idle cluster, .null, []⟩
  have launched : Pool.Moves (analysing sampleDeployment anyListings sampleEpoch sampleKey
      sampleAnalysisSpec) ⟨⟨.idle cluster, .null, []⟩, []⟩ ⟨⟨.idle cluster, .null, []⟩, [⟨none, [],
        reconcileAnalysis sampleEpoch (analysisVersion sampleKey sampleAnalysisSpec none)⟩]⟩ :=
    ⟨_, .launch rfl⟩
  exact ⟨_, ((moves_of_operates before .null []).tail launched).trans
    (Pool.run_thread reaches [] [] []), rfl⟩

/-- A latency that is 20 percent worse while the experiment runs. -/
theorem completedAnalysis_measured_sample :
    ∃ (log : AnalysisHistory) (status : ChaosAnalysisStatus),
      status.phase = .completed ∧ status.impactScore = some 20 ∧ ∃ ended baseline during,
        Measured sampleEpoch sampleKey sampleAnalysisSpec log ended baseline during ∧
        status = legibleResult id sampleAnalysisSpec baseline during := by
  obtain ⟨pool, run, reached⟩ := analysing_afterwards operates_sampleSettled
  have result : (ChaosAnalysisStatus.parse id (sampleReport sampleSettled).document).map
      (fun status => (status.phase, status.impactScore)) = some (.completed, some 20) := by
    decide +kernel
  rw [← reached] at result
  obtain ⟨status, parsed, same⟩ := Option.map_eq_some_iff.mp result
  obtain ⟨completed, score⟩ := Prod.mk.inj same
  have waiting : ∃ status, ChaosAnalysisStatus.parse id .null = some status ∧
      status.phase ≠ .completed := ⟨default, rfl, by decide⟩
  have stored : (sampleCluster [(sampleKey, sampleEdge)]).experiments.lookup
      (experimentOf sampleKey sampleAnalysisSpec) = some sampleEdge := rfl
  obtain ⟨ended, baseline, during, measured, explained, -⟩ := completedAnalysis_measured
    sampleDeployment sampleEpoch id sampleKey sampleAnalysisSpec _ sampleEdge stored rfl .null
    waiting pool run status parsed completed
  exact ⟨_, status, completed, score, ended, baseline, during, measured, explained⟩

end ChimpChaos
