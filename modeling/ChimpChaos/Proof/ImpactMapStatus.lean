/-
This file says when the stored status of an impact map is the one its pass has computed.

A status write is a merge patch, and the completed status has no message of its own, so a
message of an earlier phase stays; a value that is not a number is stored as a null, which
cannot be read back; and a number is read back as `reread` has it, which may be another one.
These are the only things that go wrong, in any run.
-/

import ChimpChaos.Cluster.StatusDocument

namespace ChimpChaos

open Library Program Relation

/-! ### What a pass is told -/

/-- The exchanges of an impact map so far. -/
abbrev ImpactMapHistory : Type := List (Exchange ImpactMapCall ImpactMapAnswer)

/-- The metric values that were received, in the order of the history. -/
def vectorsRead (history : ImpactMapHistory) : List (Store ServiceKey F64) :=
  history.filterMap fun exchange =>
    match exchange with
    | ⟨.queryVectorAt _ _, .ok values⟩ => some values
    | _ => none

/-- The metrics of a pass whose six queries have all been answered. -/
def metricsRead (trace : ImpactMapHistory) : Option MetricsSnapshot :=
  match vectorsRead trace with
  | [latency, latency', errorRate, errorRate', throughput, throughput'] =>
    some {
      latency := ⟨latency, latency'⟩
      errorRate := ⟨errorRate, errorRate'⟩
      throughput := ⟨throughput, throughput'⟩ }
  | _ => none

def ImpactMapCall.isPatch : ImpactMapCall → Bool
  | .patchImpactMapStatus .. => true
  | _ => false

abbrev Unreported (history : ImpactMapHistory) : Prop :=
  Controller.Avoids ImpactMapCall.isPatch history

/-! ### What a pass does -/

/-- The status of an impact map that has not completed: a phase and a message. -/
def noteImpact (phase : AnalysisPhase) (message : String) : ChaosImpactMapStatus where
  phase := phase
  message := some message

/-- Services that differ in their classification alone. -/
def SameMetrics (first second : List AffectedService) : Prop :=
  first.map AffectedService.metrics = second.map AffectedService.metrics

/-- The statuses a pass can write. It writes a report when all six queries have been answered,
and a note otherwise. -/
inductive ImpactMapWrites (impactMap : ReportedImpactMap) (history : ImpactMapHistory) :
    ChaosImpactMapStatus → Prop
  | note (phase : AnalysisPhase) (unfinished : phase ≠ .completed) (message : String)
      (short : (vectorsRead history).length < 6) :
      ImpactMapWrites impactMap history (noteImpact phase message)
  | report (metrics : MetricsSnapshot) (read : metricsRead history.reverse = some metrics)
      (classified : List AffectedService)
      (same : SameMetrics classified (computeAffectedServices metrics impactMap.minImpact).2) :
      ImpactMapWrites impactMap history (buildCompletedStatus
        (computeAffectedServices metrics impactMap.minImpact).1 classified)

/-- The calls of a pass on an impact map that has not completed. None comes after a write. -/
structure ImpactMapIssued (impactMap : ReportedImpactMap) (history : ImpactMapHistory)
    (request : ImpactMapCall) : Prop where
  waits : isCompleted impactMap = false
  quiet : Unreported history
  writes : ∀ ns name status, request = .patchImpactMapStatus ns name status →
    ns = impactMapNamespace impactMap.toChaosImpactMap ∧ name = impactMapName impactMap ∧
      ImpactMapWrites impactMap history status

section Follows

variable {impactMap : ReportedImpactMap} {history later : ImpactMapHistory}

theorem vectorsRead_reverse (history : ImpactMapHistory) :
    vectorsRead history.reverse = (vectorsRead history).reverse :=
  List.filterMap_reverse

theorem metricsRead_reverse_congr (same : vectorsRead later = vectorsRead history) :
    metricsRead later.reverse = metricsRead history.reverse := by
  unfold metricsRead
  rw [vectorsRead_reverse, vectorsRead_reverse, same]

theorem issued_read {request : ImpactMapCall} (waits : isCompleted impactMap = false)
    (quiet : Unreported history) (reads : request.isPatch = false) :
    ImpactMapIssued impactMap history request where
  waits := waits
  quiet := quiet
  writes := by
    rintro ns name status rfl
    cases reads

theorem patchImpactMapStatus_follows {status : ChaosImpactMapStatus}
    (waits : isCompleted impactMap = false) (quiet : Unreported history)
    (writes : ImpactMapWrites impactMap history status) :
    (patchImpactMapStatus impactMap status).Follows (ImpactMapIssued impactMap)
      (fun _ _ => True) history := by
  refine ⟨⟨waits, quiet, fun ns name other same => ?_⟩, fun answer => ?_⟩
  · cases same
    exact ⟨rfl, rfl, writes⟩
  · cases answer <;> trivial

/-- What a pair of queries has received. -/
structure PairRead (history later : ImpactMapHistory)
    (result : Except OperatorError (Except OperatorError MetricPair)) : Prop where
  quiet : Unreported later
  pair : ∀ pair, result = .ok (.ok pair) →
    vectorsRead later = pair.during :: pair.baseline :: vectorsRead history
  failed : ∀ error, result = .ok (.error error) →
    (vectorsRead later).length ≤ (vectorsRead history).length + 1

theorem queryMetricPair_follows (waits : isCompleted impactMap = false)
    (quiet : Unreported history) (nsFilter : String) (windows : TimeWindows)
    (buildQuery : String → String → String) :
    (queryMetricPair nsFilter windows buildQuery).Follows (ImpactMapIssued impactMap)
      (PairRead history) history := by
  refine ⟨issued_read waits quiet rfl, fun answer => ?_⟩
  have quiet' := quiet.cons _ answer rfl
  cases answer with
  | error error => exact ⟨quiet', nofun, fun _ _ => Nat.le_succ _⟩
  | ok baseline =>
    refine ⟨issued_read waits quiet' rfl, fun answer => ?_⟩
    have quiet'' := quiet'.cons _ answer rfl
    cases answer with
    | error error => exact ⟨quiet'', nofun, fun _ _ => Nat.le_refl _⟩
    | ok during =>
      refine ⟨quiet'', fun pair same => ?_, nofun⟩
      cases same
      rfl

/-- What the queries of all metrics have received. -/
structure AllRead (later : ImpactMapHistory)
    (result : Except OperatorError (Except String MetricsSnapshot)) : Prop where
  quiet : Unreported later
  metrics : ∀ metrics, result = .ok (.ok metrics) → metricsRead later.reverse = some metrics
  failed : ∀ message, result = .ok (.error message) → (vectorsRead later).length < 6

theorem allRead_of_error {error : OperatorError} {pairs : ImpactMapHistory}
    (read : PairRead pairs later (.error error)) : AllRead later (.error error) :=
  ⟨read.quiet, nofun, nofun⟩

theorem queryAllMetrics_follows (waits : isCompleted impactMap = false)
    (quiet : Unreported history) (unread : vectorsRead history = []) (windows : TimeWindows) :
    (queryAllMetrics impactMap windows).Follows (ImpactMapIssued impactMap) AllRead history := by
  refine (queryMetricPair_follows waits quiet _ windows _).bind ?_ fun _ _ => allRead_of_error
  intro first result read
  have short : (vectorsRead history).length = 0 := by rw [unread]; rfl
  cases result with
  | error error =>
    have bound := read.failed error rfl
    exact ⟨read.quiet, nofun, fun _ _ => by omega⟩
  | ok latency =>
    have known := read.pair latency rfl
    refine (queryMetricPair_follows waits read.quiet _ windows _).bind ?_
      fun _ _ => allRead_of_error
    intro second result read'
    have length : (vectorsRead first).length = 2 := by rw [known, unread]; rfl
    cases result with
    | error error =>
      have bound := read'.failed error rfl
      exact ⟨read'.quiet, nofun, fun _ _ => by omega⟩
    | ok errorRate =>
      have known' := read'.pair errorRate rfl
      refine (queryMetricPair_follows waits read'.quiet _ windows _).bind ?_
        fun _ _ => allRead_of_error
      intro third result read''
      have length' : (vectorsRead second).length = 4 := by rw [known', known, unread]; rfl
      cases result with
      | error error =>
        have bound := read''.failed error rfl
        exact ⟨read''.quiet, nofun, fun _ _ => by omega⟩
      | ok throughput =>
        refine ⟨read''.quiet, fun metrics same => ?_, nofun⟩
        cases same
        unfold metricsRead
        rw [vectorsRead_reverse, read''.pair throughput rfl, known', known, unread]
        rfl

theorem sameMetrics_classifyServices (affected : List AffectedService)
    (spec : ChaosExperimentSpec) (graph : ServiceGraph) (defaultNs : String) :
    SameMetrics (classifyServices affected spec graph defaultNs) affected := by
  unfold classifyServices SameMetrics
  split_ifs
  · cases spec.target.bind Target.edge with
    | none => rfl
    | some edge =>
      rw [List.map_map]
      rfl
  · rfl

theorem classifyAffected_follows (impactMap : ChaosImpactMap) (graphClient : Bool)
    (affected : List AffectedService) :
    (classifyAffected impactMap graphClient affected).Follows (fun _ _ => True)
      (fun _ result => ∃ classified, result = .ok classified ∧ SameMetrics classified affected)
      [] := by
  unfold classifyAffected
  split_ifs
  · refine ⟨trivial, fun answer => ?_⟩
    cases answer with
    | error error => exact ⟨affected, rfl, rfl⟩
    | ok spec =>
      refine ⟨trivial, fun answer => ?_⟩
      cases answer with
      | error error => exact ⟨affected, rfl, rfl⟩
      | ok graph => exact ⟨_, rfl, sameMetrics_classifyServices affected spec graph _⟩
  · exact ⟨affected, rfl, rfl⟩

theorem reportImpact_follows (waits : isCompleted impactMap = false)
    (quiet : Unreported history) (graphClient : Bool) {metrics : MetricsSnapshot}
    (read : metricsRead history.reverse = some metrics) :
    (reportImpact graphClient impactMap metrics).Follows (ImpactMapIssued impactMap)
      (fun _ _ => True) history := by
  let Keeps (later : ImpactMapHistory) : Prop :=
    Unreported later ∧ metricsRead later.reverse = some metrics
  let Classified (later : ImpactMapHistory)
      (result : Except OperatorError (List AffectedService)) : Prop :=
    Keeps later ∧ ∃ classified, result = .ok classified ∧
      SameMetrics classified (computeAffectedServices metrics impactMap.minImpact).2
  have classification : ((classifyAffected impactMap.toChaosImpactMap graphClient
      (computeAffectedServices metrics impactMap.minImpact).2).inject
        ImpactMapCall.classification fun _ answer => answer).Follows (ImpactMapIssued impactMap)
      Classified history := by
    refine (classifyAffected_follows _ graphClient _).inject
      (fun later _ kept => issued_read waits kept.1 rfl)
      (fun later request answer kept => ?_) (fun later result kept done => ⟨kept, done⟩)
      (⟨quiet, read⟩ : Keeps history)
    have same : vectorsRead (⟨.classification request, answer⟩ :: later) = vectorsRead later := rfl
    exact ⟨kept.1.cons _ answer rfl, (metricsRead_reverse_congr same).trans kept.2⟩
  refine classification.bind ?_ fun _ _ _ => trivial
  rintro later classified ⟨⟨quiet', read'⟩, _, same, sameMetrics⟩
  obtain rfl := Except.ok.inj same
  exact patchImpactMapStatus_follows waits quiet' (.report metrics read' classified sameMetrics)

theorem assessImpact_follows (crates : TimeCrate) (graphClient : Bool)
    (waits : isCompleted impactMap = false) (quiet : Unreported history)
    (unread : vectorsRead history = []) (expStatus : ChaosExperimentStatus) :
    (assessImpact crates graphClient impactMap expStatus).Follows (ImpactMapIssued impactMap)
      (fun _ _ => True) history := by
  have short : (vectorsRead history).length < 6 := by rw [unread]; exact Nat.zero_lt_succ 5
  unfold assessImpact
  cases checkExperimentReadiness expStatus with
  | waiting message =>
    exact patchImpactMapStatus_follows waits quiet (.note .pending nofun message short)
  | notFound message =>
    exact patchImpactMapStatus_follows waits quiet (.note .failed nofun message short)
  | ready startedAt completedAt =>
    dsimp only
    cases calculateTimeWindows crates startedAt completedAt impactMap.prometheus.baselineWindow with
    | error error => trivial
    | ok windows =>
      refine (queryAllMetrics_follows waits quiet unread windows).bind ?_ fun _ _ _ => trivial
      intro later result read
      cases result with
      | error message =>
        exact patchImpactMapStatus_follows waits read.quiet
          (.note .failed nofun message (read.failed message rfl))
      | ok metrics =>
        exact reportImpact_follows waits read.quiet graphClient (read.metrics metrics rfl)

theorem reconcileImpactMap_follows (crates : TimeCrate) (graphClient : Bool)
    (impactMap : ReportedImpactMap) :
    (reconcileImpactMap crates graphClient impactMap).Follows (ImpactMapIssued impactMap)
      (fun _ _ => True) [] := by
  unfold reconcileImpactMap
  cases completed : isCompleted impactMap with
  | true => trivial
  | false =>
    have unreported : Unreported [] := Controller.avoids_nil _
    refine ⟨issued_read completed unreported rfl, fun answer => ?_⟩
    have quiet := unreported.cons _ answer rfl
    cases answer with
    | error error =>
      exact patchImpactMapStatus_follows completed quiet
        (.note .failed nofun _ (Nat.zero_lt_succ 5))
    | ok expStatus => exact assessImpact_follows crates graphClient completed quiet rfl expStatus

end Follows

/-! ### What a pass leaves -/

section Pass

variable {crates : TimeCrate} {reread : Rat → Rat} {graphClient : Bool} {key : ObjectKey}
  {spec : ReportedImpactMap} {before after : Json} {trace history : ImpactMapHistory}

/-- A status a pass has written, with what it had found and read. -/
structure Wrote (reread : Rat → Rat) (key : ObjectKey) (spec : ReportedImpactMap) (before : Json)
    (history : ImpactMapHistory) (status : ChaosImpactMapStatus) : Prop where
  source : ∃ impactMap earlier, impactMapSnapshot reread key spec before = some impactMap ∧
    isCompleted impactMap = false ∧ ImpactMapWrites impactMap earlier status ∧
    vectorsRead earlier = vectorsRead history

/-- What a pass has done so far: nothing, or one status write. -/
structure PassEffect (reread : Rat → Rat) (key : ObjectKey) (spec : ReportedImpactMap)
    (before : Json) (history : ImpactMapHistory) (document : Json) : Prop where
  untouched : Unreported history → document = before
  written : ∀ ns name status answer, ⟨.patchImpactMapStatus ns name status, answer⟩ ∈ history →
    (ns, name) = key ∧ Wrote reread key spec before history status ∧
      PatchAnswered key key status.toJson before answer document

theorem passEffect_of_pass
    (pass : (impactMapController crates reread graphClient key spec).Pass before trace after) :
    PassEffect reread key spec before trace.reverse after := by
  refine pass.invariant (fun impactMap _ => reconcileImpactMap_follows crates graphClient impactMap)
    (⟨fun _ => rfl, fun _ _ _ _ member => nomatch member⟩ :
      PassEffect reread key spec before [] before) ?_
  intro impactMap earlier request middle answer next decoded effect issued answered
  obtain rfl := effect.untouched issued.quiet
  have unwritten (ns name : String) (status : ChaosImpactMapStatus)
      (answer' : Except OperatorError Unit) :
      (⟨.patchImpactMapStatus ns name status, answer'⟩ :
        Exchange ImpactMapCall ImpactMapAnswer) ∉ earlier :=
    fun member => nomatch issued.quiet _ member
  cases request with
  | patchImpactMapStatus ns name status =>
    refine ⟨fun quiet => absurd quiet (Controller.Avoids.not_head rfl), ?_⟩
    intro ns' name' status' answer' member
    rcases List.mem_cons.mp member with same | member
    · cases same
      obtain ⟨inside, named, writes⟩ := issued.writes ns name status rfl
      obtain ⟨name_eq, ns_eq, -, -⟩ := impactMapSnapshot_eq_some decoded
      have addressed : (ns, name) = key := by rw [inside, named, name_eq, ns_eq]
      refine ⟨addressed, ⟨impactMap, earlier, decoded, issued.waits, writes, rfl⟩, ?_⟩
      rw [← addressed]
      rw [← addressed] at answered
      exact answered
    · exact absurd member (unwritten ns' name' status' answer')
  | _ =>
    obtain rfl : next = middle := answered
    refine ⟨fun _ => rfl, fun ns' name' status' answer' member => ?_⟩
    rcases List.mem_cons.mp member with same | member
    · cases same
    · exact absurd member (unwritten ns' name' status' answer')

/-- Until it is completed, a stored status has no report. -/
def Fresh (reread : Rat → Rat) (document : Json) : Prop :=
  ∀ stored, ChaosImpactMapStatus.parse reread document = some stored → stored.phase ≠ .completed →
    stored.summary = none ∧ stored.affectedServices = []

/-- The status that a write finds stored. -/
theorem Wrote.stored {status : ChaosImpactMapStatus}
    (wrote : Wrote reread key spec before history status) (fresh : Fresh reread before) :
    ∃ stored, ChaosImpactMapStatus.parse reread before = some stored ∧ stored.phase ≠ .completed ∧
      stored.summary = none ∧ stored.affectedServices = [] := by
  obtain ⟨impactMap, _, decoded, waits, -, -⟩ := wrote.source
  obtain ⟨-, -, -, parsed⟩ := impactMapSnapshot_eq_some decoded
  have unfinished : (impactMap.status.getD default).phase ≠ .completed := by
    unfold isCompleted at waits
    cases known : impactMap.status with
    | none => nofun
    | some status =>
      rw [known] at waits
      exact of_decide_eq_false waits
  exact ⟨_, parsed, unfinished, fresh _ parsed unfinished⟩

theorem summarized_report (totalScanned : UInt32) (affected : List AffectedService) :
    summaryField.writable (buildCompletedStatus totalScanned affected).summary := by
  intro summary present
  obtain rfl := Option.some.inj present
  rfl

/-- The summary of every status a pass writes has a message. -/
theorem ImpactMapWrites.summarized {impactMap : ReportedImpactMap} {history : ImpactMapHistory}
    {status : ChaosImpactMapStatus} (writes : ImpactMapWrites impactMap history status) :
    summaryField.writable status.summary := by
  cases writes with
  | note phase unfinished message short => exact fun _ absent => nomatch absent
  | report metrics read classified same => exact summarized_report _ _

/-- What a reader finds after a status write: what it makes of the written status, and with a
report the message that was there before; nothing when a reported value is not a number. -/
theorem Wrote.parse_patched {status stored : ChaosImpactMapStatus}
    (wrote : Wrote reread key spec before history status)
    (parsed : ChaosImpactMapStatus.parse reread before = some stored)
    (empty : stored.summary = none ∧ stored.affectedServices = []) :
    ChaosImpactMapStatus.parse reread (Json.mergePatch before status.toJson) =
      (status.readBack reread).map fun found =>
        { found with message := found.message.or stored.message } := by
  obtain ⟨_, earlier, -, -, writes, -⟩ := wrote.source
  rw [ChaosImpactMapStatus.parse_mergePatch parsed writes.summarized]
  unfold ChaosImpactMapStatus.readBack
  rw [Option.map_map, Option.map_map]
  refine congrArg (fun merged => Option.map merged _) (funext fun services => ?_)
  show ChaosImpactMapStatus.merge stored { status with affectedServices := services } = _
  rw [ChaosImpactMapStatus.merge, empty.1, empty.2]
  cases writes <;> cases services <;> rfl

theorem fresh_pass (fresh : Fresh reread before)
    (pass : (impactMapController crates reread graphClient key spec).Pass before trace after) :
    Fresh reread after := by
  have effect := passEffect_of_pass pass
  by_cases quiet : Unreported trace.reverse
  · rw [effect.untouched quiet]
    exact fresh
  · obtain ⟨⟨request, answer⟩, member, isPatch⟩ : ∃ exchange ∈ trace.reverse,
        exchange.1.isPatch = true := by
      simpa [Unreported, Controller.Avoids] using quiet
    cases request with
    | patchImpactMapStatus ns name status =>
      obtain ⟨-, wrote, answered⟩ := effect.written ns name status answer member
      rcases answered.after_eq with rfl | rfl
      · exact fresh
      · obtain ⟨stored, parsed, -, empty⟩ := wrote.stored fresh
        intro later parsed' unfinished
        rw [patchedDocument, if_pos rfl, wrote.parse_patched parsed empty] at parsed'
        obtain ⟨found, back, rfl⟩ := Option.map_eq_some_iff.mp parsed'
        obtain ⟨services, values, rfl⟩ := Option.map_eq_some_iff.mp back
        obtain ⟨_, earlier, -, -, writes, -⟩ := wrote.source
        cases writes with
        | note phase _ message short => exact ⟨rfl, (Option.some.inj values).symm⟩
        | report metrics read classified same => exact absurd rfl unfinished
    | _ => cases isPatch

theorem allSurvive_congr {first second : List AffectedService} (same : SameMetrics first second) :
    allSurvive reread first = allSurvive reread second := by
  have folded (services : List AffectedService) : allSurvive reread services =
      (services.map AffectedService.metrics).all (ServiceMetrics.survives reread) := by
    rw [List.all_map]
    rfl
  rw [folded, folded, same]

end Pass

/-! ### Stored as computed -/

abbrev ImpactMapPass : Type := Controller.Made Json ImpactMapCall ImpactMapAnswer

/-- A status write of a pass has succeeded. -/
def HasWritten (key : ObjectKey) (pass : ImpactMapPass) (status : ChaosImpactMapStatus) : Prop :=
  ⟨.patchImpactMapStatus key.1 key.2 status, .ok ()⟩ ∈ pass.trace

/-- What a pass has written with success is what a reader finds after it. -/
def StoredAsComputed (reread : Rat → Rat) (key : ObjectKey) (pass : ImpactMapPass) : Prop :=
  ∀ status, HasWritten key pass status →
    ChaosImpactMapStatus.parse reread pass.after = some status

/-- When a pass whose six queries have been answered writes with success, it has found no
message, and every value of the services it counts as affected is a number that survives being
read back. -/
def ReportsCleanly (reread : Rat → Rat) (key : ObjectKey) (minImpact : UInt32)
    (pass : ImpactMapPass) : Prop :=
  ∀ status metrics, HasWritten key pass status → metricsRead pass.trace = some metrics →
    (∀ stored, ChaosImpactMapStatus.parse reread pass.before = some stored →
      stored.message = none) ∧
      allSurvive reread (computeAffectedServices metrics minImpact).2 = true

theorem length_of_metricsRead {trace : ImpactMapHistory} {metrics : MetricsSnapshot}
    (read : metricsRead trace = some metrics) : (vectorsRead trace).length = 6 := by
  unfold metricsRead at read
  split at read
  · rename_i known
    rw [known]
    rfl
  · cases read

/-- When a reader finds the written status. -/
theorem Wrote.reads_back_iff {reread : Rat → Rat} {key : ObjectKey} {spec : ReportedImpactMap}
    {before : Json} {trace : ImpactMapHistory} {status : ChaosImpactMapStatus}
    (wrote : Wrote reread key spec before trace.reverse status) (message : Option String) :
    ((status.readBack reread).map fun found =>
        { found with message := found.message.or message }) = some status ↔
      ∀ metrics, metricsRead trace = some metrics → message = none ∧
        allSurvive reread (computeAffectedServices metrics spec.minImpact).2 = true := by
  obtain ⟨impactMap, earlier, decoded, -, writes, vectors⟩ := wrote.source
  have told : metricsRead trace = metricsRead earlier.reverse := by
    rw [metricsRead_reverse_congr vectors, List.reverse_reverse]
  cases writes with
  | note phase unfinished text short =>
    refine iff_of_true rfl fun metrics read => ?_
    have length := length_of_metricsRead read
    have same : (vectorsRead earlier).length = (vectorsRead trace).length := by
      rw [vectors, vectorsRead_reverse, List.length_reverse]
    omega
  | report metrics read classified same =>
    obtain ⟨-, -, threshold, -⟩ := impactMapSnapshot_eq_some decoded
    rw [told, read, ← threshold]
    constructor
    · intro found metrics' sameMetrics
      obtain rfl := Option.some.inj sameMetrics
      obtain ⟨_, back, merged⟩ := Option.map_eq_some_iff.mp found
      obtain ⟨services, values, rfl⟩ := Option.map_eq_some_iff.mp back
      obtain rfl : services = classified := congrArg ChaosImpactMapStatus.affectedServices merged
      rw [← allSurvive_congr same]
      exact ⟨congrArg ChaosImpactMapStatus.message merged,
        (readBackServices_eq_self_iff reread services).mp values⟩
    · intro cleanly
      obtain ⟨absent, survive⟩ := cleanly metrics rfl
      rw [← allSurvive_congr same] at survive
      have back := (readBackServices_eq_self_iff reread classified).mpr survive
      have whole : (buildCompletedStatus (computeAffectedServices metrics
          impactMap.minImpact).1 classified).readBack reread = some (buildCompletedStatus
            (computeAffectedServices metrics impactMap.minImpact).1 classified) :=
        congrArg (Option.map _) back
      rw [whole, absent]
      rfl

theorem storedAsComputed_iff_reportsCleanly {crates : TimeCrate} {reread : Rat → Rat}
    {graphClient : Bool} {key : ObjectKey} {spec : ReportedImpactMap} {pass : ImpactMapPass}
    (fresh : Fresh reread pass.before)
    (made : (impactMapController crates reread graphClient key spec).Pass pass.before pass.trace
      pass.after) :
    StoredAsComputed reread key pass ↔ ReportsCleanly reread key spec.minImpact pass := by
  have effect := passEffect_of_pass made
  have write (status : ChaosImpactMapStatus) (written : HasWritten key pass status) :
      ∃ stored, ChaosImpactMapStatus.parse reread pass.before = some stored ∧
        Wrote reread key spec pass.before pass.trace.reverse status ∧
        ChaosImpactMapStatus.parse reread pass.after = (status.readBack reread).map fun found =>
          { found with message := found.message.or stored.message } := by
    obtain ⟨-, wrote, answered⟩ :=
      effect.written key.1 key.2 status (.ok ()) (List.mem_reverse.mpr written)
    obtain ⟨stored, parsed, -, empty⟩ := wrote.stored fresh
    refine ⟨stored, parsed, wrote, ?_⟩
    rcases answered with ⟨-, same⟩ | ⟨error, refused, -⟩
    · rw [same, patchedDocument, if_pos rfl]
      exact wrote.parse_patched parsed empty
    · cases refused
  constructor
  · intro stored status metrics written read
    obtain ⟨found, parsed, wrote, after⟩ := write status written
    rw [stored status written] at after
    obtain ⟨absent, survive⟩ := (wrote.reads_back_iff found.message).mp after.symm metrics read
    refine ⟨fun other parsed' => ?_, survive⟩
    obtain rfl := Option.some.inj (parsed.symm.trans parsed')
    exact absent
  · intro cleanly status written
    obtain ⟨found, parsed, wrote, after⟩ := write status written
    rw [after]
    refine (wrote.reads_back_iff found.message).mpr fun metrics read => ?_
    obtain ⟨unsaid, survive⟩ := cleanly status metrics written read
    exact ⟨unsaid found parsed, survive⟩

/-- In every run of an impact map, every status that a pass has written with success is stored as
it was computed if and only if every pass that reports reports cleanly. -/
theorem impactMap_storedAsComputed_iff (crates : TimeCrate) (reread : Rat → Rat)
    (graphClient : Bool) (key : ObjectKey) (spec : ReportedImpactMap) (made : List ImpactMapPass)
    (final : Json)
    (run : (impactMapController crates reread graphClient key spec).Run .null made final) :
    (∀ pass ∈ made, StoredAsComputed reread key pass) ↔
      ∀ pass ∈ made, ReportsCleanly reread key spec.minImpact pass := by
  have start : Fresh reread .null := by
    intro stored parsed _
    obtain rfl := Option.some.inj ((ChaosImpactMapStatus.parse_null reread).symm.trans parsed)
    exact ⟨rfl, rfl⟩
  obtain ⟨-, passes⟩ := run.invariant (fun _ _ _ fresh pass => fresh_pass fresh pass) start
  refine forall₂_congr fun pass member => ?_
  obtain ⟨fresh, isPass⟩ := passes pass member
  exact storedAsComputed_iff_reportsCleanly fresh isPass

/-! ### A message that stays -/

/-- Calls answered for an experiment that is in some phase. Every metric of one workload triples
during the experiment, and there is no access to the experiment's spec. -/
def sampleImpactServer (phase : Phase) (request : ImpactMapCall) (document : Json) :
    ImpactMapAnswer request × Json :=
  match request with
  | .getExperimentStatus .. => (.ok (sampleExperimentStatus phase), document)
  | .queryVectorAt _ time =>
    (.ok (AList.singleton ⟨"ledger", "shop"⟩
      (.finite (if time = "2026-01-01T10:00:00+00:00" then 1 else 3))), document)
  | .classification (.getExperimentSpec ..) => (.error (.kube (.api 403 "forbidden")), document)
  | .classification (.queryServiceGraph _) => (.error (.prometheus "no data"), document)
  | .patchImpactMapStatus ns name status =>
    (.ok (), patchedDocument sampleKey (ns, name) document status.toJson)

theorem sampleImpactServer_serves (phase : Phase) (request : ImpactMapCall) (document : Json) :
    ImpactMapAnswers sampleKey request document (sampleImpactServer phase request document).1
      (sampleImpactServer phase request document).2 := by
  rcases request with _ | _ | (_ | _) | _
  · rfl
  · rfl
  · rfl
  · rfl
  · exact Or.inl ⟨rfl, rfl⟩

def sampleImpactController :
    Controller Json ReportedImpactMap ImpactMapCall ImpactMapAnswer OperatorError Unit :=
  impactMapController sampleTimeCrate id true sampleKey sampleImpactMap

/-- A successful status write, with the object it is addressed to. -/
def writtenWith : Exchange ImpactMapCall ImpactMapAnswer →
    Option (ObjectKey × ChaosImpactMapStatus)
  | ⟨.patchImpactMapStatus ns name status, .ok ()⟩ => some ((ns, name), status)
  | _ => none

theorem hasWritten_of_mem {key : ObjectKey} {pass : ImpactMapPass} {status : ChaosImpactMapStatus}
    (member : (key, status) ∈ pass.trace.filterMap writtenWith) : HasWritten key pass status := by
  obtain ⟨⟨request, answer⟩, inTrace, same⟩ := List.mem_filterMap.mp member
  rcases request with _ | _ | _ | ⟨ns, name, other⟩
  case patchImpactMapStatus =>
    rcases answer with error | ⟨⟩
    · cases same
    · obtain ⟨rfl, rfl⟩ := Prod.mk.inj (Option.some.inj same)
      exact inTrace
  all_goals cases same

/-- The document after a pass while the experiment runs. -/
def waitingDocument : Json := sampleImpactController.runPass (sampleImpactServer .running) .null

/-- A pass while the experiment runs and a pass after its end: the second one writes a status
without a message, and the message of the first one stays. -/
theorem staleMessage_survives : ∃ made final, sampleImpactController.Run .null made final ∧
    ∃ pass ∈ made, ¬ StoredAsComputed id sampleKey pass := by
  have second : (sampleImpactController.snapshot waitingDocument).map (fun impactMap =>
      (((sampleImpactController.pass impactMap).transcript (sampleImpactServer .succeeded)
        waitingDocument).filterMap writtenWith).map fun written =>
          (written.1, written.2.message)) = some [(sampleKey, none)] := by decide +kernel
  obtain ⟨impactMap, decoded, wrote⟩ := Option.map_eq_some_iff.mp second
  have first := Controller.pass_runPass (sampleImpactServer_serves .running)
    (rfl : sampleImpactController.snapshot .null = some _)
  have pass := Controller.pass_runPass (sampleImpactServer_serves .succeeded) decoded
  refine ⟨_, _, .pass (.pass .start first) pass, _, List.mem_cons_self, fun stored => ?_⟩
  obtain ⟨⟨key, status⟩, member, same⟩ :=
    List.mem_map.mp (wrote.symm ▸ List.mem_singleton.mpr rfl : (sampleKey, none) ∈ _)
  obtain ⟨rfl, unsaid⟩ := Prod.mk.inj same
  have parsed := stored status (hasWritten_of_mem member)
  have said : (ChaosImpactMapStatus.parse id (sampleImpactController.runPass
      (sampleImpactServer .succeeded) waitingDocument)).map ChaosImpactMapStatus.message =
      some (some "Waiting for experiment to complete (phase: Running)") := by decide +kernel
  rw [show ChaosImpactMapStatus.parse id _ = _ from parsed, Option.map_some, unsaid] at said
  cases said

/-- A single pass after the end of the experiment, on an impact map without a status. -/
theorem impactMap_storedAsComputed_sample :
    ∃ pass final, sampleImpactController.Run .null [pass] final ∧
      metricsRead pass.trace ≠ none ∧ StoredAsComputed id sampleKey pass := by
  have evaluated : (sampleImpactController.snapshot .null).map (fun impactMap =>
      (metricsRead ((sampleImpactController.pass impactMap).transcript
        (sampleImpactServer .succeeded) .null)).map fun metrics =>
          allSurvive id (computeAffectedServices metrics sampleImpactMap.minImpact).2) =
      some (some true) := by decide +kernel
  obtain ⟨impactMap, decoded, read⟩ := Option.map_eq_some_iff.mp evaluated
  obtain ⟨metrics, told, survive⟩ := Option.map_eq_some_iff.mp read
  have isPass := Controller.pass_runPass (sampleImpactServer_serves .succeeded) decoded
  have run := Controller.Run.pass Controller.Run.start isPass
  refine ⟨_, _, run, by rw [told]; nofun, ?_⟩
  refine (impactMap_storedAsComputed_iff sampleTimeCrate id true sampleKey sampleImpactMap _ _
    run).mpr (fun pass member status metrics' written told' => ?_) _ List.mem_cons_self
  obtain rfl := List.mem_singleton.mp member
  obtain rfl := Option.some.inj (told.symm.trans told')
  refine ⟨fun stored parsed => ?_, survive⟩
  obtain rfl := Option.some.inj ((ChaosImpactMapStatus.parse_null id).symm.trans parsed)
  rfl

end ChimpChaos
