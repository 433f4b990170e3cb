/-
This file proves that the report of an impact map does not depend on the order in which Prometheus
lists its series.

Prometheus gives at most one series for each workload, and the report is the same for every order
of them, from the responses of the HTTP client to the status that is written. The service graph
has to name one workload for each service; the last of several is the one that counts.
-/

import ChimpChaos.Cluster.StatusDocument
import ChimpChaos.Operator.PrometheusClient
import ChimpChaos.Proof.AffectedServices
import ChimpChaos.Proof.Classification

namespace ChimpChaos

open Library Program

/-! ### The pass cannot tell orders apart -/

/-- Two graphs lead to the same workloads and resolve services alike. -/
structure SameGraph (first second : ServiceGraph) : Prop where
  leads : ∀ start node, Leads (neighbors first.adjacency) start node ↔
    Leads (neighbors second.adjacency) start node
  resolve : ∀ service ns, resolveWorkloadKey service ns first.serviceToWorkload =
    resolveWorkloadKey service ns second.serviceToWorkload

/-- Answers that differ in the order of what they list only. -/
def SameAnswer : (request : ImpactMapCall) → ImpactMapAnswer request → ImpactMapAnswer request →
    Prop
  | .queryVectorAt .., answer, answer' =>
    SameResult (fun values values' => ∀ svc, values.lookup svc = values'.lookup svc) answer answer'
  | .classification (.queryServiceGraph _), answer, answer' => SameResult SameGraph answer answer'
  | _, answer, answer' => answer = answer'

theorem SameGraph.classifyServices {graph graph' : ServiceGraph} (same : SameGraph graph graph')
    (affected : List AffectedService) (spec : ChaosExperimentSpec) (defaultNs : String) :
    classifyServices affected spec graph defaultNs =
      classifyServices affected spec graph' defaultNs := by
  unfold ChimpChaos.classifyServices
  split_ifs
  · cases spec.target.bind Target.edge with
    | none => rfl
    | some edge =>
      have start : chaosTarget spec edge graph defaultNs = chaosTarget spec edge graph' defaultNs :=
        same.resolve _ _
      refine List.map_congr_left fun service _ => classifyService_congr ?_
      rw [start, mem_reachableFrom, mem_reachableFrom, same.leads]
  · rfl

theorem SameSnapshot.computeAffectedServices {metrics metrics' : MetricsSnapshot}
    (same : SameSnapshot metrics metrics') (minImpact : UInt32) :
    computeAffectedServices metrics minImpact = computeAffectedServices metrics' minImpact := by
  obtain ⟨order, iterated, report⟩ := computeAffectedServices_eq metrics minImpact
  obtain ⟨order', iterated', report'⟩ := computeAffectedServices_eq metrics' minImpact
  rw [report, report']
  exact (computeAffectedServicesIn_eq same iterated iterated').symm

theorem queryMetricPair_alike (nsFilter : String) (windows : TimeWindows)
    (buildQuery : String → String → String) :
    Alike SameAnswer (SameResult SamePair) (queryMetricPair nsFilter windows buildQuery)
      (queryMetricPair nsFilter windows buildQuery) := by
  refine .call _ fun answer answer' same => ?_
  cases same with
  | error error => exact .done (.error error)
  | ok baseline =>
    refine .call _ fun answer answer' same => ?_
    cases same with
    | error error => exact .done (.error error)
    | ok during => exact .done (.ok ⟨baseline, during⟩)

theorem queryAllMetrics_alike (impactMap : ReportedImpactMap) (windows : TimeWindows) :
    Alike SameAnswer (SameResult SameSnapshot) (queryAllMetrics impactMap windows)
      (queryAllMetrics impactMap windows) := by
  refine (queryMetricPair_alike _ windows buildLatencyQuery).bind fun result result' same => ?_
  cases same with
  | error error => exact .done (.error _)
  | ok latency =>
    refine (queryMetricPair_alike _ windows buildErrorRateQuery).bind fun result result' same => ?_
    cases same with
    | error error => exact .done (.error _)
    | ok errorRate =>
      refine (queryMetricPair_alike _ windows buildThroughputQuery).bind
        fun result result' same => ?_
      cases same with
      | error error => exact .done (.error _)
      | ok throughput => exact .done (.ok ⟨latency, errorRate, throughput⟩)

theorem classifyAffected_alike (impactMap : ChaosImpactMap) (graphClient : Bool)
    (affected : List AffectedService) :
    Alike (fun request => SameAnswer (.classification request)) (· = ·)
      (classifyAffected impactMap graphClient affected)
      (classifyAffected impactMap graphClient affected) := by
  unfold classifyAffected
  cases graphClient with
  | false => exact .done rfl
  | true =>
    refine .call _ fun answer answer' same => ?_
    obtain rfl : answer = answer' := same
    cases answer with
    | error error => exact .done rfl
    | ok spec =>
      refine .call _ fun answer answer' same => ?_
      cases same with
      | error error => exact .done rfl
      | ok graph => exact .done (graph.classifyServices affected spec _)

theorem patchImpactMapStatus_alike (impactMap : ReportedImpactMap)
    (status : ChaosImpactMapStatus) :
    Alike SameAnswer (· = ·) (patchImpactMapStatus impactMap status)
      (patchImpactMapStatus impactMap status) := by
  refine .call _ fun answer answer' same => ?_
  obtain rfl : answer = answer' := same
  exact alike_ofExcept answer fun _ _ => rfl

theorem reportImpact_alike (graphClient : Bool) (impactMap : ReportedImpactMap)
    {metrics metrics' : MetricsSnapshot} (same : SameSnapshot metrics metrics') :
    Alike SameAnswer (· = ·) (reportImpact graphClient impactMap metrics)
      (reportImpact graphClient impactMap metrics') := by
  unfold reportImpact
  rw [same.computeAffectedServices]
  have classified := classifyAffected_alike impactMap.toChaosImpactMap graphClient
    (computeAffectedServices metrics' impactMap.minImpact).2
  refine (classified.inject fun _ _ _ close => close).bind fun services services' alike => ?_
  rw [alike]
  exact patchImpactMapStatus_alike impactMap _

theorem assessImpact_alike (crates : TimeCrate) (graphClient : Bool)
    (impactMap : ReportedImpactMap) (expStatus : ChaosExperimentStatus) :
    Alike SameAnswer (· = ·) (assessImpact crates graphClient impactMap expStatus)
      (assessImpact crates graphClient impactMap expStatus) := by
  unfold assessImpact
  cases checkExperimentReadiness expStatus with
  | waiting message => exact patchImpactMapStatus_alike impactMap _
  | notFound message => exact patchImpactMapStatus_alike impactMap _
  | ready startedAt completedAt =>
    refine (alike_ofExcept _ fun _ _ => rfl).bind fun windows windows' same => ?_
    obtain rfl : windows = windows' := same
    refine (queryAllMetrics_alike impactMap windows).bind fun result result' same => ?_
    cases same with
    | error message => exact patchImpactMapStatus_alike impactMap _
    | ok metrics => exact reportImpact_alike graphClient impactMap metrics

/-- A pass on an impact map cannot tell answers apart that differ in the order of what they list. -/
theorem reconcileImpactMap_alike (crates : TimeCrate) (graphClient : Bool)
    (impactMap : ReportedImpactMap) :
    Alike SameAnswer (· = ·) (reconcileImpactMap crates graphClient impactMap)
      (reconcileImpactMap crates graphClient impactMap) := by
  unfold reconcileImpactMap
  split_ifs
  · exact .done rfl
  · refine .call _ fun answer answer' same => ?_
    obtain rfl : answer = answer' := same
    cases answer with
    | error error => exact patchImpactMapStatus_alike impactMap _
    | ok expStatus => exact assessImpact_alike crates graphClient impactMap expStatus

/-! ### The readers of a response -/

section Readers

variable {parseF64 : String → Option F64} {metrics metrics' : List PrometheusMetric}

/-- When no workload is listed twice, the values read are the ones listed. -/
theorem lookup_foldl_insertSample (values : Store ServiceKey F64)
    (distinct : (metrics.filterMap seriesWorkload).Nodup) (svc : ServiceKey) (value : F64) :
    (metrics.foldl (insertSample parseF64) values).lookup svc = some value ↔
      (∃ series ∈ metrics, seriesWorkload series = some svc ∧
        sampleValue parseF64 series = value) ∨
      values.lookup svc = some value ∧ svc ∉ metrics.filterMap seriesWorkload := by
  induction metrics generalizing values with
  | nil => simp
  | cons series rest inductionHypothesis =>
    rw [List.foldl_cons]
    cases workload : seriesWorkload series with
    | none =>
      rw [List.filterMap_cons_none workload] at distinct ⊢
      rw [inductionHypothesis _ distinct, insertSample_of_none workload]
      simp [workload]
    | some named =>
      rw [List.filterMap_cons_some workload, List.nodup_cons] at distinct
      rw [List.filterMap_cons_some workload, inductionHypothesis _ distinct.2,
        insertSample_of_some workload]
      by_cases same : svc = named
      · subst same
        -- The other series are about other workloads.
        have others : ∀ later ∈ rest, seriesWorkload later ≠ some svc := fun later member about =>
          distinct.1 (List.mem_filterMap.mpr ⟨later, member, about⟩)
        simp only [AList.lookup_insert, Option.some.injEq, distinct.1, List.mem_cons,
          not_true_eq_false, and_false, or_false, not_false_eq_true, and_true,
          exists_eq_or_imp, workload, true_and]
        constructor
        · rintro (⟨later, member, about, -⟩ | here)
          · exact absurd about (others later member)
          · exact .inl here
        · rintro (here | ⟨later, member, about, -⟩)
          · exact .inr here
          · exact absurd about (others later member)
      · rw [AList.lookup_insert_ne same]
        simp [workload, same, Ne.symm same]

/-- The values by workload do not depend on the order of the series. -/
theorem lookup_valuesByWorkload_perm (perm : metrics.Perm metrics')
    (distinct : (metrics.filterMap seriesWorkload).Nodup) (svc : ServiceKey) :
    (valuesByWorkload parseF64 metrics).lookup svc =
      (valuesByWorkload parseF64 metrics').lookup svc := by
  have distinct' : (metrics'.filterMap seriesWorkload).Nodup :=
    (perm.filterMap seriesWorkload).nodup_iff.mp distinct
  refine Option.ext fun value => ?_
  rw [valuesByWorkload, valuesByWorkload, lookup_foldl_insertSample _ distinct,
    lookup_foldl_insertSample _ distinct']
  simp [perm.mem_iff]

/-- No service is shown to be served by two workloads of one namespace. -/
def OneWorkload (metrics : List PrometheusMetric) : Prop :=
  ∀ service ns workload workload', ServesNamed metrics service ns workload →
    ServesNamed metrics service ns workload' → workload = workload'

/-- Then every service has one workload from which the search may start. -/
theorem OneWorkload.mayStart_unique (one : OneWorkload metrics) {service ns : String}
    {workload workload' : ServiceKey} (start : MayStart metrics service ns workload)
    (start' : MayStart metrics service ns workload') : workload = workload' := by
  rcases start with shown | ⟨none, rfl⟩
  · rcases start' with shown' | ⟨none, -⟩
    · exact one service ns _ _ shown shown'
    · exact absurd shown (none _)
  · rcases start' with shown' | ⟨-, rfl⟩
    · exact absurd shown' (none _)
    · rfl

theorem sameGraph_perm (perm : metrics.Perm metrics') (one : OneWorkload metrics) :
    SameGraph (buildServiceGraph metrics) (buildServiceGraph metrics') where
  leads start node := by
    rw [leads_buildServiceGraph, leads_buildServiceGraph, seriesLeads_perm perm]
  resolve service ns := one.mayStart_unique mayStart_resolveWorkloadKey
    ((mayStart_perm perm).mpr mayStart_resolveWorkloadKey)

end Readers

/-! ### Responses in another order -/

/-- What Prometheus lists once: the workloads of a query at a time, and otherwise the workload of
a service. -/
def NamedOnce (request : HttpGet) (metrics : List PrometheusMetric) : Prop :=
  match request.query.lookup "time" with
  | some _ => (metrics.filterMap seriesWorkload).Nodup
  | none => OneWorkload metrics

/-- Answers with the same series, in any order. -/
inductive Reordered (request : HttpGet) : HttpAnswer → HttpAnswer → Prop
  | failed (text : String) : Reordered request (.error text) (.error text)
  | listed (status : String) {metrics metrics' : List PrometheusMetric}
      (perm : metrics.Perm metrics') (once : NamedOnce request metrics) :
      Reordered request (.ok { status, result := metrics }) (.ok { status, result := metrics' })

/-- Responses that differ in the order of the series of Prometheus only. -/
def SameResponse {Status : Type} :
    (request : ReportRequest Status) → ReportResponse request → ReportResponse request → Prop
  | .http request, answer, answer' => Reordered request answer answer'
  | .getExperiment .., answer, answer' => answer = answer'
  | .patchStatus .., answer, answer' => answer = answer'

section Clients

variable (client : HttpPrometheusClient) (parseF64 : String → Option F64)

theorem instantQuery_alike (parameters : List (String × String)) :
    Alike Reordered (fun metrics metrics' => metrics.Perm metrics' ∧
        NamedOnce { url := client.baseUrl ++ "/api/v1/query", query := parameters } metrics)
      (client.instantQuery parameters) (client.instantQuery parameters) := by
  refine .call _ fun answer answer' same => ?_
  cases same with
  | failed text => exact .fail _
  | listed status perm once =>
    show Alike Reordered _ (ofExcept (responseSeries _)) (ofExcept (responseSeries _))
    rw [responseSeries_ok, responseSeries_ok]
    split_ifs
    · exact .done ⟨perm, once⟩
    · exact .fail _

theorem queryVectorAt_alike (promql time : String) :
    Alike Reordered (fun values values' => ∀ svc, values.lookup svc = values'.lookup svc)
      (client.queryVectorAt parseF64 promql time) (client.queryVectorAt parseF64 promql time) := by
  refine (instantQuery_alike client _).bind fun metrics metrics' same => .done fun svc => ?_
  exact lookup_valuesByWorkload_perm same.1 same.2 svc

theorem queryServiceGraph_alike (namespaceFilter : List String) :
    Alike Reordered SameGraph (client.queryServiceGraph namespaceFilter)
      (client.queryServiceGraph namespaceFilter) := by
  refine (instantQuery_alike client _).bind fun metrics metrics' same => .done ?_
  exact sameGraph_perm same.1 same.2

theorem overHttp_alike {Status Value : Type} {related : Value → Value → Prop}
    {run : HttpRun Value} (alike : Alike Reordered related run run) :
    Alike SameResponse (SameResult related)
      (overHttp run : ReportRun Status (Except OperatorError Value)) (overHttp run) :=
  (alike.inject fun _ _ _ close => close).attempt

theorem getExperiment_alike {Status Value : Type} (part : ChaosExperiment → Value)
    (ns name : String) :
    Alike SameResponse (· = ·)
      (getExperiment part ns name : ReportRun Status (Except OperatorError Value))
      (getExperiment part ns name) := by
  refine .call _ fun answer answer' same => .done ?_
  obtain rfl : answer = answer' := same
  rfl

theorem impactMapClients_alike (request : ImpactMapCall) :
    Alike SameResponse (SameAnswer request) (impactMapClients client parseF64 request)
      (impactMapClients client parseF64 request) := by
  match request with
  | .getExperimentStatus ns name => exact getExperiment_alike _ ns name
  | .queryVectorAt promql time =>
    exact overHttp_alike (queryVectorAt_alike client parseF64 promql time)
  | .classification (.getExperimentSpec ns name) => exact getExperiment_alike _ ns name
  | .classification (.queryServiceGraph filter) =>
    exact overHttp_alike (queryServiceGraph_alike client filter)
  | .patchImpactMapStatus ns name status => exact .call _ fun _ _ same => .done same

/-- Two clusters whose Prometheus servers list the same series in different orders get the same
impact reports. -/
theorem impactReport_ignores_order {State : Type} (crates : TimeCrate) (graphClient : Bool)
    (impactMap : ReportedImpactMap)
    (serve serve' : (request : ReportRequest ChaosImpactMapStatus) → State →
      ReportResponse request × State)
    (reordered : ∀ request state,
      SameResponse request (serve request state).1 (serve' request state).1 ∧
        (serve request state).2 = (serve' request state).2) (state : State) :
    ((reconcileImpactMap crates graphClient impactMap).interpret
        (impactMapClients client parseF64)).exec serve state =
      ((reconcileImpactMap crates graphClient impactMap).interpret
        (impactMapClients client parseF64)).exec serve' state := by
  have alike := (reconcileImpactMap_alike crates graphClient impactMap).interpret
    (impactMapClients_alike client parseF64)
  obtain ⟨ends, left⟩ := alike.exec reordered state
  exact Prod.ext ends.eq left

end Clients

/-! ### One graph in two orders -/

/-- A series of a service that another workload calls. -/
def calledSeries (value service : String) : PrometheusMetric where
  metric := [("destination_service_name", service), ("destination_workload", service),
    ("destination_workload_namespace", "shop"), ("source_workload", "payment"),
    ("source_workload_namespace", "shop")]
  value := value

/-- Two services, with every metric tripled during the experiment, in some order. -/
def sampleResponse (order : List PrometheusMetric → List PrometheusMetric) (request : HttpGet) :
    HttpAnswer :=
  .ok {
    status := "success"
    result := order (["ledger", "audit"].map (calledSeries
      (if request.query.lookup "time" = some "2026-01-01T10:00:00+00:00" then "1" else "3"))) }

/-- The requests of a pass, with the statuses written. -/
def sampleListings (order : List PrometheusMetric → List PrometheusMetric) :
    (request : ReportRequest ChaosImpactMapStatus) → List ChaosImpactMapStatus →
      ReportResponse request × List ChaosImpactMapStatus
  | .getExperiment .., written =>
    (.ok {
      metadata := {}
      spec := sampleEdge.spec
      status := some (sampleExperimentStatus .succeeded) }, written)
  | .patchStatus _ _ status, written => (.ok (), written ++ [status])
  | .http request, written => (sampleResponse order request, written)

theorem reordered_sampleResponse (request : HttpGet) :
    Reordered request (sampleResponse id request) (sampleResponse List.reverse request) := by
  refine .listed _ (List.reverse_perm _).symm ?_
  unfold NamedOnce
  split
  · split_ifs <;> decide +kernel
  · rintro service ns ⟨workload, home⟩ ⟨workload', home'⟩ ⟨series, member, shows, -⟩
      ⟨series', member', shows', -⟩
    -- In both series the workload has the name of the service.
    have named (series : PrometheusMetric) (shown : String) (place : String) (text : String)
        (member : series ∈ ["ledger", "audit"].map (calledSeries text))
        (shows : Shows series service ns ⟨shown, place⟩) : shown = service ∧ place = ns := by
      obtain ⟨called, -, rfl⟩ := List.mem_map.mp member
      exact ⟨shows.2.2.2.1.symm.trans shows.2.1, shows.2.2.2.2.2⟩
    obtain ⟨rfl, rfl⟩ := named series workload home _ member shows
    obtain ⟨rfl, rfl⟩ := named series' workload' home' _ member' shows'
    rfl

/-- The report of a completed experiment. -/
theorem impactReport_ignores_order_sample :
    let pass := (reconcileImpactMap sampleTimeCrate true sampleImpactMap).interpret
      (impactMapClients (.new "http://prometheus:9090/") fun text =>
        if text = "1" then some (.finite 1) else some (.finite 3))
    pass.exec (sampleListings id) [] = pass.exec (sampleListings List.reverse) [] ∧
      (pass.exec (sampleListings id) []).2.map ChaosImpactMapStatus.phase = [.completed] := by
  refine ⟨impactReport_ignores_order _ _ sampleTimeCrate true sampleImpactMap _ _ ?_ [], ?_⟩
  · rintro (_ | _ | request) written
    · exact ⟨rfl, rfl⟩
    · exact ⟨rfl, rfl⟩
    · exact ⟨reordered_sampleResponse request, rfl⟩
  · decide +kernel

end ChimpChaos
