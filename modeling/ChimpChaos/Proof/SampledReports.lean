/-
This file proves where the values of an impact report come from.

A report lists no value that Prometheus has not listed: every value is the sample of its workload
in the response to the query of its metric and its time, or zero where this response does not list
the workload. So no report holds a value that is no number, and a report made from finite samples
is one that the API server admits.
-/

import ChimpChaos.Library.GoodAnswers
import ChimpChaos.Operator.PrometheusClient
import ChimpChaos.Proof.AdmittedStatuses
import ChimpChaos.Proof.SeriesOrder
import Mathlib.Data.List.Dedup

namespace ChimpChaos

open Library Program

/-! ### Measured services -/

/-- What a query at a time lists for a workload. -/
abbrev Listing : Type := (promql time : String) → ServiceKey → F64 → Prop

/-- Both values of a metric are the ones listed, or zero. -/
structure MetricImpact.MeasuredIn (listed : Listing) (windows : TimeWindows)
    (buildQuery : String → String) (svc : ServiceKey) (metric : MetricImpact) : Prop where
  baseline : metric.baseline = .zero ∨
    listed (buildQuery windows.baselineRateWindow) windows.baselineTime svc metric.baseline
  during : metric.during = .zero ∨
    listed (buildQuery windows.chaosRateWindow) windows.chaosTime svc metric.during

def AffectedService.key (service : AffectedService) : ServiceKey where
  workload := service.workload
  ns := service.ns

/-- All values of a service are measured, and some query lists its workload. -/
structure AffectedService.MeasuredIn (listed : Listing) (nsFilter : String) (windows : TimeWindows)
    (service : AffectedService) : Prop where
  occurs : ∃ promql time value, listed promql time service.key value
  latencyP99 : service.metrics.latencyP99.MeasuredIn listed windows (buildLatencyQuery nsFilter)
    service.key
  errorRate : service.metrics.errorRate.MeasuredIn listed windows (buildErrorRateQuery nsFilter)
    service.key
  throughput : service.metrics.throughput.MeasuredIn listed windows
    (buildThroughputQuery nsFilter) service.key

/-- The namespace filter of an impact map. -/
def scopeFilter (impactMap : ReportedImpactMap) : String :=
  (impactMap.scope.map fun scope => buildNamespaceFilter scope.namespaces).getD ""

/-- A status reports nothing, or services that are measured in the windows of an experiment. -/
def ChaosImpactMapStatus.MeasuredIn (crates : TimeCrate) (impactMap : ReportedImpactMap)
    (listed : Listing) (status : ChaosImpactMapStatus) : Prop :=
  status.affectedServices = [] ∨ ∃ startedAt completedAt windows,
    calculateTimeWindows crates startedAt completedAt impactMap.prometheus.baselineWindow =
        .ok windows ∧
      ∀ service ∈ status.affectedServices,
        service.MeasuredIn listed (scopeFilter impactMap) windows

/-! ### The pass -/

/-- Queries are answered with the values that are listed. -/
def ListedAnswer (listed : Listing) : (request : ImpactMapCall) → ImpactMapAnswer request → Prop
  | .queryVectorAt promql time, answer => ∀ values, answer = .ok values →
    ∀ svc value, values.lookup svc = some value → listed promql time svc value
  | .getExperimentStatus .., _ => True
  | .classification _, _ => True
  | .patchImpactMapStatus .., _ => True

/-- Every status that is written is measured. -/
def WritesMeasured (crates : TimeCrate) (impactMap : ReportedImpactMap) (listed : Listing) :
    ImpactMapCall → Prop
  | .patchImpactMapStatus _ _ status => status.MeasuredIn crates impactMap listed
  | _ => True

/-- The values of a metric are listed. -/
structure MetricPair.ListedIn (listed : Listing) (windows : TimeWindows)
    (buildQuery : String → String) (pair : MetricPair) : Prop where
  baseline : ∀ svc value, pair.baseline.lookup svc = some value →
    listed (buildQuery windows.baselineRateWindow) windows.baselineTime svc value
  during : ∀ svc value, pair.during.lookup svc = some value →
    listed (buildQuery windows.chaosRateWindow) windows.chaosTime svc value

structure MetricsSnapshot.ListedIn (listed : Listing) (nsFilter : String) (windows : TimeWindows)
    (metrics : MetricsSnapshot) : Prop where
  latency : metrics.latency.ListedIn listed windows (buildLatencyQuery nsFilter)
  errorRate : metrics.errorRate.ListedIn listed windows (buildErrorRateQuery nsFilter)
  throughput : metrics.throughput.ListedIn listed windows (buildThroughputQuery nsFilter)

section Pass

variable {crates : TimeCrate} {impactMap : ReportedImpactMap} {listed : Listing}
  {permitted : ImpactMapCall → Prop} {nsFilter : String} {windows : TimeWindows}

theorem eq_zero_or_lookup (values : Store ServiceKey F64) (svc : ServiceKey) :
    (values.lookup svc).getD .zero = .zero ∨
      values.lookup svc = some ((values.lookup svc).getD .zero) := by
  cases values.lookup svc with
  | none => exact .inl rfl
  | some value => exact .inr rfl

/-- A metric whose values are looked up in listed values is measured. -/
theorem MetricPair.ListedIn.measured {buildQuery : String → String} {pair : MetricPair}
    (read : pair.ListedIn listed windows buildQuery) (svc : ServiceKey) (impactScore : UInt32) :
    MetricImpact.MeasuredIn listed windows buildQuery svc {
      baseline := (pair.baseline.lookup svc).getD .zero
      during := (pair.during.lookup svc).getD .zero
      impactScore } where
  baseline := (eq_zero_or_lookup pair.baseline svc).imp_right (read.baseline svc _)
  during := (eq_zero_or_lookup pair.during svc).imp_right (read.during svc _)

/-- A workload of a listed metric is listed. -/
theorem MetricPair.ListedIn.occurs {buildQuery : String → String} {pair : MetricPair}
    (read : pair.ListedIn listed windows buildQuery) {svc : ServiceKey}
    (member : svc ∈ pair.baseline.keys ∨ svc ∈ pair.during.keys) :
    ∃ promql time value, listed promql time svc value := by
  rcases member with member | member
  · obtain ⟨value, found⟩ := Option.isSome_iff_exists.mp (AList.lookup_isSome.mpr member)
    exact ⟨_, _, value, read.baseline svc value found⟩
  · obtain ⟨value, found⟩ := Option.isSome_iff_exists.mp (AList.lookup_isSome.mpr member)
    exact ⟨_, _, value, read.during svc value found⟩

theorem MetricsSnapshot.ListedIn.occurs {metrics : MetricsSnapshot}
    (read : metrics.ListedIn listed nsFilter windows) {svc : ServiceKey}
    (member : svc ∈ discoverServices metrics) :
    ∃ promql time value, listed promql time svc value := by
  simp only [discoverServices, List.mem_mergeSort, List.mem_dedup, List.flatMap_cons,
    List.flatMap_nil, List.append_nil, List.mem_append] at member
  rcases member with member | member | member | member | member | member
  · exact read.latency.occurs (.inl member)
  · exact read.latency.occurs (.inr member)
  · exact read.errorRate.occurs (.inl member)
  · exact read.errorRate.occurs (.inr member)
  · exact read.throughput.occurs (.inl member)
  · exact read.throughput.occurs (.inr member)

/-- The affected services of listed metrics are measured. -/
theorem MetricsSnapshot.ListedIn.measured {metrics : MetricsSnapshot}
    (read : metrics.ListedIn listed nsFilter windows) {minImpact : UInt32}
    {service : AffectedService} (member : service ∈ (computeAffectedServices metrics minImpact).2) :
    service.MeasuredIn listed nsFilter windows := by
  obtain ⟨svc, discovered, affected⟩ := List.mem_filterMap.mp (List.mem_mergeSort.mp member)
  unfold affectedService at affected
  dsimp only at affected
  split_ifs at affected
  obtain rfl := Option.some.inj affected
  exact ⟨read.occurs discovered, read.latency.measured svc _, read.errorRate.measured svc _,
    read.throughput.measured svc _⟩

/-- The classification leaves the values of the services. -/
theorem measured_classifyServices {affected : List AffectedService}
    (measured : ∀ service ∈ affected, service.MeasuredIn listed nsFilter windows)
    (spec : ChaosExperimentSpec) (graph : ServiceGraph) (defaultNs : String) :
    ∀ service ∈ classifyServices affected spec graph defaultNs,
      service.MeasuredIn listed nsFilter windows := by
  unfold classifyServices
  split_ifs
  · cases spec.target.bind Target.edge with
    | none => exact measured
    | some edge =>
      intro service member
      obtain ⟨before, listedBefore, rfl⟩ := List.mem_map.mp member
      obtain ⟨occurs, latencyP99, errorRate, throughput⟩ := measured before listedBefore
      exact ⟨occurs, latencyP99, errorRate, throughput⟩
  · exact measured

theorem queryMetricPair_given (free : ∀ promql time, permitted (.queryVectorAt promql time))
    (buildQuery : String → String → String) :
    (queryMetricPair nsFilter windows buildQuery).Given (ListedAnswer listed) permitted
      fun result => ∀ pair, result = .ok pair →
        pair.ListedIn listed windows (buildQuery nsFilter) := by
  refine given_call (free _ _) fun answer baseline => ?_
  cases answer with
  | error error => exact fun _ same => nomatch same
  | ok before =>
    refine given_call (free _ _) fun answer during => ?_
    cases answer with
    | error error => exact fun _ same => nomatch same
    | ok after =>
      rintro pair same
      cases same
      exact ⟨baseline before rfl, during after rfl⟩

theorem queryAllMetrics_given (free : ∀ promql time, permitted (.queryVectorAt promql time)) :
    (queryAllMetrics impactMap windows).Given (ListedAnswer listed) permitted
      fun result => ∀ metrics, result = .ok metrics →
        metrics.ListedIn listed (scopeFilter impactMap) windows := by
  refine (queryMetricPair_given free buildLatencyQuery).bind fun result latency => ?_
  cases result with
  | error error => exact fun _ same => nomatch same
  | ok first =>
    refine (queryMetricPair_given free buildErrorRateQuery).bind fun result errorRate => ?_
    cases result with
    | error error => exact fun _ same => nomatch same
    | ok second =>
      refine (queryMetricPair_given free buildThroughputQuery).bind fun result throughput => ?_
      cases result with
      | error error => exact fun _ same => nomatch same
      | ok third =>
        rintro metrics same
        cases same
        exact ⟨latency first rfl, errorRate second rfl, throughput third rfl⟩

theorem classifyAffected_given {affected : List AffectedService}
    (measured : ∀ service ∈ affected, service.MeasuredIn listed nsFilter windows)
    (graphClient : Bool) :
    (classifyAffected impactMap.toChaosImpactMap graphClient affected).Given (fun _ _ => True)
      (fun _ => True) fun services => ∀ service ∈ services,
        service.MeasuredIn listed nsFilter windows := by
  unfold classifyAffected
  cases graphClient with
  | false => exact measured
  | true =>
    refine given_call trivial fun answer _ => ?_
    cases answer with
    | error error => exact measured
    | ok spec =>
      refine given_call trivial fun answer _ => ?_
      cases answer with
      | error error => exact measured
      | ok graph => exact measured_classifyServices measured spec graph _

theorem patchImpactMapStatus_given {status : ChaosImpactMapStatus}
    (measured : status.MeasuredIn crates impactMap listed) :
    (patchImpactMapStatus impactMap status).Given (ListedAnswer listed)
      (WritesMeasured crates impactMap listed) fun _ => True :=
  given_call measured fun _ _ => given_ofExcept fun _ _ => trivial

theorem assessImpact_given (graphClient : Bool) (expStatus : ChaosExperimentStatus) :
    (assessImpact crates graphClient impactMap expStatus).Given (ListedAnswer listed)
      (WritesMeasured crates impactMap listed) fun _ => True := by
  unfold assessImpact
  cases checkExperimentReadiness expStatus with
  | waiting message => exact patchImpactMapStatus_given (.inl rfl)
  | notFound message => exact patchImpactMapStatus_given (.inl rfl)
  | ready startedAt completedAt =>
    refine (given_ofExcept fun windows timed => timed).bind fun windows timed => ?_
    refine (queryAllMetrics_given fun _ _ => trivial).bind fun result read => ?_
    cases result with
    | error message => exact patchImpactMapStatus_given (.inl rfl)
    | ok metrics =>
      have affected : ∀ service ∈ (computeAffectedServices metrics impactMap.minImpact).2,
          service.MeasuredIn listed (scopeFilter impactMap) windows := fun service member =>
        (read metrics rfl).measured member
      have classified : (classifyAffected impactMap.toChaosImpactMap graphClient _).Given
          (fun _ _ => True) (fun _ => True) _ := classifyAffected_given affected graphClient
      refine (classified.inject (fun _ _ => trivial) fun _ _ _ => trivial).bind
        fun services measured => ?_
      exact patchImpactMapStatus_given (.inr ⟨startedAt, completedAt, windows, timed, measured⟩)

/-- While its queries are answered with what is listed, a pass writes measured statuses only. -/
theorem reconcileImpactMap_given (graphClient : Bool) :
    (reconcileImpactMap crates graphClient impactMap).Given (ListedAnswer listed)
      (WritesMeasured crates impactMap listed) fun _ => True := by
  unfold reconcileImpactMap
  split_ifs
  · trivial
  · refine given_call trivial fun answer _ => ?_
    cases answer with
    | error error => exact patchImpactMapStatus_given (.inl rfl)
    | ok expStatus => exact assessImpact_given graphClient expStatus

end Pass

/-! ### The clients -/

/-- The query of a metric at a time. -/
def HttpPrometheusClient.valueRequest (client : HttpPrometheusClient) (promql time : String) :
    HttpGet where
  url := client.baseUrl ++ "/api/v1/query"
  query := [("query", promql), ("time", time)]

/-- The samples that the responses of some exchanges list. -/
def ListedBy {Status : Type} (client : HttpPrometheusClient) (parseF64 : String → Option F64)
    (trace : List (Exchange (ReportRequest Status) ReportResponse)) : Listing :=
  fun promql time svc value => ∃ response : PrometheusApiResponse,
    ⟨.http (client.valueRequest promql time), .ok response⟩ ∈ trace ∧
      response.status = "success" ∧ ∃ series ∈ response.result,
        seriesWorkload series = some svc ∧ sampleValue parseF64 series = value

section Clients

variable (client : HttpPrometheusClient) (parseF64 : String → Option F64) {listed : Listing}

/-- What a response lists is listed. -/
def ListedResponse (listed : Listing) (request : HttpGet) (answer : HttpAnswer) : Prop :=
  ∀ promql time, request = client.valueRequest promql time → ∀ metrics,
    responseSeries answer = .ok metrics → ∀ series ∈ metrics, ∀ svc,
      seriesWorkload series = some svc → listed promql time svc (sampleValue parseF64 series)

variable {client parseF64} in
/-- A value read by workload is the sample of a series of this workload. -/
theorem exists_series_of_lookup {metrics : List PrometheusMetric} {values : Store ServiceKey F64}
    {svc : ServiceKey} {value : F64}
    (found : (metrics.foldl (insertSample parseF64) values).lookup svc = some value) :
    (∃ series ∈ metrics, seriesWorkload series = some svc ∧
        sampleValue parseF64 series = value) ∨ values.lookup svc = some value := by
  induction metrics generalizing values with
  | nil => exact .inr found
  | cons series rest inductionHypothesis =>
    rcases inductionHypothesis found with ⟨later, member, about⟩ | before
    · exact .inl ⟨later, List.mem_cons_of_mem _ member, about⟩
    · cases workload : seriesWorkload series with
      | none =>
        rw [insertSample_of_none workload] at before
        exact .inr before
      | some named =>
        rw [insertSample_of_some workload] at before
        by_cases same : svc = named
        · subst same
          rw [AList.lookup_insert, Option.some.injEq] at before
          exact .inl ⟨series, List.mem_cons_self, workload, before⟩
        · exact .inr ((AList.lookup_insert_ne same).symm.trans before)

theorem queryVectorAt_given (promql time : String) :
    (client.queryVectorAt parseF64 promql time).Given (ListedResponse client parseF64 listed)
      (fun _ => True) fun values => ∀ svc value, values.lookup svc = some value →
        listed promql time svc value := by
  refine given_call trivial fun answer lists => ?_
  refine (given_ofExcept fun metrics read => read).bind fun metrics read svc value found => ?_
  rcases exists_series_of_lookup found with ⟨series, member, workload, rfl⟩ | nowhere
  · exact lists promql time rfl metrics read series member svc workload
  · cases nowhere

theorem queryServiceGraph_given (filter : List String) :
    (client.queryServiceGraph filter).Given (ListedResponse client parseF64 listed)
      (fun _ => True) fun _ => True :=
  given_call trivial fun _ _ => (given_ofExcept fun _ _ => trivial).bind fun _ _ => trivial

/-- Responses list what is listed. -/
def ListedReport (listed : Listing) :
    (request : ReportRequest ChaosImpactMapStatus) → ReportResponse request → Prop
  | .http request, answer => ListedResponse client parseF64 listed request answer
  | .getExperiment .., _ => True
  | .patchStatus .., _ => True

/-- Every status that is written is measured. -/
def PatchesMeasured (crates : TimeCrate) (impactMap : ReportedImpactMap) (listed : Listing) :
    ReportRequest ChaosImpactMapStatus → Prop
  | .patchStatus _ _ status => status.MeasuredIn crates impactMap listed
  | _ => True

theorem overHttp_given {Value : Type} {run : HttpRun Value} {ends : Value → Prop}
    {permitted : ReportRequest ChaosImpactMapStatus → Prop}
    (given : run.Given (ListedResponse client parseF64 listed) (fun _ => True) ends)
    (free : ∀ request, permitted (.http request)) :
    (overHttp run : ReportRun ChaosImpactMapStatus (Except OperatorError Value)).Given
      (ListedReport client parseF64 listed) permitted
      fun result => ∀ value, result = .ok value → ends value :=
  (given.inject (fun request _ => free request) fun _ _ lists => lists).attempt

theorem impactMapClients_given (crates : TimeCrate) (impactMap : ReportedImpactMap)
    (request : ImpactMapCall) (allowed : WritesMeasured crates impactMap listed request) :
    (impactMapClients client parseF64 request).Given (ListedReport client parseF64 listed)
      (PatchesMeasured crates impactMap listed) (ListedAnswer listed request) := by
  match request with
  | .getExperimentStatus ns name => exact given_call trivial fun _ _ => trivial
  | .queryVectorAt promql time =>
    exact overHttp_given client parseF64 (queryVectorAt_given client parseF64 promql time)
      fun _ => trivial
  | .classification (.getExperimentSpec ns name) => exact given_call trivial fun _ _ => trivial
  | .classification (.queryServiceGraph filter) =>
    exact (overHttp_given client parseF64 (queryServiceGraph_given client parseF64 filter)
      fun _ => trivial).weaken fun _ _ => trivial
  | .patchImpactMapStatus ns name status => exact given_call allowed fun _ _ => trivial

/-- While responses list what is listed, a pass with its clients writes measured statuses only. -/
theorem impactReport_given (crates : TimeCrate) (graphClient : Bool)
    (impactMap : ReportedImpactMap) :
    ((reconcileImpactMap crates graphClient impactMap).interpret
        (impactMapClients client parseF64)).Given (ListedReport client parseF64 listed)
      (PatchesMeasured crates impactMap listed) fun _ => True :=
  (reconcileImpactMap_given graphClient).interpret
    (impactMapClients_given client parseF64 crates impactMap)

variable {client parseF64} in
/-- The responses of a run list what they list. -/
theorem listedReport_of_mem
    {trace : List (Exchange (ReportRequest ChaosImpactMapStatus) ReportResponse)}
    {exchange : Exchange (ReportRequest ChaosImpactMapStatus) ReportResponse}
    (member : exchange ∈ trace) :
    ListedReport client parseF64 (ListedBy client parseF64 trace) exchange.1 exchange.2 := by
  obtain ⟨request, answer⟩ := exchange
  cases request with
  | getExperiment ns name => trivial
  | patchStatus ns name status => trivial
  | http request =>
    rintro promql time rfl metrics read series listed svc workload
    cases answer with
    | error text => cases read
    | ok response =>
      rw [responseSeries_ok] at read
      split_ifs at read with success
      obtain rfl := Except.ok.inj read
      exact ⟨response, member, success, series, listed, workload, rfl⟩

/-- A sample is a number or an infinity. -/
theorem isNan_sampleValue (series : PrometheusMetric) :
    (sampleValue parseF64 series).isNan = false := by
  unfold sampleValue
  dsimp only
  split_ifs with nan
  · rfl
  · simpa using nan

end Clients

/-! ### The values of a report -/

/-- The values that a service is reported with. -/
def ServiceMetrics.values (metrics : ServiceMetrics) : List F64 :=
  [metrics.latencyP99.baseline, metrics.latencyP99.during, metrics.errorRate.baseline,
    metrics.errorRate.during, metrics.throughput.baseline, metrics.throughput.during]

/-- What holds of zero and of all that is listed holds of the values of a measured service. -/
theorem AffectedService.MeasuredIn.forall_values {listed : Listing} {nsFilter : String}
    {windows : TimeWindows} {service : AffectedService}
    (measured : service.MeasuredIn listed nsFilter windows) {holds : F64 → Prop}
    (zero : holds .zero) (each : ∀ promql time svc value, listed promql time svc value →
      holds value) : ∀ value ∈ service.metrics.values, holds value := by
  have metric {buildQuery : String → String} {impact : MetricImpact}
      (read : impact.MeasuredIn listed windows buildQuery service.key) :
      holds impact.baseline ∧ holds impact.during := by
    refine ⟨?_, ?_⟩
    · rcases read.baseline with same | shown
      · exact same ▸ zero
      · exact each _ _ _ _ shown
    · rcases read.during with same | shown
      · exact same ▸ zero
      · exact each _ _ _ _ shown
  simp only [ServiceMetrics.values, List.forall_mem_cons]
  exact ⟨(metric measured.latencyP99).1, (metric measured.latencyP99).2,
    (metric measured.errorRate).1, (metric measured.errorRate).2,
    (metric measured.throughput).1, (metric measured.throughput).2,
    fun _ absent => absurd absent List.not_mem_nil⟩

theorem ServiceMetrics.finite_iff {metrics : ServiceMetrics} :
    metrics.finite = true ↔ ∀ value ∈ metrics.values, value.isFinite = true := by
  simp [finite, MetricImpact.finite, values, and_assoc]

/-- In every run of a pass with its clients, and up to whatever point, the values that are written
are samples listed by the responses of this run or zero, and no value is not a number. When the
samples are finite, the API server admits what is written. -/
theorem impactReport_sampled (client : HttpPrometheusClient) (parseF64 : String → Option F64)
    (crates : TimeCrate) (graphClient : Bool) (impactMap : ReportedImpactMap) {State : Type}
    {step : (request : ReportRequest ChaosImpactMapStatus) → State → ReportResponse request →
      State → Prop} {state final : State}
    {trace : List (Exchange (ReportRequest ChaosImpactMapStatus) ReportResponse)}
    {rest : ReportRun ChaosImpactMapStatus Unit}
    (run : Reaches step ((reconcileImpactMap crates graphClient impactMap).interpret
      (impactMapClients client parseF64)) state trace rest final)
    {ns name : String} {status : ChaosImpactMapStatus} {answer : Except OperatorError Unit}
    (written : ⟨.patchStatus ns name status, answer⟩ ∈ trace) :
    status.MeasuredIn crates impactMap (ListedBy client parseF64 trace) ∧
      (∀ service ∈ status.affectedServices, ∀ value ∈ service.metrics.values,
        value.isNan = false) ∧
      ((∀ promql time svc value, ListedBy client parseF64 trace promql time svc value →
          value.isFinite = true) →
        ∀ document, Schema.AllowsDocument ChaosImpactMapStatus.properties [] document →
          ChaosImpactMapStatus.schema.admits
            (Json.mergePatch document status.toJson) = true) := by
  have measured : status.MeasuredIn crates impactMap (ListedBy client parseF64 trace) :=
    (impactReport_given client parseF64 crates graphClient impactMap).of_mem run
      (fun _ member => listedReport_of_mem member) written
  have values (holds : F64 → Prop) (zero : holds .zero)
      (each : ∀ promql time svc value, ListedBy client parseF64 trace promql time svc value →
        holds value) :
      ∀ service ∈ status.affectedServices, ∀ value ∈ service.metrics.values, holds value := by
    rcases measured with none | ⟨startedAt, completedAt, windows, -, services⟩
    · rw [none]
      exact fun _ absent => absurd absent List.not_mem_nil
    · exact fun service member => (services service member).forall_values zero each
  refine ⟨measured, values (fun value => value.isNan = false) rfl ?_,
    fun finite document stored => ?_⟩
  · rintro promql time svc _ ⟨response, -, -, series, -, -, rfl⟩
    exact isNan_sampleValue parseF64 series
  · refine (ChaosImpactMapStatus.admits_mergePatch_iff stored status).mpr ?_
    refine List.all_eq_true.mpr fun service member => ?_
    exact ServiceMetrics.finite_iff.mpr
      (values (fun value => value.isFinite = true) rfl finite service member)

/-- The statuses that some exchanges write. -/
def patchedStatus : Exchange (ReportRequest ChaosImpactMapStatus) ReportResponse →
    Option ChaosImpactMapStatus
  | ⟨.patchStatus _ _ status, _⟩ => some status
  | _ => none

theorem mem_of_patchedStatus
    {trace : List (Exchange (ReportRequest ChaosImpactMapStatus) ReportResponse)}
    {status : ChaosImpactMapStatus} (member : status ∈ trace.filterMap patchedStatus) :
    ∃ ns name answer, ⟨.patchStatus ns name status, answer⟩ ∈ trace := by
  obtain ⟨⟨request, answer⟩, inTrace, same⟩ := List.mem_filterMap.mp member
  cases request with
  | patchStatus ns name written =>
    obtain rfl := Option.some.inj same
    exact ⟨ns, name, answer, inTrace⟩
  | _ => cases same

/-- The report of two services. -/
theorem impactReport_sampled_sample :
    let client : HttpPrometheusClient := .new "http://prometheus:9090/"
    let parseF64 (text : String) : Option F64 :=
      if text = "1" then some (.finite 1) else some (.finite 3)
    let trace := ((reconcileImpactMap sampleTimeCrate true sampleImpactMap).interpret
      (impactMapClients client parseF64)).transcript (sampleListings id) []
    ∃ status ∈ trace.filterMap patchedStatus, status.phase = .completed ∧
      status.MeasuredIn sampleTimeCrate sampleImpactMap (ListedBy client parseF64 trace) := by
  intro client parseF64 trace
  have completed : (trace.filterMap patchedStatus).map ChaosImpactMapStatus.phase =
      [.completed] := by decide +kernel
  have shown : AnalysisPhase.completed ∈
      (trace.filterMap patchedStatus).map ChaosImpactMapStatus.phase := by
    rw [completed]
    exact List.mem_cons_self
  obtain ⟨status, member, phase⟩ := List.mem_map.mp shown
  obtain ⟨ns, name, answer, written⟩ := mem_of_patchedStatus member
  exact ⟨status, member, phase, (impactReport_sampled client parseF64 sampleTimeCrate true
    sampleImpactMap (reaches_exec (sampleListings id) _ []) written).1⟩

end ChimpChaos
