/-
This file says when the edge check finds an edge that is there.

The query sums by the destination's workload and namespace as well, so one edge can have
several series. The graph builder takes the first of them and compares its rate with the
threshold, whatever the rates of the others.
-/

import ChimpChaos.Library.FirstMatch
import ChimpChaos.Proof.Preflight

namespace ChimpChaos

open Library

section EdgeResolution

variable (parseF64 : String → Option F64) (config : GraphBuilderConfig)
  (metrics : List PrometheusMetric) (source destination ns : String)

/-- A series has at least the minimal rate. -/
def reachesMinRps (series : PrometheusMetric) : Bool :=
  config.minRps.atMost (series.rps parseF64)

/-- Some series from the source in the namespace to the destination has at least the minimal
rate. -/
def EdgeBusy : Prop :=
  ∃ series ∈ metrics, series.label "source_workload" = source ∧
    series.label "destination_service_name" = destination ∧
    series.label "source_workload_namespace" = ns ∧
    config.minRps.atMost (series.rps parseF64) = true

/-- The edge is found in a list of series. -/
def EdgeFound (metrics : List PrometheusMetric) : Prop :=
  ∃ info, findEdge parseF64 config metrics source destination ns = .ok info

/-- The edge is found just when some series of it is busy enough, and in every order of the series
alike. -/
structure ResolvesExactly : Prop where
  complete : EdgeFound parseF64 config source destination ns metrics ↔
    EdgeBusy parseF64 config metrics source destination ns
  orderFree : ∀ other, metrics.Perm other →
    (EdgeFound parseF64 config source destination ns metrics ↔
      EdgeFound parseF64 config source destination ns other)

/-- The series of the edge agree on whether they reach the threshold. -/
def RatesAgree : Prop :=
  ∀ first ∈ metrics, ∀ second ∈ metrics, isEdgeSeries source destination ns first = true →
    isEdgeSeries source destination ns second = true →
    config.minRps.atMost (first.rps parseF64) = true →
    config.minRps.atMost (second.rps parseF64) = true

end EdgeResolution

section Search

variable {parseF64 : String → Option F64} {config : GraphBuilderConfig}
  {metrics : List PrometheusMetric} {source destination ns : String}

/-- The search of the graph builder is a test of the first match. -/
theorem edgeFound_iff : EdgeFound parseF64 config source destination ns metrics ↔
    FirstPasses (isEdgeSeries source destination ns) (reachesMinRps parseF64 config) metrics :=
  exists_findEdge_iff

theorem edgeBusy_iff : EdgeBusy parseF64 config metrics source destination ns ↔
    SomePasses (isEdgeSeries source destination ns) (reachesMinRps parseF64 config) metrics := by
  simp [EdgeBusy, SomePasses, isEdgeSeries_iff, reachesMinRps, and_assoc]

end Search

/-- The edge check is complete and independent of the order of the series if and only if all
series of the edge reach the threshold or none does. -/
theorem resolvesExactly_iff (parseF64 : String → Option F64) (config : GraphBuilderConfig)
    (metrics : List PrometheusMetric) (source destination ns : String) :
    ResolvesExactly parseF64 config metrics source destination ns ↔
      RatesAgree parseF64 config metrics source destination ns := by
  have agree : RatesAgree parseF64 config metrics source destination ns ↔
      MatchesAgree (isEdgeSeries source destination ns) (reachesMinRps parseF64 config)
        metrics := Iff.rfl
  rw [agree]
  constructor
  · intro resolves
    refine firstPasses_perm_iff.mp fun other perm => ?_
    rw [← edgeFound_iff, ← edgeFound_iff]
    exact resolves.orderFree other perm
  · intro agree
    refine ⟨?_, fun other perm => ?_⟩
    · rw [edgeFound_iff, edgeBusy_iff]
      exact agree.firstPasses_iff
    · rw [edgeFound_iff, edgeFound_iff]
      exact firstPasses_perm_iff.mpr agree other perm

/-- The parser at the two texts of the example. -/
def sampleRates (text : String) : Option F64 :=
  if text = "0.01" then some (.finite (1 / 100)) else sampleParseF64 text

/-- With a quiet series in front of a busy one the edge is not found. -/
theorem busyEdge_missed : ¬ ∀ (parseF64 : String → Option F64) (config : GraphBuilderConfig)
    (metrics : List PrometheusMetric) (source destination ns : String),
    ResolvesExactly parseF64 config metrics source destination ns := by
  intro claim
  let quiet : PrometheusMetric := { ledgerSeries "staging" with value := "0.01" }
  have resolves := claim sampleRates {} [quiet, ledgerSeries "shop"] "payment" "ledger" "shop"
  obtain ⟨info, found⟩ := resolves.complete.mpr
    ⟨ledgerSeries "shop", by simp, by decide +kernel, by decide +kernel, by decide +kernel,
      by decide +kernel⟩
  have missed : findEdge sampleRates {} [quiet, ledgerSeries "shop"] "payment" "ledger" "shop" =
      .error (.validation .edgeTrafficBelowThreshold) := by decide +kernel
  rw [missed] at found
  cases found

end ChimpChaos
