/-
This file models the metrics of a runner and its metrics registry.

A gauge says whether a fault is active, a counter counts the ends of faults by their result, a
second gauge holds the number of targets, and a histogram takes the durations. The registry takes
each name once.
-/

import ChimpChaos.Library.Store
import ChimpChaos.Operator.Types

namespace ChimpChaos

open Library

/-- The values of the metrics: gauges and counters by their labels, and the durations that have
been observed. -/
structure RunnerMetrics where
  injectionActive : Store (String × String) F64
  injectionTotal : Store (String × String) UInt64
  targetsAffected : F64
  injectionDuration : List F64

/-- The names that have been registered. -/
abbrev Registry : Type := List String

def Registry.register (registry : Registry) (name : String) : Except RunnerError Registry :=
  if name ∈ registry then
    .error (.executionFailed "Duplicate metrics collector registration attempted")
  else .ok (name :: registry)

namespace RunnerMetrics

def names : List String :=
  ["chaos_injection_active", "chaos_injection_total", "chaos_targets_affected",
    "chaos_injection_duration_seconds"]

/-- Metrics without any values. -/
def fresh : RunnerMetrics where
  injectionActive := ∅
  injectionTotal := ∅
  targetsAffected := .zero
  injectionDuration := []

def new (registry : Registry) : Except RunnerError (RunnerMetrics × Registry) := do
  let registry ← names.foldlM Registry.register registry
  return (fresh, registry)

def setActive (metrics : RunnerMetrics) (experimentId scenario : String) : RunnerMetrics :=
  { metrics with
    injectionActive := AList.insert (experimentId, scenario) (.finite 1) metrics.injectionActive }

def setInactive (metrics : RunnerMetrics) (experimentId scenario : String) : RunnerMetrics :=
  { metrics with
    injectionActive := AList.insert (experimentId, scenario) .zero metrics.injectionActive }

/-- Count one more end of a scenario. -/
def increment (metrics : RunnerMetrics) (scenario result : String) : RunnerMetrics :=
  { metrics with
    injectionTotal := AList.insert (scenario, result)
      ((metrics.injectionTotal.lookup (scenario, result)).getD 0 + 1) metrics.injectionTotal }

def recordSuccess (metrics : RunnerMetrics) (scenario : String) : RunnerMetrics :=
  metrics.increment scenario "success"

def recordFailure (metrics : RunnerMetrics) (scenario : String) : RunnerMetrics :=
  metrics.increment scenario "failure"

def setTargets (metrics : RunnerMetrics) (count : UInt32) : RunnerMetrics :=
  { metrics with targetsAffected := .finite count.toNat }

def observeDuration (metrics : RunnerMetrics) (seconds : F64) : RunnerMetrics :=
  { metrics with injectionDuration := metrics.injectionDuration ++ [seconds] }

end RunnerMetrics

/-- A new registry takes all names. -/
theorem RunnerMetrics.new_nil : new [] = .ok (fresh, names.reverse) := rfl

end ChimpChaos
