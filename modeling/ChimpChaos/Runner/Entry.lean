/-
This file models the process of a runner: it reads its configuration, starts the metrics server,
and runs its scenario between two settings of the gauge.

The server shows the metrics as they are at any time, so every change of a metric is a call of its
own. A failure of the server is logged and has no other effect. The end of the process is the end
of its scenario.
-/

import ChimpChaos.Runner.Metrics
import ChimpChaos.Runner.Scenarios

namespace ChimpChaos

open Library

/-- The changes of the metrics. -/
inductive MetricsUpdate where
  | setActive (experimentId scenario : String)
  | setInactive (experimentId scenario : String)
  | recordSuccess (scenario : String)
  | recordFailure (scenario : String)
  | setTargets (count : UInt32)
  | observeDuration (seconds : F64)
  deriving DecidableEq, Repr

def MetricsUpdate.apply : MetricsUpdate → RunnerMetrics → RunnerMetrics
  | .setActive experimentId scenario, metrics => metrics.setActive experimentId scenario
  | .setInactive experimentId scenario, metrics => metrics.setInactive experimentId scenario
  | .recordSuccess scenario, metrics => metrics.recordSuccess scenario
  | .recordFailure scenario, metrics => metrics.recordFailure scenario
  | .setTargets count, metrics => metrics.setTargets count
  | .observeDuration seconds, metrics => metrics.observeDuration seconds

/-- The calls of the process: the server task, the metrics, the clock, and those of the
scenario. -/
inductive ProcessCall where
  | startServer (port : UInt16)
  | update (change : MetricsUpdate)
  | now
  | elapsed (start : Nat)
  | scenario (request : RunnerCall)
  deriving DecidableEq, Repr

@[reducible] def ProcessAnswer : ProcessCall → Type
  | .startServer _ => Unit
  | .update _ => Unit
  | .now => Nat
  | .elapsed _ => F64
  | .scenario request => RunnerAnswer request

abbrev ProcessRun (Value : Type) : Type := Program ProcessCall ProcessAnswer RunnerError Value

def updateMetrics (change : MetricsUpdate) : ProcessRun Unit :=
  Program.request (ProcessCall.update change)

/-- What is recorded of the end of a scenario. -/
def recordResult (scenarioName : String) : Except RunnerError UInt32 → ProcessRun Unit
  | .ok targets => do
    updateMetrics (.recordSuccess scenarioName)
    updateMetrics (.setTargets targets)
  | .error _ => updateMetrics (.recordFailure scenarioName)

/-- The process of a configuration. Its metrics are registered in a new registry. -/
def RunnerConfig.run (config : RunnerConfig) : ProcessRun Unit := do
  let _ ← Program.ofExcept (RunnerMetrics.new [])
  let scenarioName := config.scenario.toString
  Program.request (ProcessCall.startServer config.metricsPort)
  updateMetrics (.setActive config.experimentId scenarioName)
  let start ← Program.request ProcessCall.now
  let result ← ((executeScenario config).inject ProcessCall.scenario fun _ answer => answer).attempt
  let elapsed ← Program.request (ProcessCall.elapsed start)
  updateMetrics (.observeDuration elapsed)
  recordResult scenarioName result
  updateMetrics (.setInactive config.experimentId scenarioName)
  Program.ofExcept (result.map fun _ => ())

end ChimpChaos
