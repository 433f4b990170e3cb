/-
This file models how a runner reads its configuration from its environment.

The variables are texts. The scenario is read by its serialized name, the duration as a
decimal number, and the parameters as JSON; parameters that cannot be read count as none.
-/

import ChimpChaos.Library.Json
import ChimpChaos.Library.Text
import ChimpChaos.Operator.Types

namespace ChimpChaos

open Library

structure RunnerConfig where
  experimentId : String
  scenario : ScenarioType
  duration : UInt64
  parameters : Json
  metricsPort : UInt16
  deriving Repr

/-- The environment of a process: the value of each variable that is set. -/
abbrev Environment : Type := String → Option String

/-- The scenario a serialized name stands for. -/
def ScenarioType.ofString? : String → Option ScenarioType
  | "PodKiller" => some .podKiller
  | "CpuStress" => some .cpuStress
  | "NetworkDelay" => some .networkDelay
  | "EdgeDelay" => some .edgeDelay
  | "EdgeAbort" => some .edgeAbort
  | _ => none

/-- The displayed name of a scenario is its serialized name. -/
@[simp] theorem ScenarioType.ofString?_toString (scenario : ScenarioType) :
    ScenarioType.ofString? scenario.toString = some scenario := by
  cases scenario <;> rfl

/-- A setting that has to be there. -/
def orInvalid {Value : Type} (message : String) : Option Value → Except RunnerError Value
  | some value => .ok value
  | none => .error (.invalidConfig message)

@[simp] theorem orInvalid_some_bind {Value Result : Type} (message : String) (value : Value)
    (continuation : Value → Except RunnerError Result) :
    (orInvalid message (some value) >>= continuation) = continuation value := rfl

def RunnerConfig.fromEnv (parseJson : String → Option Json) (environment : Environment) :
    Except RunnerError RunnerConfig := do
  let experimentId ← orInvalid "EXPERIMENT_ID not set" (environment "EXPERIMENT_ID")
  let scenarioStr ← orInvalid "SCENARIO not set" (environment "SCENARIO")
  let scenario ← orInvalid ("unknown scenario: " ++ scenarioStr)
    (ScenarioType.ofString? scenarioStr)
  let durationStr ← orInvalid "DURATION not set" (environment "DURATION")
  let duration ← orInvalid "DURATION must be a number" (parseU64 durationStr.toList)
  let parameters := ((environment "PARAMETERS").bind parseJson).getD (.object [])
  let metricsPort :=
    ((environment "METRICS_PORT").bind fun port => parseU16 port.toList).getD 9090
  return { experimentId, scenario, duration, parameters, metricsPort }

end ChimpChaos
