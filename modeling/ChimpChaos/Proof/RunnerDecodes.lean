/-
This file proves that a runner reads back what the operator has written into its Job.

The operator prints the identifier, the scenario's name, the duration and the parameters into
four variables of the container; the runner reads each of them in its own way. The parameters
are the spec's, with the target namespace under the key `namespace` when they have none.
-/

import ChimpChaos.Operator.Reconciler
import ChimpChaos.Cluster.Pass
import ChimpChaos.Runner.Config

namespace ChimpChaos

open Library

/-- The containers of a Job's Pods. -/
def Job.containers (job : Job) : List Container :=
  ((job.spec.bind fun spec => spec.template.spec).map PodSpec.containers).getD []

/-- An environment has the variables of a container, with their values as they are. -/
def CarriesVerbatim (environment : Environment) (container : Container) : Prop :=
  ∀ entry ∈ container.env.getD [], environment entry.name = entry.value

/-- What a runner has read is what the operator has meant: the experiment's identifier, scenario
and duration, and as parameters the fields of the spec, to which the target namespace is added
just when they name none. -/
structure Decoded (experiment : ChaosExperiment) (experimentId : String)
    (fields : List (String × Json)) (runner : RunnerConfig) : Prop where
  experimentId : runner.experimentId = experimentId
  scenario : runner.scenario = experiment.spec.scenario
  duration : runner.duration = experiment.spec.duration
  named : (fields.lookup "namespace").isSome = true → runner.parameters = .object fields
  unnamed : fields.lookup "namespace" = none → ∃ added, runner.parameters = .object added ∧
    ∀ key, added.lookup key =
      if key = "namespace" then some (.string (targetNamespace experiment))
      else fields.lookup key

section Decoding

variable {crates : Crates} {config : ReconcilerConfig} {parseJson : String → Option Json}
  {experiment : ChaosExperiment} {experimentId node : String} {environment : Environment}

/-- The one container of a built Job. -/
theorem containers_of_jobOfNode {job : Job}
    (built : jobOfNode crates config experiment experimentId node = some job) :
    job.containers = [runnerContainer experiment.spec.scenario experimentId
      experiment.spec.duration (some (crates.printJson (runnerParameters experiment)))
      config.jobBuilder] := by
  simp only [jobOfNode, buildRunnerJob, Option.bind_eq_bind, Option.bind_eq_some_iff,
    Option.pure_def, Option.some.injEq] at built
  obtain ⟨name, -, rfl⟩ := built
  rfl

/-- Reading the four variables of a runner. -/
theorem fromEnv_runnerEnvVars {scenario : ScenarioType} {duration : UInt64}
    {parametersJson : String} {parameters : Json} {jobBuilder : JobBuilderConfig}
    (carries : CarriesVerbatim environment
      (runnerContainer scenario experimentId duration (some parametersJson) jobBuilder))
    (inverts : parseJson parametersJson = some parameters) :
    ∃ metricsPort, RunnerConfig.fromEnv parseJson environment =
      .ok { experimentId, scenario, duration, parameters, metricsPort } := by
  have id : environment "EXPERIMENT_ID" = some experimentId :=
    carries (envVar "EXPERIMENT_ID" experimentId) (by simp [runnerContainer, runnerEnvVars])
  have name : environment "SCENARIO" = some scenario.toString :=
    carries (envVar "SCENARIO" scenario.toString) (by simp [runnerContainer, runnerEnvVars])
  have seconds : environment "DURATION" = some (toString duration) :=
    carries (envVar "DURATION" (toString duration)) (by simp [runnerContainer, runnerEnvVars])
  have printed : environment "PARAMETERS" = some parametersJson :=
    carries (envVar "PARAMETERS" parametersJson) (by simp [runnerContainer, runnerEnvVars])
  refine ⟨((environment "METRICS_PORT").bind fun port => parseU16 port.toList).getD 9090, ?_⟩
  rw [RunnerConfig.fromEnv, id, name, seconds, printed]
  simp only [orInvalid_some_bind, ScenarioType.ofString?_toString, parseU64_toString,
    Option.bind_some, inverts, Option.getD_some]
  rfl

/-- The parameters prepared for a runner are the spec's fields and, when they have none, the
namespace. -/
theorem runnerParameters_of_fields {fields : List (String × Json)}
    (given : experiment.spec.parameters.getD (.object []) = .object fields) :
    runnerParameters experiment =
      if (fields.lookup "namespace").isSome then .object fields
      else .object
        (Json.setField "namespace" (.string (targetNamespace experiment)) fields) := by
  rw [runnerParameters, given]

end Decoding

/-- A runner started with the environment of its Job's container reads the identifier, the
scenario, the duration and the parameters of its experiment. -/
theorem runner_decodes (crates : Crates) (config : ReconcilerConfig)
    (parseJson : String → Option Json) (experiment : ChaosExperiment) (experimentId node : String)
    (fields : List (String × Json))
    (given : experiment.spec.parameters.getD (.object []) = .object fields)
    (inverts : parseJson (crates.printJson (runnerParameters experiment)) =
      some (runnerParameters experiment))
    (job : Job) (built : jobOfNode crates config experiment experimentId node = some job) :
    ∃ container, job.containers = [container] ∧
      ∀ environment, CarriesVerbatim environment container →
        ∃ runner, RunnerConfig.fromEnv parseJson environment = .ok runner ∧
          Decoded experiment experimentId fields runner := by
  refine ⟨_, containers_of_jobOfNode built, fun environment carries => ?_⟩
  obtain ⟨metricsPort, read⟩ := fromEnv_runnerEnvVars carries inverts
  refine ⟨_, read, rfl, rfl, rfl, fun named => ?_, fun unnamed => ?_⟩
  · show runnerParameters experiment = _
    rw [runnerParameters_of_fields given, if_pos named]
  · refine ⟨_, ?_, fun key => Json.lookup_setField "namespace" key _ fields⟩
    show runnerParameters experiment = _
    rw [runnerParameters_of_fields given, unnamed]
    rfl

/-- The parser at the text the example prints. -/
def sampleParseJson (text : String) : Option Json :=
  if text = "\x7b\"namespace\":\"shop\"\x7d" then
    some (.object [("namespace", .string "shop")])
  else none

/-- The Job of the sample's first node is read back. -/
theorem runner_decodes_sample : ∃ job,
    jobOfNode sampleCrates {} (freshSnapshot sampleKey samplePod) sampleUid "node-a" = some job ∧
    ∃ container, job.containers = [container] ∧
      ∀ environment, CarriesVerbatim environment container →
        ∃ runner, RunnerConfig.fromEnv sampleParseJson environment = .ok runner ∧
          Decoded (freshSnapshot sampleKey samplePod) sampleUid [] runner := by
  have present : (jobOfNode sampleCrates {} (freshSnapshot sampleKey samplePod) sampleUid
      "node-a").isSome = true := by decide +kernel
  obtain ⟨job, built⟩ := Option.isSome_iff_exists.mp present
  exact ⟨job, built, runner_decodes sampleCrates {} sampleParseJson
    (freshSnapshot sampleKey samplePod) sampleUid "node-a" [] rfl rfl job built⟩

end ChimpChaos
