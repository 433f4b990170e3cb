/-
This file models the builder of runner Jobs.

A Job's name is cut from the experiment id and the node name by byte slices. A slice that
does not fall on a character boundary panics, so building a Job may have no value.
-/

import ChimpChaos.Library.Slice
import ChimpChaos.Operator.Crd

namespace ChimpChaos

open Library

structure JobBuilderConfig where
  runnerImage : String := defaultRunnerImage
  metricsPort : Int := defaultMetricsPort
  deriving DecidableEq, Repr

/-- The name of the Job of one node. -/
def makeJobName (experimentId nodeName : String) : Option String := do
  let idPrefix ← sliceTo experimentId (min 8 (byteLength experimentId))
  let maxNodeLen := 63 - 13 - 1 - byteLength idPrefix
  let nodeShort ← sliceTo nodeName (min maxNodeLen (byteLength nodeName))
  return "chaos-runner-" ++ idPrefix ++ "-" ++ nodeShort

def jobLabels (expName : String) (scenario : ScenarioType) : Labels :=
  [("app", "chimp-chaos-runner"), (experimentLabel, expName), (scenarioLabel, scenario.toString)]

def ownerRef (experiment : ChaosExperiment) : OwnerReference where
  apiVersion := "chaos.io/v1"
  kind := "ChaosExperiment"
  name := experiment.metadata.name.getD "unknown"
  uid := experiment.metadata.uid.getD ""
  controller := some true
  blockOwnerDeletion := some true

def envVar (name value : String) : EnvVar := { name, value := some value }

def runnerEnvVars (experimentId : String) (scenario : ScenarioType) (duration : UInt64)
    (parametersJson : Option String) : List EnvVar :=
  [envVar "EXPERIMENT_ID" experimentId, envVar "SCENARIO" scenario.toString,
    envVar "DURATION" (toString duration)] ++
    match parametersJson with
    | some params => [envVar "PARAMETERS" params]
    | none => []

def runnerContainer (scenario : ScenarioType) (experimentId : String) (duration : UInt64)
    (parametersJson : Option String) (config : JobBuilderConfig) : Container where
  name := "chaos-runner"
  image := some config.runnerImage
  args := some ["--mode", "runner"]
  env := some (runnerEnvVars experimentId scenario duration parametersJson)
  ports := some [{ containerPort := config.metricsPort, name := some "metrics" }]
  securityContext := if scenario.requiresPrivileged then some { privileged := some true } else none

def prometheusAnnotations (metricsPort : Int) : Labels :=
  [("prometheus.io/port", toString metricsPort), ("prometheus.io/scrape", "true")]

def podTemplate (nodeName : String) (scenario : ScenarioType) (experimentId : String)
    (duration : UInt64) (parametersJson : Option String) (config : JobBuilderConfig) :
    PodTemplateSpec where
  metadata := some {
    labels := some [("app", "chimp-chaos-runner")]
    annotations := some (prometheusAnnotations config.metricsPort) }
  spec := some {
    containers := [runnerContainer scenario experimentId duration parametersJson config]
    nodeName := some nodeName
    restartPolicy := some "Never"
    serviceAccountName := some "chimp-chaos-runner" }

def buildRunnerJob (experiment : ChaosExperiment) (experimentId nodeName : String)
    (scenario : ScenarioType) (duration : UInt64) (parametersJson : Option String)
    (config : JobBuilderConfig) : Option Job := do
  let expName := experiment.metadata.name.getD "unknown"
  let ns := experiment.metadata.ns.getD "default"
  let jobName ← makeJobName experimentId nodeName
  return {
    metadata := {
      name := some jobName
      ns := some ns
      labels := some (jobLabels expName scenario)
      ownerReferences := some [ownerRef experiment] }
    spec := some {
      backoffLimit := some jobBackoffLimit
      ttlSecondsAfterFinished := some jobTtlAfterFinished
      template := podTemplate nodeName scenario experimentId duration parametersJson config } }

/-! ### What a built Job says of itself -/

section BuiltJob

variable {experiment : ChaosExperiment} {experimentId nodeName : String}
  {scenario : ScenarioType} {duration : UInt64} {parametersJson : Option String}
  {config : JobBuilderConfig} {job : Job}

theorem buildRunnerJob_name
    (built : buildRunnerJob experiment experimentId nodeName scenario duration parametersJson
      config = some job) :
    job.metadata.name = makeJobName experimentId nodeName := by
  simp only [buildRunnerJob, Option.bind_eq_bind, Option.bind_eq_some_iff, Option.pure_def,
    Option.some.injEq] at built
  obtain ⟨name, named, rfl⟩ := built
  exact named.symm

theorem buildRunnerJob_nodeName
    (built : buildRunnerJob experiment experimentId nodeName scenario duration parametersJson
      config = some job) : job.nodeName = some nodeName := by
  simp only [buildRunnerJob, Option.bind_eq_bind, Option.bind_eq_some_iff, Option.pure_def,
    Option.some.injEq] at built
  obtain ⟨name, named, rfl⟩ := built
  rfl

theorem buildRunnerJob_label
    (built : buildRunnerJob experiment experimentId nodeName scenario duration parametersJson
      config = some job) :
    job.label experimentLabel = some (experiment.metadata.name.getD "unknown") := by
  simp only [buildRunnerJob, Option.bind_eq_bind, Option.bind_eq_some_iff, Option.pure_def,
    Option.some.injEq] at built
  obtain ⟨name, named, rfl⟩ := built
  rfl

theorem buildRunnerJob_ownerReferences
    (built : buildRunnerJob experiment experimentId nodeName scenario duration parametersJson
      config = some job) : job.metadata.ownerReferences = some [ownerRef experiment] := by
  simp only [buildRunnerJob, Option.bind_eq_bind, Option.bind_eq_some_iff, Option.pure_def,
    Option.some.injEq] at built
  obtain ⟨name, named, rfl⟩ := built
  rfl

end BuiltJob

end ChimpChaos
