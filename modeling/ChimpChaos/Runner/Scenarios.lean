/-
This file models the scenarios of a runner: how each reads its parameters and what it then does.

A parameter is looked up by its key and read as one type. An optional parameter that is missing
or of another type counts as its default. Numbers are read with 64 bits and cut to 32.
-/

import ChimpChaos.Library.Calls
import ChimpChaos.Runner.Config
import ChimpChaos.Runner.PodKiller

namespace ChimpChaos

open Library Program

/-! ### The calls of a runner -/

/-- A runner makes a Kubernetes client and uses it, or it runs programs and sleeps. -/
inductive RunnerCall where
  | connect
  | pods (request : PodCall)
  | command (program : String) (args : List String)
  | sleep (secs : UInt64)
  deriving DecidableEq, Repr

/-- A program that has been started answers with its exit code, unless a signal has ended it. -/
@[reducible] def RunnerAnswer : RunnerCall → Type
  | .connect => Except String Unit
  | .pods request => PodAnswer request
  | .command .. => Except String (Option Int)
  | .sleep _ => Unit

abbrev ScenarioRun (Value : Type) : Type := Program RunnerCall RunnerAnswer RunnerError Value

/-- What a runner makes of the end of a program. -/
def commandResult (program : String) : Except String (Option Int) → Except RunnerError Unit
  | .ok code =>
    if code = some 0 then .ok ()
    else .error (.executionFailed (program ++ " exited with " ++ toString (code.getD (-1))))
  | .error text => .error (.command text)

def SystemCommandRunner.run (program : String) (args : List String) : ScenarioRun Unit := do
  let answer ← Program.request (RunnerCall.command program args)
  Program.ofExcept (commandResult program answer)

/-! ### PodKiller -/

/-- The namespace and the label selector. -/
def PodKiller.parseConfig (params : Json) : Except RunnerError (String × String) := do
  let ns := ((params.get? "namespace").bind Json.asStr?).getD "default"
  let labelSelector ← orInvalid "labelSelector is required"
    ((params.get? "labelSelector").bind Json.asStr?)
  return (ns, labelSelector)

def RealPodClient.new : ScenarioRun Unit := do
  let answer ← Program.request RunnerCall.connect
  Program.ofExcept
    (answer.mapError fun text => RunnerError.executionFailed ("kube client: " ++ text))

/-! ### CpuStress -/

structure CpuStress where
  cores : UInt32
  percent : UInt32
  durationSecs : UInt64
  deriving DecidableEq, Repr

/-- The cores and the percent. -/
def CpuStress.parseConfig (params : Json) (_durationSecs : UInt64) :
    Except RunnerError (UInt32 × UInt32) := do
  let cores := (((params.get? "cores").bind Json.asU64?).getD 1).toUInt32
  let percent := (((params.get? "percent").bind Json.asU64?).getD 80).toUInt32
  if cores = 0 then
    throw (.invalidConfig "cores must be > 0")
  if percent > 100 then
    throw (.invalidConfig "percent must be 0-100")
  return (cores, percent)

def CpuStress.execute (stress : CpuStress) : ScenarioRun UInt32 := do
  SystemCommandRunner.run "stress-ng"
    ["--cpu", toString stress.cores, "--cpu-load", toString stress.percent, "--timeout",
      toString stress.durationSecs ++ "s"]
  return stress.cores

/-! ### NetworkDelay -/

structure NetworkDelay where
  interface : String
  delayMs : UInt32
  jitterMs : UInt32
  durationSecs : UInt64
  deriving DecidableEq, Repr

/-- The interface, the delay and the jitter. -/
def NetworkDelay.parseConfig (params : Json) : Except RunnerError (String × UInt32 × UInt32) := do
  let interface := ((params.get? "interface").bind Json.asStr?).getD "eth0"
  let delayMs := (← orInvalid "delayMs is required"
    ((params.get? "delayMs").bind Json.asU64?)).toUInt32
  let jitterMs := (((params.get? "jitterMs").bind Json.asU64?).getD 0).toUInt32
  return (interface, delayMs, jitterMs)

def NetworkDelay.cleanup (delay : NetworkDelay) : ScenarioRun Unit := do
  -- the result of the command is dropped
  let _ ← (SystemCommandRunner.run "tc" ["qdisc", "del", "dev", delay.interface, "root"]).attempt

def NetworkDelay.execute (delay : NetworkDelay) : ScenarioRun UInt32 := do
  SystemCommandRunner.run "tc"
    ["qdisc", "add", "dev", delay.interface, "root", "netem", "delay",
      toString delay.delayMs ++ "ms", toString delay.jitterMs ++ "ms"]
  Program.request (RunnerCall.sleep delay.durationSecs)
  delay.cleanup
  return 1

/-! ### The dispatch -/

def executeScenario (config : RunnerConfig) : ScenarioRun UInt32 :=
  match config.scenario with
  | .podKiller => do
    let (ns, selector) ← Program.ofExcept (PodKiller.parseConfig config.parameters)
    RealPodClient.new
    (PodKiller.execute ⟨ns, selector⟩).inject RunnerCall.pods fun _ answer => answer
  | .cpuStress => do
    let (cores, percent) ← Program.ofExcept
      (CpuStress.parseConfig config.parameters config.duration)
    CpuStress.execute ⟨cores, percent, config.duration⟩
  | .networkDelay => do
    let (iface, delayMs, jitterMs) ← Program.ofExcept (NetworkDelay.parseConfig config.parameters)
    NetworkDelay.execute ⟨iface, delayMs, jitterMs, config.duration⟩
  | .edgeDelay | .edgeAbort =>
    .fail (.invalidConfig "edge scenarios do not use runner pods")

/-! ### What a run may do -/

/-- The calls a runner with a configuration may make. The Pods it lists and deletes are in the
namespace of its parameters. -/
def Permitted (config : RunnerConfig) : RunnerCall → Prop
  | .connect => config.scenario = .podKiller
  | .pods request => config.scenario = .podKiller ∧ ∃ ns labelSelector,
    PodKiller.parseConfig config.parameters = .ok (ns, labelSelector) ∧
      (request = .listPods ns labelSelector ∨ ∃ name, request = .deletePod ns name)
  | .command program _ =>
    config.scenario = .cpuStress ∧ program = "stress-ng" ∨
      config.scenario = .networkDelay ∧ program = "tc"
  | .sleep secs => config.scenario = .networkDelay ∧ secs = config.duration

section Permitted

variable {permitted : RunnerCall → Prop}

theorem makes_run {program : String} {args : List String}
    (allowed : permitted (.command program args)) :
    (SystemCommandRunner.run program args).Makes permitted :=
  makes_call allowed fun answer => makes_ofExcept (commandResult program answer)

theorem makes_deleteListed {permitted : PodCall → Prop} (ns : String)
    (allowed : ∀ name, permitted (.deletePod ns name)) (pods : List Pod) (deleted : UInt32) :
    (deleteListed ns pods deleted).Makes permitted := by
  induction pods generalizing deleted with
  | nil => trivial
  | cons pod rest inductionHypothesis =>
    rw [deleteListed]
    cases pod.metadata.name with
    | none => exact inductionHypothesis deleted
    | some name =>
      refine makes_call (allowed name) fun answer => ?_
      exact (makes_ofExcept _).bind fun _ => inductionHypothesis (deleted + 1)

theorem makes_execute {permitted : PodCall → Prop} (killer : PodKiller)
    (lists : permitted (.listPods killer.ns killer.labelSelector))
    (deletes : ∀ name, permitted (.deletePod killer.ns name)) :
    killer.execute.Makes permitted := by
  refine makes_call lists fun answer => ?_
  exact (makes_ofExcept _).bind fun pods => makes_deleteListed killer.ns deletes pods 0

/-- A runner makes no call but those it may make. -/
theorem makes_executeScenario (config : RunnerConfig) :
    (executeScenario config).Makes (Permitted config) := by
  unfold executeScenario
  cases scenario : config.scenario with
  | podKiller =>
    cases parsed : PodKiller.parseConfig config.parameters with
    | error error => trivial
    | ok killer =>
      have own : (PodKiller.execute ⟨killer.1, killer.2⟩).Makes
          fun request => Permitted config (.pods request) :=
        makes_execute _ ⟨scenario, killer.1, killer.2, parsed, Or.inl rfl⟩
          fun name => ⟨scenario, killer.1, killer.2, parsed, Or.inr ⟨name, rfl⟩⟩
      refine makes_call scenario fun answer => (makes_ofExcept _).bind fun _ => ?_
      exact own.inject fun request allowed => allowed
  | cpuStress =>
    refine (makes_ofExcept _).bind fun settings => ?_
    exact (makes_run (Or.inl ⟨scenario, rfl⟩)).bind fun _ => trivial
  | networkDelay =>
    have tc (args : List String) : Permitted config (.command "tc" args) := Or.inr ⟨scenario, rfl⟩
    refine (makes_ofExcept _).bind fun settings => ?_
    refine (makes_run (tc _)).bind fun _ => makes_call ⟨scenario, rfl⟩ fun _ => ?_
    have cleanup : (NetworkDelay.cleanup ⟨settings.1, settings.2.1, settings.2.2,
        config.duration⟩).Makes (Permitted config) :=
      (makes_run (tc _)).attempt.bind fun _ => trivial
    exact cleanup.bind fun _ => trivial
  | edgeDelay => trivial
  | edgeAbort => trivial

end Permitted

end ChimpChaos
