/-
This file proves that the metrics of a runner tell what it does.

Whenever a runner is stopped, a scenario that may still act is one the gauge calls active, and one
that has ended is counted once, by the result the process ends with. A delay that a runner has put
on an interface is there only while the gauge says so, unless its removal has failed. What was on
the interface before is never removed.
-/

import ChimpChaos.Cluster.Pass
import ChimpChaos.Proof.RunnerContract

namespace ChimpChaos

open Library Program

/-! ### The metrics of a process -/

abbrev ProcessHistory : Type := List (Exchange ProcessCall ProcessAnswer)

def scenarioExchange : Exchange ProcessCall ProcessAnswer →
    Option (Exchange RunnerCall RunnerAnswer)
  | ⟨.scenario request, answer⟩ => some ⟨request, answer⟩
  | _ => none

/-- What a process has exchanged for its scenario. -/
def scenarioHistory (history : ProcessHistory) : ScenarioHistory :=
  history.filterMap scenarioExchange

/-- The metrics after some exchanges. -/
def metricsAfter : ProcessHistory → RunnerMetrics
  | [] => .fresh
  | ⟨.update change, _⟩ :: earlier => change.apply (metricsAfter earlier)
  | _ :: earlier => metricsAfter earlier

/-- The metrics while the scenario runs. -/
def RunnerConfig.activeMetrics (config : RunnerConfig) : RunnerMetrics :=
  RunnerMetrics.fresh.setActive config.experimentId config.scenario.toString

/-- The metrics when the scenario has ended. -/
def RunnerConfig.recordedMetrics (config : RunnerConfig) (elapsed : F64) :
    Except RunnerError UInt32 → RunnerMetrics
  | .ok targets => ((config.activeMetrics.observeDuration elapsed).recordSuccess
      config.scenario.toString).setTargets targets
  | .error _ => (config.activeMetrics.observeDuration elapsed).recordFailure
      config.scenario.toString

/-! ### The contract of a process -/

/-- A process makes the calls of its scenario while the metrics call it active, and calls it
inactive when it has tried to remove what it has added. -/
def ProcessAllowed (config : RunnerConfig) (history : ProcessHistory) : ProcessCall → Prop
  | .scenario request => metricsAfter history = config.activeMetrics ∧
    ScenarioAllowed config (scenarioHistory history) request
  | .update (.setInactive ..) => ∀ delay, Added (scenarioHistory history) delay →
    ∃ answer, RemovalTried (scenarioHistory history) delay answer
  | _ => True

/-- A process ends when the end of its scenario is recorded and the gauge is reset, and it ends as
the scenario did. -/
def ProcessEnds (config : RunnerConfig) (history : ProcessHistory)
    (ended : Except RunnerError Unit) : Prop :=
  ∃ result elapsed, ended = result.map (fun _ => ()) ∧
    ScenarioEnds config (scenarioHistory history) result ∧
      metricsAfter history = (config.recordedMetrics elapsed result).setInactive
        config.experimentId config.scenario.toString

section Process

variable {config : RunnerConfig}

/-- The scenario within its process. -/
theorem scenario_follows (start : ProcessHistory)
    (active : metricsAfter start = config.activeMetrics) (unused : scenarioHistory start = []) :
    ((executeScenario config).inject ProcessCall.scenario fun _ answer => answer).Follows
      (ProcessAllowed config)
      (fun later result => metricsAfter later = config.activeMetrics ∧
        ScenarioEnds config (scenarioHistory later) result) start := by
  refine (executeScenario_follows config).inject_related
    (fun own larger => metricsAfter larger = config.activeMetrics ∧ scenarioHistory larger = own)
    ⟨active, unused⟩ ?_ ?_ ?_
  · rintro own larger request ⟨active, rfl⟩ allowed
    exact ⟨active, allowed⟩
  · rintro own larger request answer ⟨active, rfl⟩
    exact ⟨active, rfl⟩
  · rintro own larger result ⟨active, rfl⟩ ends
    exact ⟨active, ends⟩

/-- What follows the end of a scenario. -/
theorem recordResult_follows {result : Except RunnerError UInt32} {elapsed : F64}
    {history : ProcessHistory}
    (observed : metricsAfter history = config.activeMetrics.observeDuration elapsed)
    (ends : ScenarioEnds config (scenarioHistory history) result) :
    (recordResult config.scenario.toString result >>= fun _ =>
      updateMetrics (.setInactive config.experimentId config.scenario.toString) >>= fun _ =>
        (Program.ofExcept (result.map fun _ => ()) : ProcessRun Unit)).Follows
      (ProcessAllowed config) (ProcessEnds config) history := by
  cases result with
  | ok targets =>
    refine ⟨trivial, fun _ => ⟨trivial, fun _ => ⟨ends.removed, fun _ =>
      ⟨.ok targets, elapsed, rfl, ends, ?_⟩⟩⟩⟩
    simp only [metricsAfter, observed]
    rfl
  | error error =>
    refine ⟨trivial, fun _ => ⟨ends.removed, fun _ => ⟨.error error, elapsed, rfl, ends, ?_⟩⟩⟩
    simp only [metricsAfter, observed]
    rfl

theorem run_follows (config : RunnerConfig) :
    config.run.Follows (ProcessAllowed config) (ProcessEnds config) [] := by
  unfold RunnerConfig.run
  rw [RunnerMetrics.new_nil]
  refine ⟨trivial, fun _ => ⟨trivial, fun _ => ⟨trivial, fun start => ?_⟩⟩⟩
  have ran : (((executeScenario config).inject ProcessCall.scenario
      fun _ answer => answer).attempt).Follows (ProcessAllowed config)
      (fun later outcome => ∃ result, outcome = .ok result ∧
        metricsAfter later = config.activeMetrics ∧
          ScenarioEnds config (scenarioHistory later) result) _ :=
    (scenario_follows [⟨.now, start⟩, ⟨.update (.setActive config.experimentId
      config.scenario.toString), ()⟩, ⟨.startServer config.metricsPort, ()⟩] rfl rfl).attempt
      fun later result ended => ⟨result, rfl, ended⟩
  refine ran.bind ?_ ?_
  · rintro later _ ⟨result, ⟨⟩, active, ends⟩
    refine ⟨trivial, fun elapsed => ⟨trivial, fun _ => ?_⟩⟩
    have observed : metricsAfter (⟨.update (.observeDuration elapsed), ()⟩ ::
        ⟨.elapsed start, elapsed⟩ :: later) = config.activeMetrics.observeDuration elapsed := by
      simp only [metricsAfter, active]
      rfl
    exact recordResult_follows observed ends
  · rintro later error ⟨result, same, -⟩
    cases same

end Process

/-! ### What the metrics tell -/

/-- The label of a result. -/
def resultLabel : Except RunnerError Unit → String
  | .ok _ => "success"
  | .error _ => "failure"

/-- The metrics of a world are the ones that its history leaves. -/
theorem metrics_step {history : ProcessHistory} {request : ProcessCall}
    {before after : RunnerWorld} {answer : ProcessAnswer request}
    (kept : before.metrics = metricsAfter history)
    (step : RunnerWorld.step request before answer after) :
    after.metrics = metricsAfter (⟨request, answer⟩ :: history) := by
  cases request with
  | update change =>
    obtain rfl : after = { before with metrics := change.apply before.metrics } := step
    exact congrArg change.apply kept
  | scenario request =>
    cases request with
    | command program args => exact step.1.trans kept
    | _ =>
      obtain rfl : after = before := step
      exact kept
  | _ =>
    obtain rfl : after = before := step
    exact kept

/-- How many targets have been affected does not depend on the order of the exchanges. -/
theorem affectedTargets_reverse (config : RunnerConfig) (history : ProcessHistory) :
    affectedTargets config (scenarioHistory history.reverse) =
      affectedTargets config (scenarioHistory history) := by
  unfold affectedTargets scenarioHistory
  rw [List.filterMap_reverse, List.countP_reverse]

section Stopped

variable {config : RunnerConfig} {interfaces : Interfaces} {trace : ProcessHistory}
  {rest : ProcessRun Unit} {final : RunnerWorld}

/-- Wherever a process is stopped: before a call of its scenario the gauge is set and nothing has
been counted; at its end the gauge is reset, one end has been counted, with the result that the
process ends with, and the targets are the ones affected. -/
theorem runnerMetrics_truthful
    (run : Reaches RunnerWorld.step config.run ⟨.fresh, interfaces⟩ trace rest final) :
    (∀ request next, rest = .call (.scenario request) next →
      final.metrics.injectionActive.lookup (config.experimentId, config.scenario.toString) =
          some (.finite 1) ∧
        final.metrics.injectionTotal = ∅ ∧ final.metrics.injectionDuration = []) ∧
    (∀ ended, rest = Program.ofExcept ended →
      final.metrics.injectionActive.lookup (config.experimentId, config.scenario.toString) =
          some .zero ∧
        (∀ labels, final.metrics.injectionTotal.lookup labels =
          if labels = (config.scenario.toString, resultLabel ended) then some 1 else none) ∧
        (∃ elapsed, final.metrics.injectionDuration = [elapsed]) ∧
        (ended = .ok () → final.metrics.targetsAffected =
          .finite (affectedTargets config (scenarioHistory trace)).toNat)) := by
  obtain ⟨kept, follows⟩ := Reaches.invariant
    (fun earlier _ before _ _ (kept : before.metrics = metricsAfter earlier) _ step =>
      metrics_step kept step) run (run_follows config) rfl
  rw [List.append_nil] at kept follows
  constructor
  · rintro request next rfl
    obtain ⟨active, -⟩ := follows.1
    rw [kept, active]
    exact ⟨AList.lookup_insert _, rfl, rfl⟩
  · rintro ended rfl
    have ends : ProcessEnds config trace.reverse ended := by
      cases ended with
      | ok value => exact follows
      | error error => exact follows
    obtain ⟨result, elapsed, rfl, scenario, recorded⟩ := ends
    rw [kept, recorded]
    cases result with
    | ok targets =>
      refine ⟨AList.lookup_insert _, fun labels => ?_, ⟨elapsed, rfl⟩, fun _ => ?_⟩
      · show (AList.insert _ _ ∅).lookup labels = _
        by_cases same : labels = (config.scenario.toString, "success")
        · rw [same, AList.lookup_insert]
          exact (if_pos rfl).symm
        · rw [AList.lookup_insert_ne same]
          exact (if_neg same).symm
      · rw [← affectedTargets_reverse, ← scenario.targets targets rfl]
        rfl
    | error error =>
      refine ⟨AList.lookup_insert _, fun labels => ?_, ⟨elapsed, rfl⟩, fun same => nomatch same⟩
      show (AList.insert _ _ ∅).lookup labels = _
      by_cases same : labels = (config.scenario.toString, "failure")
      · rw [same, AList.lookup_insert]
        exact (if_pos rfl).symm
      · rw [AList.lookup_insert_ne same]
        exact (if_neg same).symm

end Stopped

/-! ### What a process leaves on the interfaces -/

/-- The gauge of the process says that the fault is active. -/
def RunnerConfig.ShowsActive (config : RunnerConfig) (metrics : RunnerMetrics) : Prop :=
  metrics.injectionActive.lookup (config.experimentId, config.scenario.toString) =
    some (.finite 1)

/-- The interfaces are those that the scenario leaves, and what has been added is shown as active
or has been tried to remove. -/
structure Contained (config : RunnerConfig) (initial : Interfaces) (history : ProcessHistory)
    (world : RunnerWorld) : Prop where
  metrics : world.metrics = metricsAfter history
  interfaces : InterfacesAfter config initial (scenarioHistory history) world.interfaces
  shown : config.ShowsActive (metricsAfter history) ∨
    ∀ delay, Added (scenarioHistory history) delay →
      ∃ answer, RemovalTried (scenarioHistory history) delay answer

section Contained

variable {config : RunnerConfig} {initial : Interfaces} {history : ProcessHistory}
  {before after : RunnerWorld}

theorem showsActive_activeMetrics (config : RunnerConfig) :
    config.ShowsActive config.activeMetrics := AList.lookup_insert _

/-- Only one change of the metrics resets the gauge. -/
theorem shown_update {change : MetricsUpdate} {metrics : RunnerMetrics}
    (allowed : ∀ experimentId scenario, change ≠ .setInactive experimentId scenario)
    (shown : config.ShowsActive metrics) : config.ShowsActive (change.apply metrics) := by
  cases change with
  | setActive experimentId scenario =>
    show (AList.insert _ _ _).lookup _ = _
    by_cases same : (config.experimentId, config.scenario.toString) = (experimentId, scenario)
    · rw [same, AList.lookup_insert]
    · rw [AList.lookup_insert_ne same]
      exact shown
  | setInactive experimentId scenario => exact absurd rfl (allowed experimentId scenario)
  | _ => exact shown

/-- Every call of a process keeps its faults contained. -/
theorem Contained.step (contained : Contained config initial history before)
    {request : ProcessCall} {answer : ProcessAnswer request}
    (allowed : ProcessAllowed config history request)
    (step : RunnerWorld.step request before answer after) :
    Contained config initial (⟨request, answer⟩ :: history) after := by
  refine ⟨metrics_step contained.metrics step, ?_, ?_⟩
  · cases request with
    | update change =>
      obtain rfl : after = { before with metrics := change.apply before.metrics } := step
      exact contained.interfaces
    | scenario request =>
      cases request with
      | command program args => exact contained.interfaces.command allowed.2 step.2
      | _ =>
        obtain rfl : after = before := step
        exact contained.interfaces.other
          (fun _ same => by injection same with same; cases same)
          fun _ same => by injection same with same; cases same
    | _ =>
      obtain rfl : after = before := step
      exact contained.interfaces
  · cases request with
    | scenario request =>
      left
      show config.ShowsActive (metricsAfter history)
      rw [allowed.1]
      exact showsActive_activeMetrics config
    | update change =>
      by_cases reset : ∃ experimentId scenario, change = .setInactive experimentId scenario
      · obtain ⟨experimentId, scenario, rfl⟩ := reset
        exact .inr allowed
      · refine contained.shown.imp_left (shown_update fun experimentId scenario same => ?_)
        exact reset ⟨experimentId, scenario, same⟩
    | _ => exact contained.shown

end Contained

/-- Wherever a process is stopped, each interface is as it was, or it was free and has the delay
that the configuration asks for; and then the gauge says so, or the removal has failed. -/
theorem networkDelay_contained {config : RunnerConfig} {interfaces : Interfaces}
    {trace : ProcessHistory} {rest : ProcessRun Unit} {final : RunnerWorld}
    (run : Reaches RunnerWorld.step config.run ⟨.fresh, interfaces⟩ trace rest final)
    (interface : String) :
    final.interfaces.lookup interface = interfaces.lookup interface ∨
      ∃ delay, config.Delays delay ∧ delay.interface = interface ∧
        interfaces.lookup interface = none ∧
        final.interfaces.lookup interface = some delay.netem ∧
        (config.ShowsActive final.metrics ∨
          ∃ answer, answer ≠ .ok (some 0) ∧
            RemovalTried (scenarioHistory trace) delay answer) := by
  have start : Contained config interfaces [] ⟨.fresh, interfaces⟩ :=
    ⟨rfl, ⟨fun _ => .inl rfl, fun _ added => absurd added List.not_mem_nil⟩,
      .inr fun _ added => absurd added List.not_mem_nil⟩
  have contained : Contained config interfaces (trace.reverse ++ []) final :=
    (Reaches.invariant (fun earlier _ before _ _
      (kept : Contained config interfaces earlier before) allowed step =>
        kept.step allowed step) run (run_follows config) start).1
  rw [List.append_nil] at contained
  obtain same | ⟨delay, delays, rfl, shown, added, stays⟩ := contained.interfaces.each interface
  · exact .inl same
  refine .inr ⟨delay, delays, rfl, contained.interfaces.free delay added, shown, ?_⟩
  rw [contained.metrics]
  refine contained.shown.imp_right fun tried => ?_
  obtain ⟨answer, removal⟩ := tried delay added
  refine ⟨answer, fun success => stays (success ▸ removal), ?_⟩
  rw [RemovalTried, scenarioHistory, List.filterMap_reverse, List.mem_reverse] at removal
  exact removal

/-! ### A delay that stays -/

/-- A command on a node on which disciplines can be added, and are deleted or not. -/
def sampleCommand (deletes : Bool) (program : String) (args : List String)
    (interfaces : Interfaces) : Except String (Option Int) × Interfaces :=
  match TcCommand.ofArgs? program args with
  | none => (.ok (some 0), interfaces)
  | some command =>
    match command.effect interfaces with
    | none => (.ok (some 2), interfaces)
    | some after =>
      if deletes || command != .del "eth0" then (.ok (some 0), after)
      else (.ok (some 2), interfaces)

theorem sampleCommand_runs (deletes : Bool) (program : String) (args : List String)
    (interfaces : Interfaces) :
    RunsProgram program args interfaces (sampleCommand deletes program args interfaces).1
      (sampleCommand deletes program args interfaces).2 := by
  unfold sampleCommand RunsProgram
  cases TcCommand.ofArgs? program args with
  | none => rfl
  | some command =>
    dsimp only
    cases command.effect interfaces with
    | none => exact .inr ⟨by simp, rfl⟩
    | some after =>
      dsimp only
      split_ifs
      · exact .inl ⟨rfl, rfl⟩
      · exact .inr ⟨by simp, rfl⟩

/-- The calls of a process on this node. -/
def sampleNode (deletes : Bool) : (request : ProcessCall) → RunnerWorld →
    ProcessAnswer request × RunnerWorld
  | .update change, world => ((), { world with metrics := change.apply world.metrics })
  | .scenario (.command program args), world =>
    let ran := sampleCommand deletes program args world.interfaces
    (ran.1, { world with interfaces := ran.2 })
  | .scenario .connect, world => (.ok (), world)
  | .scenario (.pods (.listPods ..)), world => (.ok [], world)
  | .scenario (.pods (.deletePod ..)), world => (.ok (), world)
  | .scenario (.sleep _), world => ((), world)
  | .startServer _, world => ((), world)
  | .now, world => (0, world)
  | .elapsed _, world => (.finite 5, world)

theorem sampleNode_steps (deletes : Bool) (request : ProcessCall) (world : RunnerWorld) :
    RunnerWorld.step request world (sampleNode deletes request world).1
      (sampleNode deletes request world).2 := by
  cases request with
  | scenario request =>
    cases request with
    | command program args => exact ⟨rfl, sampleCommand_runs deletes program args _⟩
    | pods request => cases request <;> rfl
    | _ => rfl
  | _ => rfl

/-- A delay of 200 milliseconds for 5 seconds. -/
def sampleDelayConfig : RunnerConfig where
  experimentId := sampleUid
  scenario := .networkDelay
  duration := 5
  parameters := .object [("delayMs", .number (.posInt 200))]
  metricsPort := 9090

theorem runnerMetrics_truthful_sample :
    let final := (exec (sampleNode true) sampleDelayConfig.run ⟨.fresh, ∅⟩).2
    final.metrics.injectionTotal.lookup ("NetworkDelay", "success") = some 1 ∧
      final.metrics.targetsAffected = .finite 1 := by
  have ended : (exec (sampleNode true) sampleDelayConfig.run ⟨.fresh, ∅⟩).1 = .returned () := by
    decide +kernel
  obtain ⟨-, counted, -, targets⟩ := (runnerMetrics_truthful (reaches_serving
    (sampleNode_steps true) sampleDelayConfig.run ⟨.fresh, ∅⟩)).2 (.ok ()) (by rw [ended]; rfl)
  exact ⟨(counted ("NetworkDelay", "success")).trans (if_pos rfl), targets rfl⟩

/-- A delay whose removal fails stays after the end of its runner. -/
theorem networkDelay_contained_sample :
    let final := (exec (sampleNode false) sampleDelayConfig.run ⟨.fresh, ∅⟩).2
    let trace := sampleDelayConfig.run.transcript (sampleNode false) ⟨.fresh, ∅⟩
    final.interfaces.lookup "eth0" = some ⟨"200ms", "0ms"⟩ ∧
      ∃ delay answer, answer ≠ .ok (some 0) ∧
        RemovalTried (scenarioHistory trace) delay answer := by
  intro final trace
  have stays : final.interfaces.lookup "eth0" = some ⟨"200ms", "0ms"⟩ := by decide +kernel
  have inactive : final.metrics.injectionActive.lookup (sampleUid, "NetworkDelay") =
      some .zero := by decide +kernel
  obtain same | ⟨delay, -, -, -, -, active | ⟨answer, failed, tried⟩⟩ :=
    networkDelay_contained (reaches_serving (sampleNode_steps false) sampleDelayConfig.run
      ⟨.fresh, ∅⟩) "eth0"
  · rw [stays] at same
    cases same
  · exact absurd (inactive.symm.trans active) (by decide)
  · exact ⟨stays, delay, answer, failed, tried⟩

end ChimpChaos
