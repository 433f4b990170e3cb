/-
This file proves what the scenarios of a runner do to its node and what they report.

A scenario adds the delay of its configuration at most once, deletes only what it has added, and
does not end before it has tried to. What it returns is the number of targets it has affected.
-/

import ChimpChaos.Library.Histories
import ChimpChaos.Runner.World

namespace ChimpChaos

open Library Program

/-! ### The exchanges of a scenario -/

abbrev ScenarioHistory : Type := List (Exchange RunnerCall RunnerAnswer)

def NetworkDelay.addArgs (delay : NetworkDelay) : List String :=
  ["qdisc", "add", "dev", delay.interface, "root", "netem", "delay", delay.netem.delay,
    delay.netem.jitter]

def NetworkDelay.delArgs (delay : NetworkDelay) : List String :=
  ["qdisc", "del", "dev", delay.interface, "root"]

/-- The delay has been put on its interface. -/
def Added (history : ScenarioHistory) (delay : NetworkDelay) : Prop :=
  ⟨.command "tc" delay.addArgs, .ok (some 0)⟩ ∈ history

/-- The removal of the delay has been tried, with some answer. -/
def RemovalTried (history : ScenarioHistory) (delay : NetworkDelay)
    (answer : Except String (Option Int)) : Prop :=
  ⟨.command "tc" delay.delArgs, answer⟩ ∈ history

/-- A Pod has been deleted. -/
def isDeletion : Exchange RunnerCall RunnerAnswer → Bool
  | ⟨.pods (.deletePod ..), .ok _⟩ => true
  | _ => false

/-- How many targets a scenario affects. -/
def affectedTargets (config : RunnerConfig) (history : ScenarioHistory) : UInt32 :=
  match config.scenario with
  | .podKiller => UInt32.ofNat (history.countP isDeletion)
  | .cpuStress =>
    match CpuStress.parseConfig config.parameters config.duration with
    | .ok (cores, _) => cores
    | .error _ => 0
  | .networkDelay => 1
  | .edgeDelay | .edgeAbort => 0

/-- No program has been run. -/
def Quiet (history : ScenarioHistory) : Prop :=
  ∀ exchange ∈ history, ∀ program args, exchange.1 ≠ .command program args

/-- What a scenario may do to the interfaces: add the delay of its configuration at first, and
delete it when it has added it. -/
def ScenarioAllowed (config : RunnerConfig) (history : ScenarioHistory) :
    RunnerCall → Prop
  | .command program args => ∀ command, TcCommand.ofArgs? program args = some command →
    ∃ delay, config.Delays delay ∧ program = "tc" ∧
      (args = delay.addArgs ∧ Quiet history ∨
        args = delay.delArgs ∧ Added history delay)
  | _ => True

/-- A scenario has tried to remove what it has added, and reports the targets it has affected. -/
structure ScenarioEnds (config : RunnerConfig) (history : ScenarioHistory)
    (result : Except RunnerError UInt32) : Prop where
  removed : ∀ delay, Added history delay → ∃ answer, RemovalTried history delay answer
  targets : ∀ targets, result = .ok targets → targets = affectedTargets config history

section Scenarios

variable {config : RunnerConfig} {history : ScenarioHistory}

theorem added_cons {delay : NetworkDelay} {exchange : Exchange RunnerCall RunnerAnswer} :
    Added (exchange :: history) delay ↔
      ⟨.command "tc" delay.addArgs, .ok (some 0)⟩ = exchange ∨ Added history delay :=
  List.mem_cons

theorem quiet_nil : Quiet [] := fun _ absent => absurd absent List.not_mem_nil

theorem Quiet.not_added (quiet : Quiet history) (delay : NetworkDelay) : ¬ Added history delay :=
  fun added => quiet _ added _ _ rfl

theorem Quiet.not_removalTried (quiet : Quiet history) (delay : NetworkDelay)
    (answer : Except String (Option Int)) : ¬ RemovalTried history delay answer :=
  fun tried => quiet _ tried _ _ rfl

theorem deleteListed_follows (ns : String) (pods : List Pod) (deleted : UInt32)
    {history : List (Exchange PodCall PodAnswer)}
    (counted : deleted = UInt32.ofNat (history.countP fun exchange =>
      isDeletion ⟨.pods exchange.1, exchange.2⟩)) :
    (deleteListed ns pods deleted).Follows (fun _ _ => True)
      (fun later result => ∀ targets, result = .ok targets →
        targets = UInt32.ofNat (later.countP fun exchange =>
          isDeletion ⟨.pods exchange.1, exchange.2⟩)) history := by
  induction pods generalizing deleted history with
  | nil =>
    intro targets same
    exact (Except.ok.inj same).symm.trans counted
  | cons pod rest inductionHypothesis =>
    rw [deleteListed]
    cases pod.metadata.name with
    | none => exact inductionHypothesis deleted counted
    | some name =>
      refine ⟨trivial, fun answer => ?_⟩
      cases answer with
      | error error =>
        intro targets same
        cases same
      | ok value =>
        refine inductionHypothesis (deleted + 1) ?_
        rw [List.countP_cons_of_pos rfl, counted, UInt32.ofNat_add]
        rfl

/-- A scenario that fails before it has done anything, or that has run no program. -/
theorem scenarioEnds_of_quiet {result : Except RunnerError UInt32} (quiet : Quiet history)
    (targets : ∀ targets, result = .ok targets → targets = affectedTargets config history) :
    ScenarioEnds config history result :=
  ⟨fun delay added => absurd added (quiet.not_added delay), targets⟩

theorem execute_follows (killer : PodKiller) :
    killer.execute.Follows (fun _ _ => True)
      (fun later result => ∀ targets, result = .ok targets →
        targets = UInt32.ofNat (later.countP fun exchange =>
          isDeletion ⟨.pods exchange.1, exchange.2⟩)) [] := by
  rw [execute_eq]
  refine ⟨trivial, fun answer => ?_⟩
  cases answer with
  | error error => exact fun _ same => nomatch same
  | ok pods => exact deleteListed_follows killer.ns pods 0 rfl

theorem podKiller_follows (scenario : config.scenario = .podKiller) :
    (executeScenario config).Follows (ScenarioAllowed config) (ScenarioEnds config) [] := by
  unfold executeScenario
  rw [scenario]
  dsimp only
  cases PodKiller.parseConfig config.parameters with
  | error error =>
    exact scenarioEnds_of_quiet quiet_nil fun _ same => nomatch same
  | ok settings =>
    refine ⟨trivial, fun answer => ?_⟩
    have connected : Quiet [⟨.connect, answer⟩] := by
      rintro _ member program args same
      obtain rfl := List.mem_singleton.mp member
      cases same
    cases answer with
    | error text => exact scenarioEnds_of_quiet connected fun _ same => nomatch same
    | ok value =>
      refine (execute_follows ⟨settings.1, settings.2⟩).inject_related
        (fun own larger => larger =
          own.map (fun exchange => ⟨.pods exchange.1, exchange.2⟩) ++ [⟨.connect, .ok value⟩])
        rfl (fun _ _ _ _ _ => trivial) ?_ ?_
      · rintro own _ request answer rfl
        rfl
      · rintro own _ result rfl counted
        refine scenarioEnds_of_quiet ?_ fun targets same => (counted targets same).trans ?_
        · intro exchange member
          rcases List.mem_append.mp member with member | member
          · obtain ⟨pods, -, rfl⟩ := List.mem_map.mp member
            exact fun _ _ same => nomatch same
          · exact connected exchange member
        · rw [affectedTargets, scenario, List.countP_append, List.countP_map]
          rfl

theorem cpuStress_follows (scenario : config.scenario = .cpuStress) :
    (executeScenario config).Follows (ScenarioAllowed config) (ScenarioEnds config) [] := by
  unfold executeScenario
  rw [scenario]
  dsimp only
  cases parsed : CpuStress.parseConfig config.parameters config.duration with
  | error error =>
    exact scenarioEnds_of_quiet quiet_nil fun _ same => nomatch same
  | ok settings =>
    refine ⟨fun command same => (nomatch same), fun answer => ?_⟩
    -- The program is not the traffic control program.
    have removed (result : Except RunnerError UInt32)
        (targets : ∀ targets, result = .ok targets → targets = settings.1) :
        ScenarioEnds config [⟨.command "stress-ng" ["--cpu", toString settings.1, "--cpu-load",
          toString settings.2, "--timeout", toString config.duration ++ "s"], answer⟩] result := by
      refine ⟨fun delay added => ?_, fun count same => (targets count same).trans ?_⟩
      · have same := List.mem_singleton.mp added
        injection same with same
        injection same with program
        exact absurd program (by decide)
      · rw [affectedTargets, scenario, parsed]
    cases ended : commandResult "stress-ng" answer with
    | error error =>
      show Follows _ _ (Program.ofExcept (commandResult "stress-ng" answer) >>= _) _
      rw [ended]
      exact removed _ fun _ same => nomatch same
    | ok value =>
      show Follows _ _ (Program.ofExcept (commandResult "stress-ng" answer) >>= _) _
      rw [ended]
      exact removed _ fun _ same => (Except.ok.inj same).symm

/-- Delays that are added alike are on one interface. -/
theorem delArgs_of_addArgs {delay other : NetworkDelay} (same : delay.addArgs = other.addArgs) :
    delay.interface = other.interface ∧ delay.delArgs = other.delArgs := by
  have interface : delay.interface = other.interface := by
    simp only [NetworkDelay.addArgs, List.cons.injEq] at same
    exact same.2.2.2.1
  exact ⟨interface, by rw [NetworkDelay.delArgs, NetworkDelay.delArgs, interface]⟩

/-- A program has succeeded just when it has exited with zero. -/
theorem commandResult_eq_ok_iff {program : String} {answer : Except String (Option Int)} :
    commandResult program answer = .ok () ↔ answer = .ok (some 0) := by
  cases answer with
  | error text => exact ⟨fun same => (nomatch same), fun same => (nomatch same)⟩
  | ok code =>
    rw [commandResult]
    split_ifs with zero
    · rw [zero]
      exact ⟨fun _ => rfl, fun _ => rfl⟩
    · exact ⟨fun same => (nomatch same), fun same => absurd (Except.ok.inj same) zero⟩

theorem networkDelay_follows (scenario : config.scenario = .networkDelay) :
    (executeScenario config).Follows (ScenarioAllowed config) (ScenarioEnds config) [] := by
  unfold executeScenario
  rw [scenario]
  dsimp only
  cases parsed : NetworkDelay.parseConfig config.parameters with
  | error error =>
    exact scenarioEnds_of_quiet quiet_nil fun _ same => nomatch same
  | ok settings =>
    obtain ⟨interface, delayMs, jitterMs⟩ := settings
    let delay : NetworkDelay := ⟨interface, delayMs, jitterMs, config.duration⟩
    have delays : config.Delays delay := ⟨scenario, parsed, rfl⟩
    refine ⟨fun command _ => ⟨delay, delays, rfl, .inl ⟨rfl, quiet_nil⟩⟩,
      fun answer => ?_⟩
    show Follows _ _ (Program.ofExcept (commandResult "tc" answer) >>= _) _
    cases ended : commandResult "tc" answer with
    | error error =>
      refine ⟨fun other added => ?_, fun _ same => nomatch same⟩
      -- The command has failed, so nothing has been added.
      have same := List.mem_singleton.mp added
      injection same with _ same
      rw [commandResult_eq_ok_iff.mpr same.symm] at ended
      cases ended
    | ok value =>
      obtain rfl := commandResult_eq_ok_iff.mp ended
      refine ⟨trivial, fun slept => ⟨fun command _ => ⟨delay, delays, rfl, .inr ⟨rfl,
        List.mem_cons_of_mem _ List.mem_cons_self⟩⟩, fun removal => ?_⟩⟩
      have ends : ScenarioEnds config [⟨.command "tc" delay.delArgs, removal⟩,
          ⟨.sleep config.duration, slept⟩, ⟨.command "tc" delay.addArgs, .ok (some 0)⟩]
          (.ok 1) := by
        refine ⟨fun other added => ⟨removal, ?_⟩, fun count same => ?_⟩
        · rcases added_cons.mp added with same | added
          · injection same with same
            injection same with _ same
            simp [NetworkDelay.addArgs, NetworkDelay.delArgs] at same
          · rcases added_cons.mp added with same | added
            · injection same with same
              cases same
            · have same := List.mem_singleton.mp added
              injection same with same
              injection same with _ same
              rw [RemovalTried, (delArgs_of_addArgs same).2]
              exact List.mem_cons_self
        · rw [affectedTargets, scenario]
          exact (Except.ok.inj same).symm
      show Follows _ _ (((Program.ofExcept (commandResult "tc" removal)).attempt >>=
        fun _ => pure ()) >>= fun _ => pure 1) _
      cases commandResult "tc" removal with
      | error error => exact ends
      | ok value => exact ends

theorem executeScenario_follows (config : RunnerConfig) :
    (executeScenario config).Follows (ScenarioAllowed config) (ScenarioEnds config) [] := by
  cases scenario : config.scenario with
  | podKiller => exact podKiller_follows scenario
  | cpuStress => exact cpuStress_follows scenario
  | networkDelay => exact networkDelay_follows scenario
  | edgeDelay | edgeAbort =>
    unfold executeScenario
    rw [scenario]
    exact scenarioEnds_of_quiet quiet_nil fun _ same => nomatch same

end Scenarios

/-! ### The interfaces -/

/-- What exchanges of a scenario make of the interfaces: each is as it was, or it was free and has
the delay of the configuration, which has been added and not been removed. -/
structure InterfacesAfter (config : RunnerConfig) (initial : Interfaces)
    (history : ScenarioHistory) (interfaces : Interfaces) : Prop where
  each : ∀ interface, interfaces.lookup interface = initial.lookup interface ∨
    ∃ delay, config.Delays delay ∧ delay.interface = interface ∧
      interfaces.lookup interface = some delay.netem ∧ Added history delay ∧
      ¬ RemovalTried history delay (.ok (some 0))
  free : ∀ delay, Added history delay → initial.lookup delay.interface = none

theorem RunnerConfig.Delays.unique {config : RunnerConfig} {delay other : NetworkDelay}
    (delays : config.Delays delay) (delays' : config.Delays other) : delay = other := by
  have same := Except.ok.inj (delays.2.1.symm.trans delays'.2.1)
  obtain ⟨interface, delayMs, jitterMs, durationSecs⟩ := delay
  obtain ⟨interface', delayMs', jitterMs', durationSecs'⟩ := other
  simp only [Prod.mk.injEq] at same
  obtain ⟨rfl, rfl, rfl⟩ := same
  obtain rfl : durationSecs = durationSecs' := delays.2.2.trans delays'.2.2.symm
  rfl

namespace InterfacesAfter

variable {config : RunnerConfig} {initial before after : Interfaces} {history : ScenarioHistory}
  {delay : NetworkDelay}

/-- While no command has run the interfaces are as they were. -/
theorem eq_initial (kept : InterfacesAfter config initial history before) (quiet : Quiet history)
    (interface : String) : before.lookup interface = initial.lookup interface := by
  rcases kept.each interface with same | ⟨delay, -, -, -, added, -⟩
  · exact same
  · exact absurd added (quiet.not_added delay)

/-- An exchange that neither adds nor removes anything. -/
theorem other (kept : InterfacesAfter config initial history before)
    {exchange : Exchange RunnerCall RunnerAnswer}
    (adds : ∀ delay : NetworkDelay, ⟨.command "tc" delay.addArgs, .ok (some 0)⟩ ≠ exchange)
    (removes : ∀ delay : NetworkDelay, ⟨.command "tc" delay.delArgs, .ok (some 0)⟩ ≠ exchange) :
    InterfacesAfter config initial (exchange :: history) before where
  each interface := by
    rcases kept.each interface with same | ⟨delay, delays, place, shown, added, stays⟩
    · exact .inl same
    · refine .inr ⟨delay, delays, place, shown, List.mem_cons_of_mem _ added, fun tried => ?_⟩
      rcases List.mem_cons.mp tried with same | earlier
      · exact removes delay same
      · exact stays earlier
  free delay added := by
    rcases added_cons.mp added with same | earlier
    · exact absurd same (adds delay)
    · exact kept.free delay earlier

theorem add (kept : InterfacesAfter config initial history before) (quiet : Quiet history)
    (delays : config.Delays delay)
    (effect : (TcCommand.add delay.interface delay.netem).effect before = some after) :
    InterfacesAfter config initial
      (⟨.command "tc" delay.addArgs, .ok (some 0)⟩ :: history) after := by
  obtain ⟨unused, rfl⟩ := TcCommand.effect_add_eq_some.mp effect
  have free : initial.lookup delay.interface = none :=
    (kept.eq_initial quiet delay.interface).symm.trans unused
  refine ⟨fun interface => ?_, fun other added => ?_⟩
  · by_cases here : interface = delay.interface
    · refine .inr ⟨delay, delays, here.symm, ?_, List.mem_cons_self, fun tried => ?_⟩
      · rw [here, AList.lookup_insert]
      · rcases List.mem_cons.mp tried with same | earlier
        · injection same with same
          injection same with _ same
          simp [NetworkDelay.addArgs, NetworkDelay.delArgs] at same
        · exact quiet.not_removalTried delay _ earlier
    · exact .inl ((AList.lookup_insert_ne here).trans (kept.eq_initial quiet interface))
  · rcases added_cons.mp added with same | earlier
    · injection same with same
      injection same with _ same
      rw [(delArgs_of_addArgs same).1]
      exact free
    · exact absurd earlier (quiet.not_added other)

theorem remove (kept : InterfacesAfter config initial history before)
    (delays : config.Delays delay) (added : Added history delay)
    (effect : (TcCommand.del delay.interface).effect before = some after) :
    InterfacesAfter config initial
      (⟨.command "tc" delay.delArgs, .ok (some 0)⟩ :: history) after := by
  obtain ⟨-, rfl⟩ := TcCommand.effect_del_eq_some.mp effect
  refine ⟨fun interface => .inl ?_, fun other added => ?_⟩
  · by_cases here : interface = delay.interface
    · rw [here, AList.lookup_erase, kept.free delay added]
    · rw [AList.lookup_erase_ne here]
      rcases kept.each interface with same | ⟨other, delays', place, -⟩
      · exact same
      · exact absurd (place.symm.trans (congrArg _ (delays'.unique delays))) here
  · rcases added_cons.mp added with same | earlier
    · injection same with same
      injection same with _ same
      simp [NetworkDelay.addArgs, NetworkDelay.delArgs] at same
    · exact kept.free other earlier

/-- One command of a scenario. -/
theorem command (kept : InterfacesAfter config initial history before) {program : String}
    {args : List String} {answer : Except String (Option Int)}
    (allowed : ScenarioAllowed config history (.command program args))
    (runs : RunsProgram program args before answer after) :
    InterfacesAfter config initial (⟨.command program args, answer⟩ :: history) after := by
  unfold RunsProgram at runs
  cases parsed : TcCommand.ofArgs? program args with
  | none =>
    rw [parsed] at runs
    obtain rfl : after = before := runs
    refine kept.other (fun delay same => ?_) fun delay same => ?_
    · injection same with same
      injection same with tc same
      subst tc same
      cases parsed
    · injection same with same
      injection same with tc same
      subst tc same
      cases parsed
  | some command =>
    rw [parsed] at runs
    obtain ⟨delay, delays, rfl, own⟩ := allowed command parsed
    rcases runs with ⟨rfl, effect⟩ | ⟨failed, rfl⟩
    · rcases own with ⟨rfl, quiet⟩ | ⟨rfl, added⟩
      · obtain rfl : TcCommand.add delay.interface delay.netem = command :=
          Option.some.inj parsed
        exact kept.add quiet delays effect
      · obtain rfl : TcCommand.del delay.interface = command := Option.some.inj parsed
        exact kept.remove delays added effect
    · -- A command that has failed has had no effect.
      refine kept.other (fun delay same => ?_) fun delay same => ?_
      · injection same with same answered
        injection same with _ same
        subst same
        exact failed answered.symm
      · injection same with same answered
        injection same with _ same
        subst same
        exact failed answered.symm

end InterfacesAfter

end ChimpChaos
