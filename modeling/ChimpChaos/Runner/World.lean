/-
This file models what a runner works on: its metrics and the network interfaces it sees.

An interface has at most one queueing discipline of the runner's kind. The traffic control program
adds one where there is none and deletes one where there is one; it exits with zero just when it
has done so.
-/

import ChimpChaos.Runner.Entry

namespace ChimpChaos

open Library

/-- A queueing discipline that delays packets: the texts of the delay and the jitter. -/
structure Netem where
  delay : String
  jitter : String
  deriving DecidableEq, Repr

abbrev Interfaces : Type := Store String Netem

/-- The commands of the traffic control program that a runner uses. -/
inductive TcCommand where
  | add (interface : String) (netem : Netem)
  | del (interface : String)
  deriving DecidableEq, Repr

namespace TcCommand

def ofArgs? : String → List String → Option TcCommand
  | "tc", ["qdisc", "add", "dev", interface, "root", "netem", "delay", delay, jitter] =>
    some (.add interface ⟨delay, jitter⟩)
  | "tc", ["qdisc", "del", "dev", interface, "root"] => some (.del interface)
  | _, _ => none

/-- What a command does to the interfaces, when it can be carried out. -/
def effect : TcCommand → Interfaces → Option Interfaces
  | .add interface netem, interfaces =>
    if (interfaces.lookup interface).isSome then none
    else some (AList.insert interface netem interfaces)
  | .del interface, interfaces =>
    if (interfaces.lookup interface).isSome then some (interfaces.erase interface) else none

section Effect

variable {interface : String} {netem : Netem} {before after : Interfaces}

theorem effect_add_eq_some : (add interface netem).effect before = some after ↔
    before.lookup interface = none ∧ AList.insert interface netem before = after := by
  rw [effect]
  split_ifs with taken
  · simp [Option.isSome_iff_ne_none.mp taken]
  · simp [Option.not_isSome_iff_eq_none.mp taken]

theorem effect_del_eq_some : (del interface).effect before = some after ↔
    before.lookup interface ≠ none ∧ before.erase interface = after := by
  rw [effect]
  split_ifs with taken
  · simp [Option.isSome_iff_ne_none.mp taken]
  · simp [Option.not_isSome_iff_eq_none.mp taken]

end Effect

end TcCommand

/-- A program runs and exits. Only the traffic control program changes the interfaces. -/
def RunsProgram (program : String) (args : List String) (before : Interfaces)
    (answer : Except String (Option Int)) (after : Interfaces) : Prop :=
  match TcCommand.ofArgs? program args with
  | none => after = before
  | some command => answer = .ok (some 0) ∧ command.effect before = some after ∨
    answer ≠ .ok (some 0) ∧ after = before

structure RunnerWorld where
  metrics : RunnerMetrics
  interfaces : Interfaces

/-- One call of the process. Whatever else is asked may be answered by anything. -/
def RunnerWorld.step : (request : ProcessCall) → RunnerWorld → ProcessAnswer request →
    RunnerWorld → Prop
  | .update change, before, _, after =>
    after = { before with metrics := change.apply before.metrics }
  | .scenario (.command program args), before, answer, after =>
    after.metrics = before.metrics ∧
      RunsProgram program args before.interfaces answer after.interfaces
  | .scenario .connect, before, _, after => after = before
  | .scenario (.pods _), before, _, after => after = before
  | .scenario (.sleep _), before, _, after => after = before
  | .startServer _, before, _, after => after = before
  | .now, before, _, after => after = before
  | .elapsed _, before, _, after => after = before

/-- The delay of a runner as the kernel has it. -/
def NetworkDelay.netem (delay : NetworkDelay) : Netem where
  delay := toString delay.delayMs ++ "ms"
  jitter := toString delay.jitterMs ++ "ms"

/-- A configuration asks for a delay. -/
def RunnerConfig.Delays (config : RunnerConfig) (delay : NetworkDelay) : Prop :=
  config.scenario = .networkDelay ∧
    NetworkDelay.parseConfig config.parameters =
      .ok (delay.interface, delay.delayMs, delay.jitterMs) ∧
    delay.durationSecs = config.duration

end ChimpChaos
