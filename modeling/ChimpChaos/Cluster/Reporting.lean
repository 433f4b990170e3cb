/-
This file puts a report next to the experiment controller.

The passes of a reporting controller read the status of an experiment, ask others, and write
one status document, while the passes of the experiment controller go on call by call. Passes of
the report may overlap, and each may begin on any version of the document. Everything they are
told is kept in a log, which no call reads.
-/

import ChimpChaos.Cluster.Interleaved
import ChimpChaos.Library.Pool

namespace ChimpChaos

open Library Relation

/-- The experiments at work, the document of a report, and what its passes have been told. -/
structure Reporting (Call : Type) (Answer : Call → Type) where
  system : System
  document : Json
  log : List (Exchange Call Answer)

variable {Tag Call : Type} {Answer : Call → Type}

/-- How passes of a report run: any number at once, in a system that works by itself. -/
def reporting (deployment : Deployment) (service : Service)
    (answers : (request : Call) → Cluster → Json → Answer request → Json → Prop)
    (launches : Tag → Program Call Answer OperatorError Unit → Prop) :
    Rules (Reporting Call Answer) Tag Call Answer OperatorError Unit where
  answers _ request before answer after := ∃ document,
    answers request before.system.cluster before.document answer document ∧
      after = { before with document, log := ⟨request, answer⟩ :: before.log }
  launches _ tag program := launches tag program
  outside before after := ∃ system,
    Operates deployment service before.system system ∧ after = { before with system }

/-- The pool in which no pass has begun and nothing has been told. -/
def idleReport (cluster : Cluster) (document : Json) :
    Pool (Reporting Call Answer) Tag Call Answer OperatorError Unit :=
  ⟨⟨.idle cluster, document, []⟩, []⟩

/-- The system works while no pass of the report does anything. -/
theorem moves_of_operates {deployment : Deployment} {service : Service}
    {answers : (request : Call) → Cluster → Json → Answer request → Json → Prop}
    {launches : Tag → Program Call Answer OperatorError Unit → Prop} {before after : System}
    (run : ReflTransGen (Operates deployment service) before after) (document : Json)
    (log : List (Exchange Call Answer)) :
    ReflTransGen (Pool.Moves (reporting deployment service answers launches))
      ⟨⟨before, document, log⟩, []⟩ ⟨⟨after, document, log⟩, []⟩ := by
  induction run with
  | refl => exact .refl
  | tail _ step inductionHypothesis =>
    exact inductionHypothesis.tail ⟨_, .outside ⟨_, step, rfl⟩⟩

/-- How a reader is answered about the status of an experiment: with the stored one, or with an
error. -/
def ReadsExperiment (cluster : Cluster) (key : ObjectKey)
    (answer : Except OperatorError ChaosExperimentStatus) : Prop :=
  ∀ status, answer = .ok status → ∃ object, cluster.experiments.lookup key = some object ∧
    ChaosExperimentStatus.parse object.status = some status

/-! ### An ended experiment stays ended -/

/-- The phase and the times of a status are those of a stage. -/
structure EndsAs (crates : Crates) (ended : ChaosExperimentStatus) (stage : Stage) : Prop where
  phase : (stage.status crates none).phase = ended.phase
  startedAt : (stage.status crates none).startedAt = ended.startedAt
  completedAt : (stage.status crates none).completedAt = ended.completedAt

theorem endsAs_status (crates : Crates) (message : Option String) (stage : Stage) :
    EndsAs crates (stage.status crates message) stage := by
  cases stage <;> exact ⟨rfl, rfl, rfl⟩

/-- A life goes on after its end without changing how it has ended. -/
theorem EndsAs.moves {crates : Crates} {ended : ChaosExperimentStatus} {stage stage' : Stage}
    (endsAs : EndsAs crates ended stage) (terminal : ended.phase.isTerminal = true)
    (moves : Stage.Moves stage stage') : EndsAs crates ended stage' := by
  have phase := endsAs.phase
  cases moves with
  | start | refuse | finish =>
    rw [← phase] at terminal
    cases terminal
  | cleanRefused | cleanFinished => exact ⟨endsAs.phase, endsAs.startedAt, endsAs.completedAt⟩

/-! ### What the passes of a report have been told of the experiment -/

section Told

variable {deployment : Deployment} {service : Service} {key : ObjectKey}
  {told : Exchange Call Answer → Option ChaosExperimentStatus}

/-- The experiment is at a stage of its life, and it has ended as every ended status says that a
pass has been told. -/
def Believes (deployment : Deployment) (key : ObjectKey)
    (told : Exchange Call Answer → Option ChaosExperimentStatus) (system : System)
    (log : List (Exchange Call Answer)) : Prop :=
  ∃ stage, Tracks deployment key system stage ∧ ∀ exchange ∈ log, ∀ ended,
    told exchange = some ended → ended.phase.isTerminal = true →
    EndsAs deployment.crates ended stage

variable {system : System} {log : List (Exchange Call Answer)}

theorem Believes.operates (within : service.Within)
    (believes : Believes deployment key told system log) {system' : System}
    (step : Operates deployment service system system') :
    Believes deployment key told system' log := by
  obtain ⟨stage, tracks, ends⟩ := believes
  obtain ⟨stage', goes, tracks'⟩ := tracks.step within step
  refine ⟨stage', tracks', fun exchange member ended known terminal => ?_⟩
  have endsAs := ends exchange member ended known terminal
  cases goes with
  | stays => exact endsAs
  | moves moved => exact endsAs.moves terminal moved

/-- A pass is told how the experiment has ended when it has. -/
theorem Believes.tell (believes : Believes deployment key told system log)
    {exchange : Exchange Call Answer}
    (truthful : ∀ status, told exchange = some status → ∃ object,
      system.cluster.experiments.lookup key = some object ∧
        ChaosExperimentStatus.parse object.status = some status) :
    Believes deployment key told system (exchange :: log) := by
  obtain ⟨stage, tracks, ends⟩ := believes
  refine ⟨stage, tracks, fun other member ended known terminal => ?_⟩
  rcases List.mem_cons.mp member with rfl | member
  · obtain ⟨object, stored, parsed⟩ := truthful ended known
    obtain ⟨message, rendered, -⟩ := tracks.rendered object stored
    obtain rfl := Option.some.inj (parsed.symm.trans rendered)
    exact endsAs_status _ message stage
  · exact ends other member ended known terminal

/-- The stored experiment has ended as a pass has been told. -/
theorem Believes.stored (believes : Believes deployment key told system log)
    {exchange : Exchange Call Answer} (member : exchange ∈ log)
    {ended : ChaosExperimentStatus} (known : told exchange = some ended)
    (terminal : ended.phase.isTerminal = true) {object : ExperimentObject}
    (stored : system.cluster.experiments.lookup key = some object) :
    ∃ status, ChaosExperimentStatus.parse object.status = some status ∧
      status.phase = ended.phase ∧ status.startedAt = ended.startedAt ∧
      status.completedAt = ended.completedAt := by
  obtain ⟨stage, tracks, ends⟩ := believes
  obtain ⟨message, parsed, -⟩ := tracks.rendered object stored
  have endsAs := ends exchange member ended known terminal
  have same := endsAs_status deployment.crates message stage
  exact ⟨_, parsed, same.phase.symm.trans endsAs.phase, same.startedAt.symm.trans endsAs.startedAt,
    same.completedAt.symm.trans endsAs.completedAt⟩

end Told

end ChimpChaos
