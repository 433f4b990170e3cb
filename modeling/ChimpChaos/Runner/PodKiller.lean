/-
This file models the PodKiller scenario of a runner: the Pods that match a selector are listed
once and then deleted one after the other. The first deletion that is refused, for whatever
reason, is the failure of the runner.
-/

import ChimpChaos.Library.Program
import ChimpChaos.Operator.Objects

namespace ChimpChaos

open Library

/-- A Pod as a runner reads it. -/
structure Pod where
  metadata : ObjectMeta
  deriving DecidableEq, Repr

/-- The calls of the runner's Kubernetes client. -/
inductive PodCall where
  | listPods (ns labelSelector : String)
  | deletePod (ns name : String)
  deriving DecidableEq, Repr

@[reducible] def PodAnswer : PodCall → Type
  | .listPods .. => Except KubeError (List Pod)
  | .deletePod .. => Except KubeError Unit

abbrev Runner (Value : Type) : Type := Program PodCall PodAnswer RunnerError Value

/-- Go on with an answer; an error of the client is an error of the runner. -/
def podClient {Value : Type} (answer : Except KubeError Value) : Runner Value :=
  Program.ofExcept (answer.mapError RunnerError.kube)

/-- The loop over the listed Pods, with the number of those deleted so far. -/
def deleteListed (ns : String) : List Pod → UInt32 → Runner UInt32
  | [], deleted => pure deleted
  | pod :: rest, deleted =>
    match pod.metadata.name with
    | some name => do
      let answer ← Program.request (PodCall.deletePod ns name)
      podClient answer
      deleteListed ns rest (deleted + 1)
    | none => deleteListed ns rest deleted

def deletePods (ns labelSelector : String) : Runner UInt32 := do
  let answer ← Program.request (PodCall.listPods ns labelSelector)
  let pods ← podClient answer
  deleteListed ns pods 0

structure PodKiller where
  ns : String
  labelSelector : String
  deriving DecidableEq, Repr

def PodKiller.execute (killer : PodKiller) : Runner UInt32 :=
  deletePods killer.ns killer.labelSelector

/-! ### Unfolding a runner -/

/-- The names of some Pods, as far as they have one. -/
def podNames (pods : List Pod) : List String := pods.filterMap fun pod => pod.metadata.name

/-- What a runner does with the answer to its listing. -/
def afterListing (ns : String) : Except KubeError (List Pod) → Runner UInt32
  | .ok pods => deleteListed ns pods 0
  | .error error => .fail (.kube error)

/-- What a runner does with the answer to a deletion. -/
def afterDeletion (ns : String) (rest : List Pod) (deleted : UInt32) :
    Except KubeError Unit → Runner UInt32
  | .ok _ => deleteListed ns rest (deleted + 1)
  | .error error => .fail (.kube error)

theorem execute_eq (killer : PodKiller) :
    killer.execute =
      .call (.listPods killer.ns killer.labelSelector) (afterListing killer.ns) := by
  refine congrArg (Program.call _) (funext fun answer => ?_)
  cases answer <;> rfl

/-- The loop is at its end, or at the first of the remaining names. -/
theorem deleteListed_cases (ns : String) (pods : List Pod) (deleted : UInt32) :
    (podNames pods = [] ∧ deleteListed ns pods deleted = .done deleted) ∨
      ∃ name rest, podNames pods = name :: podNames rest ∧
        deleteListed ns pods deleted =
          .call (.deletePod ns name) (afterDeletion ns rest deleted) := by
  induction pods with
  | nil => exact Or.inl ⟨rfl, rfl⟩
  | cons pod rest inductionHypothesis =>
    cases named : pod.metadata.name with
    | none =>
      have names : podNames (pod :: rest) = podNames rest := by
        rw [podNames, List.filterMap_cons, named, podNames]
      have loop : deleteListed ns (pod :: rest) deleted = deleteListed ns rest deleted := by
        rw [deleteListed, named]
      rw [names, loop]
      exact inductionHypothesis
    | some name =>
      refine Or.inr ⟨name, rest, ?_, ?_⟩
      · rw [podNames, List.filterMap_cons, named, podNames]
      · rw [deleteListed, named]
        refine congrArg (Program.call _) (funext fun answer => ?_)
        cases answer <;> rfl

end ChimpChaos
