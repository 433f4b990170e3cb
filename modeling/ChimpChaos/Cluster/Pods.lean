/-
This file models the Pods behind the API server and the runners of one PodKiller experiment
that race for them.

There is a runner on each node, all with the same namespace and selector. Their calls
interleave in any order. A listing is answered with the matching Pods of that moment, in any
order; a deletion takes the Pod away, and is refused with 404 when it is no longer there.
Nothing else happens to the Pods. How a selector is read is the server's affair.
-/

import ChimpChaos.Cluster.ApiServer
import ChimpChaos.Library.Pool
import ChimpChaos.Runner.PodKiller

namespace ChimpChaos

open Library

/-- The Pods with their labels. -/
abbrev PodStore : Type := Store ObjectKey Labels

/-- A stored Pod as a listing shows it. -/
def listedPod (entry : ObjectKey × Labels) : Pod where
  metadata := { name := some entry.1.2, ns := some entry.1.1, labels := some entry.2 }

variable (selects : String → Labels → Bool)

def matchingPods (ns labelSelector : String) (pods : PodStore) : List Pod :=
  (pods.listing.filter fun entry =>
    entry.1.1 = ns && selects labelSelector entry.2).map listedPod

/-- How the calls of a runner are answered. -/
def PodAnswers : (request : PodCall) → PodStore → PodAnswer request → PodStore → Prop
  | .listPods ns labelSelector, before, answer, after =>
    after = before ∧
      ∃ pods, answer = .ok pods ∧ pods.Perm (matchingPods selects ns labelSelector before)
  | .deletePod ns name, before, answer, after =>
    if (before.lookup (ns, name)).isSome then
      answer = .ok () ∧ after = AList.erase (ns, name) before
    else
      after = before ∧ ∃ text, answer = .error (.api 404 text)

abbrev RunnerThread : Type := Thread String PodCall PodAnswer RunnerError UInt32

abbrev Race : Type := Pool PodStore String PodCall PodAnswer RunnerError UInt32

/-- The runners make their calls, and nothing else happens. -/
def racing : Rules PodStore String PodCall PodAnswer RunnerError UInt32 where
  answers _ := PodAnswers selects
  launches _ _ _ := False
  outside _ _ := False

/-- The Pods with a runner on each node that has not done anything yet. -/
def startedRace (killer : PodKiller) (nodes : List String) (pods : PodStore) : Race :=
  ⟨pods, nodes.map fun node => ⟨node, [], killer.execute⟩⟩

theorem racing_closed : Pool.Closed (racing selects) where
  launches := fun _ _ _ => id
  outside := fun _ _ => id

theorem podAnswers_present {ns name : String} {pods : PodStore}
    (present : (pods.lookup (ns, name)).isSome = true) :
    PodAnswers selects (.deletePod ns name) pods (.ok ()) (AList.erase (ns, name) pods) := by
  rw [PodAnswers, if_pos present]
  exact ⟨rfl, rfl⟩

theorem podAnswers_absent {ns name : String} {pods : PodStore}
    (absent : ¬ (pods.lookup (ns, name)).isSome = true) (text : String) :
    PodAnswers selects (.deletePod ns name) pods (.error (.api 404 text)) pods := by
  rw [PodAnswers, if_neg absent]
  exact ⟨rfl, text, rfl⟩

theorem racing_answered (node : String) (request : PodCall) (pods : PodStore) :
    ∃ answer after, (racing selects).answers node request pods answer after := by
  cases request with
  | listPods ns labelSelector => exact ⟨.ok _, pods, rfl, _, rfl, List.Perm.refl _⟩
  | deletePod ns name =>
    by_cases present : (pods.lookup (ns, name)).isSome = true
    · exact ⟨_, _, podAnswers_present selects present⟩
    · exact ⟨_, _, podAnswers_absent selects present "not found"⟩

theorem mem_podNames_matchingPods {ns labelSelector name : String} {pods : PodStore} :
    name ∈ podNames (matchingPods selects ns labelSelector pods) ↔
      ∃ labels, pods.lookup (ns, name) = some labels ∧ selects labelSelector labels = true := by
  simp only [podNames, matchingPods, List.mem_filterMap, List.mem_map, List.mem_filter,
    Bool.and_eq_true, decide_eq_true_eq]
  constructor
  · rintro ⟨_, ⟨⟨⟨ns', name'⟩, labels⟩, ⟨stored, rfl, selected⟩, rfl⟩, named⟩
    obtain rfl := Option.some.inj named
    exact ⟨labels, (Store.mem_listing _ _ _).mp stored, selected⟩
  · rintro ⟨labels, stored, selected⟩
    exact ⟨_, ⟨((ns, name), labels), ⟨(Store.mem_listing _ _ _).mpr stored, rfl, selected⟩, rfl⟩,
      rfl⟩

/-- A listing names no Pod twice. -/
theorem nodup_podNames_matchingPods (ns labelSelector : String) (pods : PodStore) :
    (podNames (matchingPods selects ns labelSelector pods)).Nodup := by
  have names : podNames (matchingPods selects ns labelSelector pods) =
      (pods.listing.filter fun entry =>
        entry.1.1 = ns && selects labelSelector entry.2).map fun entry => entry.1.2 := by
    rw [podNames, matchingPods, List.filterMap_map, ← List.filterMap_eq_map]
    rfl
  rw [names]
  refine (pods.nodup_listing.filter _).map_on ?_
  rintro ⟨⟨ns₁, name₁⟩, labels₁⟩ first ⟨⟨ns₂, name₂⟩, labels₂⟩ second rfl
  simp only [List.mem_filter, Bool.and_eq_true, decide_eq_true_eq, Store.mem_listing]
    at first second
  obtain ⟨stored₁, rfl, -⟩ := first
  obtain ⟨stored₂, rfl, -⟩ := second
  obtain rfl := Option.some.inj (stored₁.symm.trans stored₂)
  rfl

end ChimpChaos
