/-
This file settles when the runners of one PodKiller experiment get along.

Each runner deletes what it has listed, and the first deletion that is refused fails it. No Pod
is deleted twice, so of two runners that have listed the same Pod one is refused, and every
runner succeeds exactly when no Pod is on two lists. The invariant keeps, next to what each
runner has still to do, the ledger of all the deletions: a Pod that was listed and is gone is in
it, once.
-/

import ChimpChaos.Cluster.Pods

namespace ChimpChaos

open Library Relation

/-! ### What a runner has done -/

abbrev RunnerHistory : Type := List (Exchange PodCall PodAnswer)

/-- The names that an exchange lists. -/
def listsNames : Exchange PodCall PodAnswer → List String
  | ⟨.listPods .., .ok pods⟩ => podNames pods
  | _ => []

/-- The name that an exchange deletes. -/
def deletesName : Exchange PodCall PodAnswer → List String
  | ⟨.deletePod _ name, .ok _⟩ => [name]
  | _ => []

def listedNames (history : RunnerHistory) : List String := history.flatMap listsNames

def deletedNames (history : RunnerHistory) : List String := history.flatMap deletesName

/-- How far a runner is: it has not begun, it has some of the listed Pods still to delete, or it
has failed on a listed Pod that was gone. -/
inductive RunnerStage (killer : PodKiller) (pods : PodStore) (history : RunnerHistory) :
    Runner UInt32 → Prop
  | fresh (nothing : history = []) : RunnerStage killer pods history killer.execute
  | deleting {rest : List Pod} (unique : (listedNames history).Nodup)
      (split : (listedNames history).Perm (deletedNames history ++ podNames rest))
      (deleted : UInt32) : RunnerStage killer pods history (deleteListed killer.ns rest deleted)
  | refused {name : String} (within : deletedNames history ⊆ listedNames history)
      (listed : name ∈ listedNames history) (kept : name ∉ deletedNames history)
      (absent : pods.lookup (killer.ns, name) = none) (error : RunnerError) :
      RunnerStage killer pods history (.fail error)

/-- What is gone stays gone. -/
def OnlyLoses (before after : PodStore) : Prop :=
  ∀ key, before.lookup key = none → after.lookup key = none

theorem RunnerStage.later {killer : PodKiller} {before after : PodStore} {history : RunnerHistory}
    {rest : Runner UInt32} (stage : RunnerStage killer before history rest)
    (loses : OnlyLoses before after) : RunnerStage killer after history rest := by
  cases stage with
  | fresh nothing => exact .fresh nothing
  | deleting unique split deleted => exact .deleting unique split deleted
  | refused within listed kept absent error =>
    exact .refused within listed kept (loses _ absent) error

theorem RunnerStage.deleted_subset {killer : PodKiller} {pods : PodStore} {history : RunnerHistory}
    {rest : Runner UInt32} (stage : RunnerStage killer pods history rest) :
    deletedNames history ⊆ listedNames history := by
  cases stage with
  | fresh nothing =>
    subst nothing
    exact List.Subset.refl _
  | deleting unique split deleted =>
    intro name member
    exact split.mem_iff.mpr (List.mem_append_left _ member)
  | refused within => exact within

/-- What one call of a runner does. -/
inductive PodEffect (killer : PodKiller) (before : PodStore) (exchange : Exchange PodCall PodAnswer)
    (after : PodStore) : Prop
  | reads (same : after = before) (deletes : deletesName exchange = [])
      (present : ∀ name ∈ listsNames exchange, before.lookup (killer.ns, name) ≠ none)
  | deletes {name : String} (lists : listsNames exchange = [])
      (deletes : deletesName exchange = [name]) (present : before.lookup (killer.ns, name) ≠ none)
      (gone : after = AList.erase (killer.ns, name) before)

theorem PodEffect.onlyLoses {killer : PodKiller} {before after : PodStore}
    {exchange : Exchange PodCall PodAnswer} (effect : PodEffect killer before exchange after) :
    OnlyLoses before after := by
  intro key absent
  cases effect with
  | reads same => rw [same, absent]
  | deletes lists deletes present gone => rw [gone, Store.lookup_erase_ite, absent, ite_self]

/-- One call of a runner takes it from a stage to a stage. -/
theorem RunnerStage.call {selects : String → Labels → Bool} {killer : PodKiller}
    {before after : PodStore} {history : RunnerHistory} {request : PodCall}
    {next : PodAnswer request → Runner UInt32} {answer : PodAnswer request}
    (stage : RunnerStage killer before history (.call request next))
    (answered : PodAnswers selects request before answer after) :
    RunnerStage killer after (⟨request, answer⟩ :: history) (next answer) ∧
      PodEffect killer before ⟨request, answer⟩ after := by
  generalize program : (Program.call request next : Runner UInt32) = rest at stage
  cases stage with
  | fresh nothing =>
    rw [execute_eq] at program
    cases program
    subst nothing
    obtain ⟨same, pods, rfl, perm⟩ := answered
    have names : (podNames pods).Perm
        (podNames (matchingPods selects killer.ns killer.labelSelector before)) :=
      perm.filterMap _
    have listed : listedNames [⟨.listPods killer.ns killer.labelSelector, .ok pods⟩] =
        podNames pods := List.append_nil _
    constructor
    · refine .deleting ?_ ?_ 0
      · rw [listed]
        exact names.nodup_iff.mpr (nodup_podNames_matchingPods _ _ _ _)
      · rw [listed]
        exact List.Perm.refl _
    · refine .reads same rfl fun name member absent => ?_
      obtain ⟨labels, stored, -⟩ := (mem_podNames_matchingPods _).mp (names.mem_iff.mp member)
      rw [absent] at stored
      cases stored
  | @deleting pods unique split deleted =>
    obtain ⟨-, loop⟩ | ⟨name, others, names, loop⟩ := deleteListed_cases killer.ns pods deleted
    · rw [loop] at program
      cases program
    rw [loop] at program
    cases program
    rw [names] at split
    rw [PodAnswers] at answered
    split_ifs at answered with present
    · obtain ⟨rfl, gone⟩ := answered
      have listed : listedNames (⟨.deletePod killer.ns name, .ok ()⟩ :: history) =
          listedNames history := rfl
      refine ⟨.deleting ?_ ?_ (deleted + 1), .deletes rfl rfl ?_ gone⟩
      · rw [listed]
        exact unique
      · rw [listed]
        exact split.trans List.perm_middle
      · exact Option.isSome_iff_ne_none.mp present
    · obtain ⟨same, text, rfl⟩ := answered
      have member : name ∈ listedNames history :=
        split.mem_iff.mpr (List.mem_append_right _ List.mem_cons_self)
      have apart := (List.nodup_append'.mp (split.nodup_iff.mp unique)).2.2
      have absent : before.lookup (killer.ns, name) = none :=
        Option.not_isSome_iff_eq_none.mp present
      refine ⟨.refused ?_ ?_ ?_ (same ▸ absent) _, .reads same rfl ?_⟩
      · intro other early
        exact split.mem_iff.mpr (List.mem_append_left _ early)
      · exact member
      · exact fun early => apart early List.mem_cons_self
      · exact fun other listed => absurd listed List.not_mem_nil
  | refused => cases program

/-! ### The ledger of a race -/

/-- The names in the histories of all runners. -/
def ledger (names : Exchange PodCall PodAnswer → List String) (threads : List RunnerThread) :
    List String :=
  threads.flatMap fun thread => thread.history.flatMap names

/-- A call adds its names to the ledger. -/
theorem ledger_call (names : Exchange PodCall PodAnswer → List String)
    (front back : List RunnerThread) (node : String) (history : RunnerHistory)
    (exchange : Exchange PodCall PodAnswer) (rest next : Runner UInt32) :
    (ledger names (front ++ ⟨node, exchange :: history, next⟩ :: back)).Perm
      (names exchange ++ ledger names (front ++ ⟨node, history, rest⟩ :: back)) := by
  simp only [ledger, List.flatMap_append, List.flatMap_cons, List.append_assoc]
  exact List.perm_append_comm_assoc _ _ _

/-- Every runner is at some stage, and the ledger of the deletions is that of the Pods that were
listed and are gone. -/
structure Accounted (killer : PodKiller) (race : Race) : Prop where
  staged : ∀ thread ∈ race.threads, RunnerStage killer race.state thread.history thread.rest
  once : (ledger deletesName race.threads).Nodup
  gone : ∀ name ∈ ledger deletesName race.threads, race.state.lookup (killer.ns, name) = none
  deleted : ∀ name ∈ ledger listsNames race.threads,
    race.state.lookup (killer.ns, name) = none → name ∈ ledger deletesName race.threads

theorem accounted_startedRace (killer : PodKiller) (nodes : List String) (pods : PodStore) :
    Accounted killer (startedRace killer nodes pods) := by
  have empty (names : Exchange PodCall PodAnswer → List String) :
      ledger names (startedRace killer nodes pods).threads = [] := by
    rw [ledger, List.flatMap_eq_nil_iff]
    intro thread member
    obtain ⟨node, -, rfl⟩ := List.mem_map.mp member
    rfl
  refine ⟨fun thread member => ?_, ?_, ?_, ?_⟩
  · obtain ⟨node, -, rfl⟩ := List.mem_map.mp member
    exact .fresh rfl
  · rw [empty]
    exact List.nodup_nil
  · rw [empty]
    nofun
  · rw [empty]
    nofun

/-- One call keeps the accounts. -/
theorem Accounted.step {selects : String → Labels → Bool} {killer : PodKiller}
    {event : Event String PodCall} {before after : Race} (accounted : Accounted killer before)
    (step : Pool.Step (racing selects) event before after) : Accounted killer after := by
  cases step with
  | launch launches => cases launches
  | outside moved => cases moved
  | @call pods pods' front back node history request next answer answered =>
    obtain ⟨stage, effect⟩ :=
      (accounted.staged _ (List.mem_append_right front List.mem_cons_self)).call answered
    have loses := effect.onlyLoses
    have listed := ledger_call listsNames front back node history ⟨request, answer⟩
      (.call request next) (next answer)
    have deleted := ledger_call deletesName front back node history ⟨request, answer⟩
      (.call request next) (next answer)
    have staged : ∀ thread ∈ front ++ ⟨node, ⟨request, answer⟩ :: history, next answer⟩ :: back,
        RunnerStage killer pods' thread.history thread.rest := by
      intro thread member
      rcases List.mem_append.mp member with inFront | member
      · exact (accounted.staged thread (List.mem_append_left _ inFront)).later loses
      rcases List.mem_cons.mp member with rfl | inBack
      · exact stage
      · exact (accounted.staged thread (List.mem_append_right front
          (List.mem_cons_of_mem _ inBack))).later loses
    cases effect with
    | reads same deletes present =>
      subst same
      rw [deletes, List.nil_append] at deleted
      refine ⟨staged, deleted.nodup_iff.mpr accounted.once, fun name member => ?_,
        fun name member absent => ?_⟩
      · exact accounted.gone name (deleted.mem_iff.mp member)
      · rcases List.mem_append.mp (listed.mem_iff.mp member) with new | old
        · exact absurd absent (present name new)
        · exact deleted.mem_iff.mpr (accounted.deleted name old absent)
    | @deletes name lists deletes present gone =>
      rw [lists, List.nil_append] at listed
      rw [deletes, List.singleton_append] at deleted
      refine ⟨staged, deleted.nodup_iff.mpr (List.nodup_cons.mpr ⟨fun early => ?_,
        accounted.once⟩), fun other member => ?_, fun other member absent => ?_⟩
      · exact present (accounted.gone name early)
      · rw [gone]
        rcases List.mem_cons.mp (deleted.mem_iff.mp member) with rfl | early
        · exact AList.lookup_erase _ _
        · exact gone ▸ loses _ (accounted.gone other early)
      · rw [gone, Store.lookup_erase_ite] at absent
        refine deleted.mem_iff.mpr (List.mem_cons.mpr ?_)
        split_ifs at absent with same
        · exact Or.inl (Prod.mk.inj same).2
        · exact Or.inr (accounted.deleted other (listed.mem_iff.mp member) absent)

theorem accounted_run {selects : String → Labels → Bool} {killer : PodKiller} {before after : Race}
    (accounted : Accounted killer before)
    (run : ReflTransGen (Pool.Moves (racing selects)) before after) : Accounted killer after := by
  induction run with
  | refl => exact accounted
  | tail _ last inductionHypothesis =>
    obtain ⟨event, step⟩ := last
    exact inductionHypothesis.step step

/-! ### The end of a race -/

/-- Every runner has returned Ok, and the Pods that it has listed are gone. -/
def AllSucceeded (killer : PodKiller) (race : Race) : Prop :=
  ∀ thread ∈ race.threads, (∃ deleted, thread.rest = .done deleted) ∧
    ∀ name ∈ listedNames thread.history, race.state.lookup (killer.ns, name) = none

/-- No Pod is on the lists of two runners. -/
def ListedApart (race : Race) : Prop :=
  race.threads.Pairwise fun one other =>
    (listedNames one.history).Disjoint (listedNames other.history)

/-- A runner that has ended has deleted what it listed, or has failed on one of the Pods. -/
theorem RunnerStage.ended {killer : PodKiller} {pods : PodStore} {history : RunnerHistory}
    {rest : Runner UInt32} (stage : RunnerStage killer pods history rest) (ended : rest.Ended) :
    (∃ deleted, rest = .done deleted ∧ (listedNames history).Perm (deletedNames history)) ∨
      ∃ error name, rest = .fail error ∧ name ∈ listedNames history ∧
        name ∉ deletedNames history ∧ pods.lookup (killer.ns, name) = none := by
  cases stage with
  | fresh => cases ended
  | @deleting pods unique split deleted =>
    obtain ⟨names, loop⟩ | ⟨name, others, names, loop⟩ :=
      deleteListed_cases killer.ns pods deleted
    · rw [names, List.append_nil] at split
      exact Or.inl ⟨deleted, loop, split⟩
    · rw [loop] at ended
      cases ended
  | refused within listed kept absent error =>
    exact Or.inr ⟨error, _, rfl, listed, kept, absent⟩

/-- What a runner has deleted is gone. -/
theorem Accounted.lookup_deleted {killer : PodKiller} {race : Race}
    (accounted : Accounted killer race) {thread : RunnerThread} (member : thread ∈ race.threads)
    {name : String} (deleted : name ∈ deletedNames thread.history) :
    race.state.lookup (killer.ns, name) = none :=
  accounted.gone name (List.mem_flatMap.mpr ⟨thread, member, deleted⟩)

theorem Accounted.listedApart {killer : PodKiller} {race : Race}
    (accounted : Accounted killer race)
    (succeeded : ∀ thread ∈ race.threads, ∃ deleted, thread.rest = .done deleted) :
    ListedApart race := by
  have same (thread : RunnerThread) (member : thread ∈ race.threads) :
      (thread.history.flatMap listsNames).Perm (thread.history.flatMap deletesName) := by
    obtain ⟨deleted, returned⟩ := succeeded thread member
    have ended : thread.rest.Ended := by
      rw [returned]
      trivial
    obtain ⟨_, -, same⟩ | ⟨error, _, failed, -⟩ := (accounted.staged thread member).ended ended
    · exact same
    · rw [returned] at failed
      cases failed
  have ledgers : (ledger listsNames race.threads).Perm (ledger deletesName race.threads) :=
    List.Perm.flatMap_left _ same
  exact (List.nodup_flatMap.mp (ledgers.nodup_iff.mpr accounted.once)).2

theorem Accounted.allSucceeded {killer : PodKiller} {race : Race}
    (accounted : Accounted killer race) (ended : ∀ thread ∈ race.threads, thread.rest.Ended)
    (apart : ListedApart race) : AllSucceeded killer race := by
  intro thread member
  obtain ⟨deleted, returned, same⟩ | ⟨error, name, -, listed, kept, absent⟩ :=
    (accounted.staged thread member).ended (ended thread member)
  · exact ⟨⟨deleted, returned⟩, fun name listed =>
      accounted.lookup_deleted member (same.mem_iff.mp listed)⟩
  · -- the Pod on which this runner failed has been deleted by another one
    obtain ⟨other, member', deleted⟩ := List.mem_flatMap.mp (accounted.deleted name
      (List.mem_flatMap.mpr ⟨thread, member, listed⟩) absent)
    have different : thread ≠ other := by
      rintro rfl
      exact kept deleted
    have symmetric : Std.Symm fun one other : RunnerThread =>
        (listedNames one.history).Disjoint (listedNames other.history) :=
      ⟨fun _ _ disjoint _ here there => disjoint there here⟩
    exact absurd ((accounted.staged other member').deleted_subset deleted)
      (apart.forall member member' different listed)

/-- No race goes on forever. Where a race cannot go on, every runner has returned Ok and every Pod
that a runner has listed is gone if and only if no Pod is on the lists of two runners. -/
theorem racers_succeed_iff (selects : String → Labels → Bool) (killer : PodKiller)
    (nodes : List String) (pods : PodStore) :
    Acc (fun after before => Pool.Moves (racing selects) before after)
        (startedRace killer nodes pods) ∧
      ∀ final, ReflTransGen (Pool.Moves (racing selects)) (startedRace killer nodes pods) final →
        (∀ after, ¬ Pool.Moves (racing selects) final after) →
        (AllSucceeded killer final ↔ ListedApart final) := by
  refine ⟨(racing_closed selects).ends _, fun final run stuck => ?_⟩
  have accounted := accounted_run (accounted_startedRace killer nodes pods) run
  have ended := Pool.ended_of_stuck
    (fun node request => racing_answered selects node request final.state) stuck
  constructor
  · intro succeeded
    exact accounted.listedApart fun thread member => (succeeded thread member).1
  · exact accounted.allSucceeded ended

/-! ### Two runners and one Pod -/

/-- A selector that asks for the value of one label. -/
def selectsEqual (labelSelector : String) (labels : Labels) : Bool :=
  labels.any fun label => label.1 ++ "=" ++ label.2 == labelSelector

def sampleKiller : PodKiller where
  ns := "shop"
  labelSelector := "app=ledger"

def ledgerPod : ObjectKey × Labels := (("shop", "ledger-0"), [("app", "ledger")])

def ledgerPods : PodStore := AList.singleton ledgerPod.1 ledgerPod.2

/-- The Pods after the deletion. -/
def killedPods : PodStore := AList.erase ledgerPod.1 ledgerPods

def sampleListing (pods : List Pod) : Exchange PodCall PodAnswer :=
  ⟨.listPods "shop" "app=ledger", .ok pods⟩

section Scripts

variable (node : String)

theorem sample_lists : Program.Reaches ((racing selectsEqual).answers node) sampleKiller.execute
    ledgerPods [sampleListing [listedPod ledgerPod]]
    (deleteListed "shop" [listedPod ledgerPod] 0) ledgerPods := by
  have matching : matchingPods selectsEqual "shop" "app=ledger" ledgerPods =
      [listedPod ledgerPod] := by decide +kernel
  exact .call ⟨rfl, _, rfl, .of_eq matching.symm⟩ (.stop _ _)

theorem sample_deletes : Program.Reaches ((racing selectsEqual).answers node)
    (deleteListed "shop" [listedPod ledgerPod] 0) ledgerPods
    [⟨.deletePod "shop" "ledger-0", .ok ()⟩] (.done 1) killedPods := by
  have present : (ledgerPods.lookup ("shop", "ledger-0")).isSome = true := by decide +kernel
  exact .call (podAnswers_present selectsEqual present) (.stop _ _)

theorem sample_refused : Program.Reaches ((racing selectsEqual).answers node)
    (deleteListed "shop" [listedPod ledgerPod] 0) killedPods
    [⟨.deletePod "shop" "ledger-0", .error (.api 404 "not found")⟩]
    (.fail (.kube (.api 404 "not found"))) killedPods := by
  have absent : ¬ (killedPods.lookup ("shop", "ledger-0")).isSome = true := by decide +kernel
  exact .call (podAnswers_absent selectsEqual absent "not found") (.stop _ _)

theorem sample_listsNone : Program.Reaches ((racing selectsEqual).answers node)
    sampleKiller.execute killedPods [sampleListing []] (.done 0) killedPods := by
  have matching : matchingPods selectsEqual "shop" "app=ledger" killedPods = [] := by
    decide +kernel
  exact .call ⟨rfl, _, rfl, .of_eq matching.symm⟩ (.stop _ _)

end Scripts

/-- A runner that has not begun. -/
def idleRunner (node : String) : RunnerThread := ⟨node, [], sampleKiller.execute⟩

/-- A runner that has listed the Pod. -/
def listedRunner (node : String) : RunnerThread :=
  ⟨node, [sampleListing [listedPod ledgerPod]], deleteListed "shop" [listedPod ledgerPod] 0⟩

/-- A runner that has deleted the Pod. -/
def doneRunner (node : String) : RunnerThread :=
  ⟨node, [⟨.deletePod "shop" "ledger-0", .ok ()⟩, sampleListing [listedPod ledgerPod]], .done 1⟩

/-- A runner that was too late to delete the Pod. -/
def refusedRunner (node : String) : RunnerThread :=
  ⟨node, [⟨.deletePod "shop" "ledger-0", .error (.api 404 "not found")⟩,
    sampleListing [listedPod ledgerPod]], .fail (.kube (.api 404 "not found"))⟩

/-- A runner that was too late to list the Pod. -/
def lateRunner (node : String) : RunnerThread := ⟨node, [sampleListing []], .done 0⟩

/-- A sample race between its steps. -/
abbrev Races (before after : Race) : Prop :=
  ReflTransGen (Pool.Moves (racing selectsEqual)) before after

/-- Two runners list the one Pod that there is. The second one to delete it fails. -/
theorem runners_collide : ∃ final,
    Races (startedRace sampleKiller ["node-a", "node-b"] ledgerPods) final ∧
    (∀ after, ¬ Pool.Moves (racing selectsEqual) final after) ∧
    ¬ AllSucceeded sampleKiller final := by
  have firstLists : Races ⟨ledgerPods, [idleRunner "node-a", idleRunner "node-b"]⟩
      ⟨ledgerPods, [listedRunner "node-a", idleRunner "node-b"]⟩ :=
    Pool.run_thread (sample_lists "node-a") [] [idleRunner "node-b"] []
  have secondLists : Races ⟨ledgerPods, [listedRunner "node-a", idleRunner "node-b"]⟩
      ⟨ledgerPods, [listedRunner "node-a", listedRunner "node-b"]⟩ :=
    Pool.run_thread (sample_lists "node-b") [listedRunner "node-a"] [] []
  have firstDeletes : Races ⟨ledgerPods, [listedRunner "node-a", listedRunner "node-b"]⟩
      ⟨killedPods, [doneRunner "node-a", listedRunner "node-b"]⟩ :=
    Pool.run_thread (sample_deletes "node-a") [] [listedRunner "node-b"] _
  have secondRefused : Races ⟨killedPods, [doneRunner "node-a", listedRunner "node-b"]⟩
      ⟨killedPods, [doneRunner "node-a", refusedRunner "node-b"]⟩ :=
    Pool.run_thread (sample_refused "node-b") [doneRunner "node-a"] [] _
  have ended : ∀ thread ∈ [doneRunner "node-a", refusedRunner "node-b"], thread.rest.Ended := by
    simp [doneRunner, refusedRunner, Program.Ended]
  refine ⟨_, ((firstLists.trans secondLists).trans firstDeletes).trans secondRefused,
    (racing_closed _).stuck ended, fun succeeded => ?_⟩
  obtain ⟨⟨deleted, returned⟩, -⟩ :=
    succeeded (refusedRunner "node-b") (List.mem_cons_of_mem _ List.mem_cons_self)
  cases returned

/-- The second runner lists when the first one is done. -/
theorem racers_succeed_sample : ∃ final,
    Races (startedRace sampleKiller ["node-a", "node-b"] ledgerPods) final ∧
    AllSucceeded sampleKiller final := by
  have firstLists : Races ⟨ledgerPods, [idleRunner "node-a", idleRunner "node-b"]⟩
      ⟨ledgerPods, [listedRunner "node-a", idleRunner "node-b"]⟩ :=
    Pool.run_thread (sample_lists "node-a") [] [idleRunner "node-b"] []
  have firstDeletes : Races ⟨ledgerPods, [listedRunner "node-a", idleRunner "node-b"]⟩
      ⟨killedPods, [doneRunner "node-a", idleRunner "node-b"]⟩ :=
    Pool.run_thread (sample_deletes "node-a") [] [idleRunner "node-b"] _
  have secondLists : Races ⟨killedPods, [doneRunner "node-a", idleRunner "node-b"]⟩
      ⟨killedPods, [doneRunner "node-a", lateRunner "node-b"]⟩ :=
    Pool.run_thread (sample_listsNone "node-b") [doneRunner "node-a"] [] []
  have run := (firstLists.trans firstDeletes).trans secondLists
  have ended : ∀ thread ∈ [doneRunner "node-a", lateRunner "node-b"], thread.rest.Ended := by
    simp [doneRunner, lateRunner, Program.Ended]
  have apart : ListedApart ⟨killedPods, [doneRunner "node-a", lateRunner "node-b"]⟩ := by
    simp [ListedApart, doneRunner, lateRunner, sampleListing, listedNames, listsNames, podNames]
  have results := racers_succeed_iff selectsEqual sampleKiller ["node-a", "node-b"] ledgerPods
  exact ⟨_, run, (results.2 _ run ((racing_closed _).stuck ended)).mpr apart⟩

end ChimpChaos
