/-
This file settles when the operator leaves the finalizers of others alone.

The operator adds and removes its finalizer by a merge patch, and a merge patch replaces a list
as a whole. So a patch that takes effect leaves no foreign finalizer on the object, and every
other call leaves all of them: the operator spares the finalizers of others exactly as long as
its patches find none.
-/

import ChimpChaos.Cluster.Editing

namespace ChimpChaos

open Library

/-! ### The patch of the metadata -/

/-- The merge patch that adds or removes the finalizer. -/
def finalizersPatch (finalizers : List String) : Json :=
  .object [("metadata", .object [("finalizers", .array (finalizers.map .string))])]

/-! ### Foreign finalizers -/

/-- The finalizers of an object that are not the operator's. -/
def ExperimentObject.foreignFinalizers (object : ExperimentObject) : List String :=
  (object.finalizers.getD []).filter (· ≠ finalizerName)

/-- The foreign finalizers under a key. -/
def foreignAt (key : ObjectKey) (experiments : Store ObjectKey ExperimentObject) : List String :=
  (experiments.lookup key).elim [] ExperimentObject.foreignFinalizers

/-- Every experiment has the foreign finalizers that it had. -/
def KeepsForeign (before after : Cluster) : Prop :=
  ∀ key, foreignAt key after.experiments = foreignAt key before.experiments

/-- The experiment whose finalizers a call patches. -/
def ApiCall.patchesFinalizers : ApiCall → Option ObjectKey
  | .addFinalizer ns name => some (ns, name)
  | .removeFinalizer ns name => some (ns, name)
  | _ => none

theorem foreignAt_update (experiments : Store ObjectKey ExperimentObject) (key other : ObjectKey)
    (change : ExperimentObject → ExperimentObject) :
    foreignAt other (experiments.update key change) =
      if other = key then
        ((experiments.lookup key).map change).elim [] ExperimentObject.foreignFinalizers
      else foreignAt other experiments := by
  rw [foreignAt, Store.lookup_update]
  split_ifs <;> rfl

theorem foreignFinalizers_marked (object : ExperimentObject) :
    (object.setFinalizers [finalizerName]).foreignFinalizers = [] := by
  simp [ExperimentObject.foreignFinalizers, ExperimentObject.setFinalizers]

/-- The patch that adds the finalizer takes away the foreign ones, and touches no other object. -/
theorem foreignAt_added (experiments : Store ObjectKey ExperimentObject) (key other : ObjectKey) :
    foreignAt other (experiments.update key fun object => object.setFinalizers [finalizerName]) =
      if other = key then [] else foreignAt other experiments := by
  rw [foreignAt_update]
  refine if_congr Iff.rfl ?_ rfl
  cases experiments.lookup key with
  | none => rfl
  | some object => exact foreignFinalizers_marked object

/-- So does the patch that removes the finalizer. -/
theorem foreignAt_released (experiments : Store ObjectKey ExperimentObject)
    (key other : ObjectKey) :
    foreignAt other (releaseExperiment experiments key) =
      if other = key then [] else foreignAt other experiments := by
  unfold releaseExperiment
  cases stored : experiments.lookup key with
  | none =>
    split_ifs with same
    · rw [same, foreignAt, stored]
      rfl
    · rfl
  | some object =>
    simp only
    split_ifs with deleted same same
    · rw [same, foreignAt, AList.lookup_erase]
      rfl
    · rw [foreignAt, AList.lookup_erase_ne same]
      rfl
    · rw [same, foreignAt, AList.lookup_insert]
      rfl
    · rw [foreignAt, AList.lookup_insert_ne same]
      rfl

/-- The effect of a call on foreign finalizers. -/
theorem foreignAt_effect (surroundings : Surroundings) (actor : ObjectKey) (cluster : Cluster)
    (request : ApiCall) (key : ObjectKey) :
    foreignAt key (effect surroundings actor cluster request).experiments =
      if request.patchesFinalizers = some key then [] else foreignAt key cluster.experiments := by
  have patched (place : ObjectKey) : (some place = some key) = (key = place) :=
    propext ⟨fun same => (Option.some.inj same).symm, fun same => congrArg some same.symm⟩
  cases request with
  | addFinalizer ns name =>
    simp only [ApiCall.patchesFinalizers, patched]
    exact foreignAt_added _ _ _
  | removeFinalizer ns name =>
    simp only [ApiCall.patchesFinalizers, patched]
    exact foreignAt_released _ _ _
  | patchExperimentStatus ns name status =>
    rw [if_neg (by nofun)]
    refine (foreignAt_update _ _ _ _).trans ?_
    split_ifs with same
    · rw [same, foreignAt]
      cases AList.lookup (ns, name) cluster.experiments <;> rfl
    · rfl
  | _ =>
    rw [if_neg (by nofun)]
    rfl

/-- A call keeps the foreign finalizers when the experiment whose finalizers it patches has none,
or when it takes no effect on the experiments. Else it does not. -/
theorem PermitsAny.keepsForeign_iff {actor : ObjectKey} {request : ApiCall}
    {before after : Cluster} {answer : Answer request}
    (permitted : PermitsAny actor request before answer after) :
    KeepsForeign before after ↔
      (after.experiments ≠ before.experiments → ∀ key, request.patchesFinalizers = some key →
        foreignAt key before.experiments = []) := by
  constructor
  · intro keeps changed key patches
    rcases permitted.after_eq with rfl | ⟨surroundings, rfl⟩
    · exact absurd rfl changed
    · rw [← keeps key, foreignAt_effect, if_pos patches]
  · intro spares key
    by_cases changed : after.experiments = before.experiments
    · rw [changed]
    · rcases permitted.after_eq with rfl | ⟨surroundings, rfl⟩
      · rfl
      · rw [foreignAt_effect]
        split_ifs with patches
        · exact (spares changed key patches).symm
        · rfl

/-! ### Every step of a run -/

abbrev OperatorStep : Type :=
  Pool.Taken Watched ChaosExperiment ApiCall Answer OperatorError ReconcileResult

/-- A step of the operator changes no experiment's foreign finalizers. -/
def KeepsForeignFinalizers (step : OperatorStep) : Prop :=
  ∀ experiment request, step.event = .call experiment request →
    KeepsForeign step.before.state.cluster step.after.state.cluster

/-- A patch of the finalizers that takes effect finds none but the operator's. -/
def FindsNoForeignFinalizer (step : OperatorStep) : Prop :=
  ∀ experiment request, step.event = .call experiment request →
    step.after.state.cluster.experiments ≠ step.before.state.cluster.experiments →
    ∀ key, request.patchesFinalizers = some key →
      foreignAt key step.before.state.cluster.experiments = []

/-- In every run among other controllers, with passes that overlap and work on any stored version,
the operator's steps keep all foreign finalizers if and only if no patch of the finalizers that
takes effect finds one. -/
theorem foreignFinalizers_kept_iff (deployment : Deployment) (initial : Cluster)
    (taken : List OperatorStep) (final : OperatorPool)
    (run : Pool.Run (sharing deployment anyListings) (idlePool initial) taken final) :
    (∀ step ∈ taken, KeepsForeignFinalizers step) ↔
      ∀ step ∈ taken, FindsNoForeignFinalizer step := by
  refine forall₂_congr fun step member => forall₃_congr fun experiment request called => ?_
  have moved := run.taken step member
  obtain ⟨event, before, after⟩ := step
  obtain rfl : event = .call experiment request := called
  cases moved with
  | call answered =>
    obtain ⟨cluster, permitted, rfl⟩ := answered
    exact permitted.keepsForeign_iff

/-! ### One pass that adds the finalizer -/

theorem pass_adds {deployment : Deployment} {experiment : ChaosExperiment}
    (missing : needsFinalizer experiment = true) :
    deployment.pass experiment =
      (call (.addFinalizer (expNamespace experiment) (expName experiment)) >>= fun answer =>
        Program.ofExcept answer) >>= fun _ => .done (.requeue 0) := by
  unfold Deployment.pass reconcile
  rw [if_pos missing]
  rfl

/-- The snapshot of an experiment without a status is launched, and its pass adds the
finalizer. -/
theorem run_adds (deployment : Deployment) (key : ObjectKey) (cluster : Cluster)
    {object : ExperimentObject} (stored : cluster.experiments.lookup key = some object)
    (fresh : object.status = .null) (missing : needsFinalizer (freshSnapshot key object) = true) :
    ∃ first second : OperatorStep,
      Pool.Run (sharing deployment anyListings) (idlePool cluster) [second, first] second.after ∧
      first.event = .launch (freshSnapshot key object) ∧
      second.event = .call (freshSnapshot key object) (.addFinalizer key.1 key.2) ∧
      second.before.state.cluster = cluster ∧
      second.after.state.cluster =
        effect sampleSurroundings key cluster (.addFinalizer key.1 key.2) := by
  have decoded : object.snapshot key = some (freshSnapshot key object) := by
    unfold ExperimentObject.snapshot
    rw [fresh]
    rfl
  have launch : Pool.Step (sharing deployment anyListings) (.launch (freshSnapshot key object))
      (idlePool cluster)
      ⟨.start cluster, [] ++ ⟨freshSnapshot key object, [], deployment.pass _⟩ :: []⟩ :=
    .launch ⟨key, object, stored, decoded, rfl⟩
  rw [pass_adds missing] at launch
  have served := (permits_serve sampleSurroundings key (.addFinalizer key.1 key.2) cluster).any
  exact ⟨_, _, .step (.step .start launch) (.call ⟨_, served, rfl⟩), rfl, rfl, rfl, rfl⟩

/-- An experiment that another controller has put its finalizer on. -/
def auditedExperiment : ExperimentObject :=
  { samplePod with finalizers := some ["example.com/audit"] }

def auditedCluster : Cluster := sampleCluster [(sampleKey, auditedExperiment)]

/-- The first pass on the experiment takes the other controller's finalizer off. -/
theorem foreignFinalizer_dropped : ∃ taken final,
    Pool.Run (sharing sampleDeployment anyListings) (idlePool auditedCluster) taken final ∧
      ∃ step ∈ taken, ¬ KeepsForeignFinalizers step := by
  have stored : auditedCluster.experiments.lookup sampleKey = some auditedExperiment :=
    AList.lookup_insert _
  obtain ⟨first, second, run, -, called, before, after⟩ :=
    run_adds sampleDeployment sampleKey auditedCluster stored rfl (by decide)
  refine ⟨_, _, run, second, List.mem_cons_self, fun keeps => ?_⟩
  have same := keeps _ _ called sampleKey
  have patches : (ApiCall.addFinalizer sampleKey.1 sampleKey.2).patchesFinalizers =
      some sampleKey := rfl
  rw [before, after, foreignAt_effect, if_pos patches, foreignAt, stored] at same
  exact absurd same (by decide)

/-- An experiment without finalizers. -/
def bareExperiment : ExperimentObject := { samplePod with finalizers := none }

def bareCluster : Cluster := sampleCluster [(sampleKey, bareExperiment)]

/-- The operator adds its finalizer first, and then another controller adds its own. -/
theorem foreignFinalizers_kept_sample : ∃ taken final,
    Pool.Run (sharing sampleDeployment anyListings) (idlePool bareCluster) taken final ∧
      taken.length = 3 ∧ (∀ step ∈ taken, KeepsForeignFinalizers step) ∧
      foreignAt sampleKey final.state.cluster.experiments = ["example.com/audit"] := by
  have stored : bareCluster.experiments.lookup sampleKey = some bareExperiment :=
    AList.lookup_insert _
  obtain ⟨first, second, run, launched, called, before, after⟩ :=
    run_adds sampleDeployment sampleKey bareCluster stored rfl (by decide)
  obtain ⟨event, pool, pool'⟩ := second
  obtain ⟨watched, threads⟩ := pool'
  have edit : Pool.Step (sharing sampleDeployment anyListings) .outside ⟨watched, threads⟩ ⟨_, _⟩ :=
    .outside ⟨_, .written watched.cluster sampleKey [finalizerName, "example.com/audit"], rfl⟩
  have run' := run.step edit
  refine ⟨_, _, run', rfl, (foreignFinalizers_kept_iff _ _ _ _ run').mpr ?_, ?_⟩
  · rintro step member experiment request made - key patches
    rcases List.mem_cons.mp member with rfl | member
    · cases made
    rcases List.mem_cons.mp member with rfl | member
    · obtain ⟨rfl, rfl⟩ := Event.call.inj (called.symm.trans made)
      obtain rfl := Option.some.inj patches
      rw [before, foreignAt, stored]
      rfl
    · obtain rfl := List.mem_singleton.mp member
      rw [launched] at made
      cases made
  · show foreignAt sampleKey (writeFinalizers watched.cluster.experiments sampleKey _) = _
    rw [after]
    decide +kernel

end ChimpChaos
