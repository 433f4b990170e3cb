/-
This file says what a pass on a pending experiment leaves of the Jobs and VirtualServices.

Such a pass deletes nothing. It only asks for creations, and when a 409 tells the truth, every
name whose creation it counts as done is taken afterwards -- by the object it asked for, or
by whatever held the name before.
-/

import ChimpChaos.Cluster.Pass

namespace ChimpChaos

open Library

/-- A creation that is refused with 409 is one under a name that is taken. -/
def Truthful (before : Cluster) : (request : ApiCall) → Answer request → Prop
  | .createJob ns job, answer => ∀ error, answer = .error error → isAlreadyExists error = true →
      (before.jobs.lookup (jobKey ns job)).isSome = true
  | .createVirtualService ns vsJson, answer => ∀ error, answer = .error error →
      isAlreadyExists error = true →
      (before.virtualServices.lookup (documentKey ns vsJson)).isSome = true
  | _, _ => True

/-- The API server whose conflicts are real. Any call may fail otherwise. -/
def truthfulServer : Service := fun experiment request before answer after =>
  apiServer experiment request before answer after ∧ Truthful before request answer

/-- The server at its best is truthful. -/
theorem truthfulServer_serve (surroundings : Surroundings) (experiment : ChaosExperiment)
    (request : ApiCall) (cluster : Cluster) :
    truthfulServer experiment request cluster
      (serve surroundings (actorOf experiment) request cluster).1
      (serve surroundings (actorOf experiment) request cluster).2 := by
  refine ⟨permits_serve _ _ _ _, ?_⟩
  cases request with
  | createJob ns job =>
    intro error told _
    by_cases taken : (cluster.jobs.lookup (jobKey ns job)).isSome = true
    · exact taken
    · simp [serve, reply, creationAnswer, taken] at told
  | createVirtualService ns vsJson =>
    intro error told _
    by_cases taken : (cluster.virtualServices.lookup (documentKey ns vsJson)).isSome = true
    · exact taken
    · simp [serve, reply, creationAnswer, taken] at told
  | _ => trivial

/-! ### What one call does -/

section Call

variable {experiment : ChaosExperiment} {request : ApiCall} {before after : Cluster}

/-- A call creates a Job, deletes one, or leaves the Jobs alone. -/
theorem jobs_effect (surroundings : Surroundings) (actor : ObjectKey) (cluster : Cluster)
    (request : ApiCall) :
    (effect surroundings actor cluster request).jobs = cluster.jobs ∨
      (∃ ns job, request = .createJob ns job ∧ (effect surroundings actor cluster request).jobs =
        cluster.jobs.create (jobKey ns job) ⟨job, some actor⟩) ∨
      ∃ ns name, request = .deleteJob ns name := by
  cases request with
  | createJob ns job => exact Or.inr (Or.inl ⟨ns, job, rfl, rfl⟩)
  | deleteJob ns name => exact Or.inr (Or.inr ⟨ns, name, rfl⟩)
  | _ => exact Or.inl rfl

/-- A call creates a VirtualService, deletes one, or leaves the VirtualServices alone. -/
theorem virtualServices_effect (surroundings : Surroundings) (actor : ObjectKey)
    (cluster : Cluster) (request : ApiCall) :
    (effect surroundings actor cluster request).virtualServices = cluster.virtualServices ∨
      (∃ ns vsJson, request = .createVirtualService ns vsJson ∧
        (effect surroundings actor cluster request).virtualServices =
          cluster.virtualServices.create (documentKey ns vsJson) ⟨vsJson, some actor⟩) ∨
      ∃ ns name, request = .deleteVirtualService ns name := by
  cases request with
  | createVirtualService ns vsJson => exact Or.inr (Or.inl ⟨ns, vsJson, rfl, rfl⟩)
  | deleteVirtualService ns name => exact Or.inr (Or.inr ⟨ns, name, rfl⟩)
  | _ => exact Or.inl rfl

/-- Once a creation counts as done, the name of the Job is taken. -/
theorem jobTaken_of_created {ns : String} {job : Job} {answer : Answer (.createJob ns job)}
    (answered : truthfulServer experiment (.createJob ns job) before answer after)
    (created : Created answer) : (after.jobs.lookup (jobKey ns job)).isSome = true := by
  obtain ⟨⟨surroundings, ⟨-, rfl⟩ | ⟨error, refused, -, rfl | rfl⟩⟩, truthful⟩ := answered
  · exact Store.isSome_lookup_create _ _ _
  · obtain rfl := Option.some.inj refused
    exact truthful error rfl created
  · exact Store.isSome_lookup_create _ _ _

/-- Once a creation counts as done, the name of the VirtualService is taken. -/
theorem serviceTaken_of_created {ns : String} {vsJson : Json}
    {answer : Answer (.createVirtualService ns vsJson)}
    (answered : truthfulServer experiment (.createVirtualService ns vsJson) before answer after)
    (created : Created answer) :
    (after.virtualServices.lookup (documentKey ns vsJson)).isSome = true := by
  obtain ⟨⟨surroundings, ⟨-, rfl⟩ | ⟨error, refused, -, rfl | rfl⟩⟩, truthful⟩ := answered
  · exact Store.isSome_lookup_create _ _ _
  · obtain rfl := Option.some.inj refused
    exact truthful error rfl created
  · exact Store.isSome_lookup_create _ _ _

end Call

/-! ### What a pass on a pending experiment does -/

section Started

variable {deployment : Deployment} {experiment : ChaosExperiment} {history : History}
  {before middle after : Cluster}

/-- The pass has asked for the creation of this Job. -/
def RequestedJob (deployment : Deployment) (experiment : ChaosExperiment) (history : History)
    (place : ObjectKey) (tracked : Tracked Job) : Prop :=
  ∃ earlier ⊆ history, ∃ ns job, deployment.Issued experiment earlier (.createJob ns job) ∧
    place = jobKey ns job ∧ tracked = ⟨job, some (actorOf experiment)⟩

/-- The pass has asked for the creation of this VirtualService. -/
def RequestedService (deployment : Deployment) (experiment : ChaosExperiment) (history : History)
    (place : ObjectKey) (tracked : Tracked Json) : Prop :=
  ∃ earlier ⊆ history, ∃ ns vsJson,
    deployment.Issued experiment earlier (.createVirtualService ns vsJson) ∧
    place = documentKey ns vsJson ∧ tracked = ⟨vsJson, some (actorOf experiment)⟩

/-- What a pass on a pending experiment has made of the Jobs and VirtualServices. -/
structure Started (deployment : Deployment) (experiment : ChaosExperiment) (before : Cluster)
    (history : History) (after : Cluster) : Prop where
  jobs : Store.Grows before.jobs after.jobs (RequestedJob deployment experiment history)
  services : Store.Grows before.virtualServices after.virtualServices
    (RequestedService deployment experiment history)
  jobTaken : ∀ ns job answer, ⟨.createJob ns job, answer⟩ ∈ history → Created answer →
    (after.jobs.lookup (jobKey ns job)).isSome = true
  serviceTaken : ∀ ns vsJson answer, ⟨.createVirtualService ns vsJson, answer⟩ ∈ history →
    Created answer → (after.virtualServices.lookup (documentKey ns vsJson)).isSome = true

theorem Pending.jobs_grow (pending : Pending experiment) {request : ApiCall}
    {answer : Answer request} (issued : deployment.Issued experiment history request)
    (answered : apiServer experiment request middle answer after) :
    Store.Grows middle.jobs after.jobs
      (RequestedJob deployment experiment (⟨request, answer⟩ :: history)) := by
  rcases answered.after_eq with rfl | ⟨surroundings, rfl⟩
  · exact .refl _ _
  · rcases jobs_effect surroundings (actorOf experiment) middle request with
      same | ⟨ns, job, rfl, same⟩ | ⟨ns, name, rfl⟩
    · rw [same]
      exact .refl _ _
    · rw [same]
      exact .create _ ⟨history, List.subset_cons_self _ _, ns, job, issued, rfl, rfl⟩
    · exact absurd issued.issues.removesJob pending.not_cleansUp

theorem Pending.services_grow (pending : Pending experiment) {request : ApiCall}
    {answer : Answer request} (issued : deployment.Issued experiment history request)
    (answered : apiServer experiment request middle answer after) :
    Store.Grows middle.virtualServices after.virtualServices
      (RequestedService deployment experiment (⟨request, answer⟩ :: history)) := by
  rcases answered.after_eq with rfl | ⟨surroundings, rfl⟩
  · exact .refl _ _
  · rcases virtualServices_effect surroundings (actorOf experiment) middle request with
      same | ⟨ns, vsJson, rfl, same⟩ | ⟨ns, name, rfl⟩
    · rw [same]
      exact .refl _ _
    · rw [same]
      exact .create _ ⟨history, List.subset_cons_self _ _, ns, vsJson, issued, rfl, rfl⟩
    · exact absurd issued.issues.removesService pending.not_cleansUp

theorem RequestedJob.later {later : History} (extended : history ⊆ later) (place : ObjectKey)
    (tracked : Tracked Job) (requested : RequestedJob deployment experiment history place tracked) :
    RequestedJob deployment experiment later place tracked := by
  obtain ⟨earlier, subset, asked⟩ := requested
  exact ⟨earlier, List.Subset.trans subset extended, asked⟩

theorem RequestedService.later {later : History} (extended : history ⊆ later) (place : ObjectKey)
    (tracked : Tracked Json)
    (requested : RequestedService deployment experiment history place tracked) :
    RequestedService deployment experiment later place tracked := by
  obtain ⟨earlier, subset, asked⟩ := requested
  exact ⟨earlier, List.Subset.trans subset extended, asked⟩

/-- One call of a pass on a pending experiment. -/
theorem Started.call (started : Started deployment experiment before history middle)
    (pending : Pending experiment) {request : ApiCall} {answer : Answer request}
    (issued : deployment.Issued experiment history request)
    (answered : truthfulServer experiment request middle answer after) :
    Started deployment experiment before (⟨request, answer⟩ :: history) after := by
  have extended : history ⊆ ⟨request, answer⟩ :: history := List.subset_cons_self _ _
  have jobs := pending.jobs_grow issued answered.1
  have services := pending.services_grow issued answered.1
  refine ⟨(started.jobs.weaken (RequestedJob.later extended)).trans jobs,
    (started.services.weaken (RequestedService.later extended)).trans services, ?_, ?_⟩
  · intro ns job told member created
    rcases List.mem_cons.mp member with here | member
    · cases here
      exact jobTaken_of_created answered created
    · exact jobs.isSome (started.jobTaken ns job told member created)
  · intro ns vsJson told member created
    rcases List.mem_cons.mp member with here | member
    · cases here
      exact serviceTaken_of_created answered created
    · exact services.isSome (started.serviceTaken ns vsJson told member created)

/-- What a run of a pass on a pending experiment has done wherever it stops. -/
theorem started_of_reaches (pending : Pending experiment) {trace : History}
    {rest : Handler ReconcileResult}
    (reaches : Program.Reaches (truthfulServer experiment) (deployment.pass experiment) before
      trace rest after) :
    Started deployment experiment before trace.reverse after := by
  refine passInvariant reaches ?_ fun _ _ _ _ _ started issued answered =>
    Started.call started pending issued answered
  exact ⟨.refl _ _, .refl _ _, fun _ _ _ member => (List.not_mem_nil member).elim,
    fun _ _ _ member => (List.not_mem_nil member).elim⟩

end Started

/-! ### Whole passes -/

/-- The exchanges of a whole pass. -/
def passTranscript (deployment : Deployment) (surroundings : Surroundings)
    (experiment : ChaosExperiment) (cluster : Cluster) : History :=
  (deployment.pass experiment).transcript (serve surroundings (actorOf experiment)) cluster

/-- A whole pass against the server at its best is a run against a truthful one. -/
theorem reaches_serve (deployment : Deployment) (surroundings : Surroundings)
    (experiment : ChaosExperiment) (cluster : Cluster) :
    ∃ rest, Program.Reaches (truthfulServer experiment) (deployment.pass experiment) cluster
      (passTranscript deployment surroundings experiment cluster) rest
      (clusterAfter deployment (fun experiment => serve surroundings (actorOf experiment))
        experiment cluster) :=
  ⟨_, Program.reaches_serving (truthfulServer_serve surroundings experiment) _ cluster⟩

/-- Does an exchange write the phase `Running`? -/
def writesRunning : Exchange ApiCall Answer → Bool
  | ⟨.patchExperimentStatus _ _ status, _⟩ => decide (status.phase = .running)
  | _ => false

theorem written_of_any {trace : History} (any : trace.any writesRunning = true) :
    ∃ ns name status answer, ⟨.patchExperimentStatus ns name status, answer⟩ ∈ trace ∧
      status.phase = .running := by
  obtain ⟨⟨request, answer⟩, member, writes⟩ := List.any_eq_true.mp any
  cases request with
  | patchExperimentStatus ns name status =>
    exact ⟨ns, name, status, answer, member, of_decide_eq_true writes⟩
  | _ => cases writes

end ChimpChaos
