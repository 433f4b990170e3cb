/-
This file proves that a pass on a pending experiment can be cut off and started again.

What such a pass is going to do can be planned: a list of creations, and the status it ends
with. Against fixed surroundings a pass carries out its plan; a pass that is cut off has made
the first creations of it and nothing else. The next pass makes the same plan, because its own
VirtualService is no conflict for it, and creating again what is there changes nothing.
-/

import ChimpChaos.Cluster.Pass

namespace ChimpChaos

open Library

/-! ### What a starting pass is going to do -/

/-- A status that is going to be written, with or without the time of the write. -/
structure PlannedStatus where
  status : ChaosExperimentStatus
  timed : Bool

/-- The status as it is written at some time. -/
def PlannedStatus.writtenAt (crates : Crates) (planned : PlannedStatus) (time : Int) :
    ChaosExperimentStatus :=
  if planned.timed then { planned.status with startedAt := some (crates.toRfc3339 time) }
  else planned.status

/-- The creations of a starting pass in their order, and the status it ends with, if it comes to
its end. -/
structure StartPlan where
  jobs : List (ObjectKey × Tracked Job)
  services : List (ObjectKey × Tracked Json)
  write : Option PlannedStatus

/-- Stop without a word. -/
def StartPlan.stop : StartPlan := ⟨[], [], none⟩

/-- Fail the experiment with a message. -/
def StartPlan.refuse (message : String) : StartPlan := ⟨[], [], some ⟨failedStatus message, false⟩⟩

/-- The listing of a namespace. -/
def listedServices (ns : String) (cluster : Cluster) : List VirtualServiceInfo :=
  (cluster.virtualServices.listing.filter fun entry => entry.1.1 = ns).map fun entry =>
    virtualServiceInfo entry.1.2 entry.2.value

/-- Does a namespace hold a VirtualService without the operator's mark? -/
def hasConflict (ns : String) (cluster : Cluster) : Bool :=
  (listedServices ns cluster).any fun vs => !isChaosManaged vs.labels

section Plan

variable (deployment : Deployment) (surroundings : Surroundings) (experiment : ChaosExperiment)
  (id : String)

/-- The Jobs of the nodes, up to the first node whose Job cannot be built. -/
def plannedJobs : List String → List Job
  | [] => []
  | node :: rest =>
    match jobOfNode deployment.crates deployment.config experiment id node with
    | none => []
    | some job => job :: plannedJobs rest

/-- Can the Job of every node be built? -/
def allBuilt (nodes : List String) : Bool :=
  nodes.all fun node =>
    (jobOfNode deployment.crates deployment.config experiment id node).isSome

def jobEntry (job : Job) : ObjectKey × Tracked Job :=
  (jobKey (expNamespace experiment) job, ⟨job, some (actorOf experiment)⟩)

def serviceEntry (vsJson : Json) : ObjectKey × Tracked Json :=
  (documentKey (targetNamespace experiment) vsJson, ⟨vsJson, some (actorOf experiment)⟩)

def plannedNames (nodes : List String) : List String :=
  (plannedJobs deployment experiment id nodes).map fun job => job.metadata.name.getD ""

def planPod : StartPlan :=
  match surroundings.targetNodes with
  | .error _ => .stop
  | .ok nodes =>
    if nodes.isEmpty then .refuse ValidationError.noTargetNodes.toString
    else {
      jobs := (plannedJobs deployment experiment id nodes).map (jobEntry experiment)
      services := []
      write :=
        if allBuilt deployment experiment id nodes then
          some ⟨runningPodStatus experiment id nodes (plannedNames deployment experiment id nodes)
            "", true⟩
        else none }

def planFault (edge : EdgeTarget) (sourceLabels : Labels) : StartPlan :=
  match buildFaultForScenario experiment.spec.scenario
      (experiment.spec.parameters.getD (.object [])) with
  | none => .refuse "cannot build fault for scenario"
  | some fault =>
    match virtualServiceName id with
    | none => .stop
    | some vsName => {
        jobs := []
        services := [serviceEntry experiment (buildVirtualServiceJson
          (edgeVirtualService experiment edge vsName sourceLabels fault))]
        write := some ⟨runningEdgeStatus experiment edge id "", true⟩ }

def planResolved (edge : EdgeTarget) (sourceLabels : Labels) : StartPlan :=
  if deployment.edgeResolver then
    match surroundings.resolvedEdge with
    | .error error => .refuse error.toString
    | .ok _ => planFault experiment id edge sourceLabels
  else planFault experiment id edge sourceLabels

def planEdge (cluster : Cluster) : StartPlan :=
  match experiment.spec.target.bind Target.edge with
  | none => .stop
  | some edge =>
    match surroundings.serviceSelector with
    | .error _ => .refuse (ValidationError.sourceServiceNotFound edge.sourceService).toString
    | .ok labels =>
      if labels.isEmpty then
        .refuse (ValidationError.sourceServiceNotFound edge.sourceService).toString
      else if hasConflict (targetNamespace experiment) cluster then
        .refuse (ValidationError.conflictingVirtualService
          (fqdn edge.destinationService (targetNamespace experiment))).toString
      else planResolved deployment surroundings experiment id edge labels

/-- The plan of a pass on a pending experiment. -/
def startPlan (cluster : Cluster) : StartPlan :=
  match validateExperiment experiment.spec with
  | .error error => .refuse error.toString
  | .ok _ =>
    if experiment.spec.scenario.isEdgeChaos then
      planEdge deployment surroundings experiment id cluster
    else planPod deployment surroundings experiment id

end Plan

/-! ### A plan that is carried out -/

/-- The first creations of a plan have been made, and nothing else. -/
structure PartlyDone (plan : StartPlan) (before after : Cluster) : Prop where
  experiments : after.experiments = before.experiments
  jobs : ∃ count, after.jobs = before.jobs.createAll (plan.jobs.take count)
  services : ∃ count,
    after.virtualServices = before.virtualServices.createAll (plan.services.take count)

/-- What a plan makes of the experiments. -/
def ExperimentsAfter (crates : Crates) (plan : StartPlan) (key : ObjectKey)
    (before after : Cluster) : Prop :=
  match plan.write with
  | none => after.experiments = before.experiments
  | some planned => ∃ time, after.experiments =
      before.experiments.update key fun object => object.patchStatus (planned.writtenAt crates time)

/-- The plan has been carried out as far as it goes. -/
structure WhollyDone (crates : Crates) (plan : StartPlan) (key : ObjectKey)
    (before after : Cluster) : Prop where
  experiments : ExperimentsAfter crates plan key before after
  jobs : after.jobs = before.jobs.createAll plan.jobs
  services : after.virtualServices = before.virtualServices.createAll plan.services

section Carries

variable {deployment : Deployment} {surroundings : Surroundings} {experiment : ChaosExperiment}
  {id : String} {plan : StartPlan} {before cluster : Cluster}

/-- A handler carries out a plan, and it can be cut off before it writes the status. -/
def Carries (deployment : Deployment) (surroundings : Surroundings)
    (experiment : ChaosExperiment) (plan : StartPlan) (before : Cluster) {Value : Type}
    (handler : Handler Value) (cluster : Cluster) : Prop :=
  handler.Survives (serve surroundings (actorOf experiment)) ApiCall.isPatch
    (PartlyDone plan before) (WhollyDone deployment.crates plan (actorOf experiment) before) cluster

theorem PartlyDone.refl (plan : StartPlan) (cluster : Cluster) :
    PartlyDone plan cluster cluster := ⟨rfl, ⟨0, rfl⟩, ⟨0, rfl⟩⟩

theorem PartlyDone.whole (experiments : cluster.experiments = before.experiments)
    (jobs : cluster.jobs = before.jobs.createAll plan.jobs)
    (services : cluster.virtualServices = before.virtualServices.createAll plan.services) :
    PartlyDone plan before cluster where
  experiments
  jobs := ⟨plan.jobs.length, by rw [List.take_length, jobs]⟩
  services := ⟨plan.services.length, by rw [List.take_length, services]⟩

/-- A creation that is served at best counts as done. -/
theorem tolerate_creationAnswer (taken : Bool) :
    tolerate isAlreadyExists (creationAnswer taken) = .done () := by
  cases taken <;> rfl

/-- The rule for a call that is not a status write. -/
theorem carries_call {Value : Type} {request : ApiCall}
    {continuation : Answer request → Handler Value} {answer : Answer request} {after : Cluster}
    (answered : serve surroundings (actorOf experiment) request cluster = (answer, after))
    (harmless : request.isPatch = false) (here : PartlyDone plan before cluster)
    (goes : Carries deployment surroundings experiment plan before (continuation answer) after) :
    Carries deployment surroundings experiment plan before (call request >>= continuation)
      cluster :=
  .request_bind answered harmless here goes

theorem carries_patch (planned : PlannedStatus) (time : Int)
    (written : plan.write = some planned) (experiments : cluster.experiments = before.experiments)
    (jobs : cluster.jobs = before.jobs.createAll plan.jobs)
    (services : cluster.virtualServices = before.virtualServices.createAll plan.services) :
    Carries deployment surroundings experiment plan before
      (patchStatus (expNamespace experiment) (expName experiment)
        (planned.writtenAt deployment.crates time)) cluster := by
  unfold patchStatus
  rw [call_then]
  refine .commit rfl (.whole experiments jobs services) ?_
  rw [Program.exec_ofExcept]
  refine ⟨?_, jobs, services⟩
  rw [ExperimentsAfter, written, ← experiments]
  exact ⟨time, rfl⟩

/-- The clock is read and the time is written into the status. -/
theorem carries_timed (status : ChaosExperimentStatus)
    (written : plan.write = some ⟨status, true⟩)
    (experiments : cluster.experiments = before.experiments)
    (jobs : cluster.jobs = before.jobs.createAll plan.jobs)
    (services : cluster.virtualServices = before.virtualServices.createAll plan.services) :
    Carries deployment surroundings experiment plan before
      (nowRfc3339 deployment.crates >>= fun startedAt =>
        patchStatus (expNamespace experiment) (expName experiment)
          { status with startedAt := some startedAt }) cluster :=
  .call rfl rfl (.whole experiments jobs services)
    (carries_patch ⟨status, true⟩ _ written experiments jobs services)

theorem carries_refuse (message : String) :
    Carries deployment surroundings experiment (.refuse message) cluster
      (patchFailed (expNamespace experiment) (expName experiment) message) cluster :=
  carries_patch ⟨failedStatus message, false⟩ 0 rfl rfl rfl rfl

theorem carries_stop : PartlyDone .stop cluster cluster ∧
    WhollyDone deployment.crates .stop (actorOf experiment) cluster cluster :=
  ⟨.refl _ _, rfl, rfl, rfl⟩

/-! ### The pod path -/

/-- The creation of the Jobs, one call for each, with what comes after it. -/
theorem survives_createJobs {Value : Type} {crash finish : Cluster → Prop} (todo : List String)
    (continuation : List String → Handler Value) (cluster : Cluster)
    (cut : ∀ count, crash { cluster with
      jobs := cluster.jobs.createAll
        (((plannedJobs deployment experiment id todo).map (jobEntry experiment)).take count) })
    (whole : allBuilt deployment experiment id todo = true →
      (continuation (plannedNames deployment experiment id todo)).Survives
        (serve surroundings (actorOf experiment)) ApiCall.isPatch crash finish { cluster with
          jobs := cluster.jobs.createAll
            ((plannedJobs deployment experiment id todo).map (jobEntry experiment)) })
    (broken : allBuilt deployment experiment id todo = false → finish { cluster with
      jobs := cluster.jobs.createAll
        ((plannedJobs deployment experiment id todo).map (jobEntry experiment)) }) :
    (createJobs deployment.crates deployment.config experiment id todo >>= continuation).Survives
      (serve surroundings (actorOf experiment)) ApiCall.isPatch crash finish cluster := by
  induction todo generalizing cluster continuation with
  | nil => exact whole rfl
  | cons node rest inductionHypothesis =>
    rw [createJobs]
    cases built : jobOfNode deployment.crates deployment.config experiment id node with
    | none =>
      simp only [plannedJobs, allBuilt, built, List.all_cons] at cut broken
      exact ⟨cut 0, broken rfl⟩
    | some job =>
      simp only [plannedJobs, plannedNames, allBuilt, built, List.all_cons, List.map_cons]
        at cut whole broken
      have created : serve surroundings (actorOf experiment)
          (.createJob (expNamespace experiment) job) cluster =
          (creationAnswer _, effect surroundings (actorOf experiment) cluster _) := rfl
      rw [Program.ofOption_some, Program.done_bind, Program.bind_assoc]
      refine .request_bind created rfl (cut 0) ?_
      rw [tolerate_creationAnswer, Program.done_bind, Program.bind_assoc]
      exact inductionHypothesis (fun jobNames => continuation (_ :: jobNames)) _
        (fun count => cut (count + 1)) whole broken

theorem carries_handlePendingPod :
    Carries deployment surroundings experiment
      (planPod deployment surroundings experiment id) cluster
      (handlePendingPod deployment.crates deployment.config experiment id) cluster := by
  have answered : serve surroundings (actorOf experiment)
      (.listTargetNodes (targetNamespace experiment)) cluster =
        (surroundings.targetNodes, cluster) := rfl
  refine carries_call answered rfl (.refl _ _) ?_
  unfold planPod
  cases surroundings.targetNodes with
  | error error => exact carries_stop
  | ok nodes =>
    simp only [Program.ofExcept_ok, Program.done_bind]
    by_cases empty : nodes.isEmpty = true
    · rw [if_pos empty, if_pos empty]
      exact carries_refuse _
    · rw [if_neg empty, if_neg empty]
      refine survives_createJobs nodes _ cluster (fun count => ⟨rfl, ⟨count, rfl⟩, ⟨0, rfl⟩⟩)
        (fun built => ?_) fun broken => ?_
      · rw [if_pos built]
        exact carries_timed (runningPodStatus experiment id nodes
          (plannedNames deployment experiment id nodes) "") rfl rfl rfl rfl
      · rw [broken]
        exact ⟨rfl, rfl, rfl⟩

/-! ### The edge path -/

theorem carries_injectEdgeFault (edge : EdgeTarget) (sourceLabels : Labels) :
    Carries deployment surroundings experiment (planFault experiment id edge sourceLabels) cluster
      (injectEdgeFault deployment.crates experiment edge id sourceLabels) cluster := by
  unfold injectEdgeFault planFault
  dsimp only
  cases buildFaultForScenario experiment.spec.scenario
      (experiment.spec.parameters.getD (.object [])) with
  | none => exact carries_refuse _
  | some fault =>
    cases virtualServiceName id with
    | none => exact carries_stop
    | some vsName =>
      simp only [Program.ofOption_some, Program.done_bind]
      have created : serve surroundings (actorOf experiment)
          (.createVirtualService (targetNamespace experiment) (buildVirtualServiceJson
            (edgeVirtualService experiment edge vsName sourceLabels fault))) cluster =
          (creationAnswer _, effect surroundings (actorOf experiment) cluster _) := rfl
      refine carries_call created rfl (.refl _ _) ?_
      rw [tolerate_creationAnswer, Program.done_bind]
      exact carries_timed (runningEdgeStatus experiment edge id "") rfl rfl rfl rfl

theorem carries_checkEdge (edge : EdgeTarget) (sourceLabels : Labels) :
    Carries deployment surroundings experiment
      (planResolved deployment surroundings experiment id edge sourceLabels) cluster
      (checkEdge deployment.crates deployment.edgeResolver experiment edge id sourceLabels)
      cluster := by
  unfold checkEdge planResolved
  by_cases resolver : deployment.edgeResolver = true
  · rw [if_pos resolver, if_pos resolver]
    have answered : serve surroundings (actorOf experiment) (.resolveEdge edge.sourceService
        edge.destinationService (targetNamespace experiment)) cluster =
          (surroundings.resolvedEdge, cluster) := rfl
    refine carries_call answered rfl (.refl _ _) ?_
    cases surroundings.resolvedEdge with
    | error error => exact carries_refuse _
    | ok info => exact carries_injectEdgeFault edge sourceLabels
  · rw [if_neg resolver, if_neg resolver]
    exact carries_injectEdgeFault edge sourceLabels

theorem carries_handlePendingEdge :
    Carries deployment surroundings experiment
      (planEdge deployment surroundings experiment id cluster) cluster
      (handlePendingEdge deployment.crates deployment.edgeResolver experiment id) cluster := by
  unfold handlePendingEdge planEdge
  cases experiment.spec.target.bind Target.edge with
  | none => exact carries_stop
  | some edge =>
    have answered : serve surroundings (actorOf experiment)
        (.getServiceSelector (targetNamespace experiment) edge.sourceService) cluster =
          (surroundings.serviceSelector, cluster) := rfl
    refine carries_call answered rfl (.refl _ _) ?_
    cases surroundings.serviceSelector with
    | error error => exact carries_refuse _
    | ok labels =>
      dsimp only
      by_cases empty : labels.isEmpty = true
      · rw [if_pos empty, if_pos empty]
        exact carries_refuse _
      · rw [if_neg empty, if_neg empty]
        have listed : serve surroundings (actorOf experiment)
            (.listVirtualServicesForHost (targetNamespace experiment)
              (fqdn edge.destinationService (targetNamespace experiment))) cluster =
              (.ok (listedServices (targetNamespace experiment) cluster), cluster) := rfl
        refine carries_call listed rfl (.refl _ _) ?_
        simp only [Program.ofExcept_ok, Program.done_bind]
        rw [hasConflict]
        by_cases conflict : ((listedServices (targetNamespace experiment) cluster).any fun vs =>
            !isChaosManaged vs.labels) = true
        · rw [if_pos conflict, if_pos conflict]
          exact carries_refuse _
        · rw [if_neg conflict, if_neg conflict]
          exact carries_checkEdge edge labels

/-! ### The whole pass -/

/-- A pass on a pending experiment without a recorded identifier carries out the plan for its
uid. -/
theorem carries_pass {uid : String} (pending : Pending experiment)
    (unrecorded : (statusOf experiment).experimentId = none)
    (known : experiment.metadata.uid = some uid) :
    Carries deployment surroundings experiment
      (startPlan deployment surroundings experiment uid cluster) cluster
      (deployment.pass experiment) cluster := by
  obtain ⟨⟨finalizer, alive⟩, phase⟩ := pending
  unfold Deployment.pass reconcile
  simp only [finalizer, alive, phase, Bool.false_eq_true, if_false]
  refine Program.Survives.bind_done ?_ fun _ => ReconcileResult.requeue (requeueDuration .running)
  unfold handlePending startPlan
  cases validateExperiment experiment.spec with
  | error error => exact carries_refuse _
  | ok value =>
    simp only [experimentIdOf, unrecorded, known, Program.pure_eq, Program.done_bind]
    by_cases edgeChaos : experiment.spec.scenario.isEdgeChaos = true
    · rw [if_pos edgeChaos, if_pos edgeChaos]
      exact carries_handlePendingEdge
    · rw [if_neg edgeChaos, if_neg edgeChaos]
      exact carries_handlePendingPod

/-! ### The same plan again -/

theorem hasConflict_iff {ns : String} : hasConflict ns cluster = true ↔ ∃ place tracked,
    cluster.virtualServices.lookup place = some tracked ∧ place.1 = ns ∧
      isChaosManaged (documentLabels tracked.value) = false := by
  rw [hasConflict, List.any_eq_true]
  constructor
  · rintro ⟨vs, member, foreign⟩
    obtain ⟨⟨place, tracked⟩, inside, rfl⟩ := List.mem_map.mp member
    obtain ⟨listed, same⟩ := List.mem_filter.mp inside
    exact ⟨place, tracked, (Store.mem_listing _ _ _).mp listed, of_decide_eq_true same,
      by simpa [virtualServiceInfo] using foreign⟩
  · rintro ⟨place, tracked, found, same, foreign⟩
    refine ⟨virtualServiceInfo place.2 tracked.value, List.mem_map.mpr ⟨(place, tracked), ?_, rfl⟩,
      by simpa [virtualServiceInfo] using foreign⟩
    exact List.mem_filter.mpr ⟨(Store.mem_listing _ _ _).mpr found, decide_eq_true same⟩

/-- A plan creates no VirtualService without the operator's mark. -/
def StartPlan.Managed (plan : StartPlan) : Prop :=
  ∀ entry ∈ plan.services, isChaosManaged (documentLabels entry.2.value) = true

theorem managed_of_nil {plan : StartPlan} (none : plan.services = []) : plan.Managed := by
  intro entry member
  rw [none] at member
  cases member

theorem managed_planFault (edge : EdgeTarget) (sourceLabels : Labels) :
    (planFault experiment id edge sourceLabels).Managed := by
  unfold planFault
  split
  · exact managed_of_nil rfl
  · split
    · exact managed_of_nil rfl
    · intro entry member
      obtain rfl := List.mem_singleton.mp member
      exact isChaosManaged_build _

theorem managed_planEdge :
    (planEdge deployment surroundings experiment id cluster).Managed := by
  unfold planEdge
  split
  · exact managed_of_nil rfl
  · split
    · exact managed_of_nil rfl
    · split_ifs
      · exact managed_of_nil rfl
      · exact managed_of_nil rfl
      · unfold planResolved
        split
        · split
          · exact managed_of_nil rfl
          · exact managed_planFault _ _
        · exact managed_planFault _ _

theorem managed_planPod : (planPod deployment surroundings experiment id).Managed := by
  unfold planPod
  split
  · exact managed_of_nil rfl
  · split <;> exact managed_of_nil rfl

theorem managed_startPlan : (startPlan deployment surroundings experiment id cluster).Managed := by
  unfold startPlan
  split
  · exact managed_of_nil rfl
  · split
    · exact managed_planEdge
    · exact managed_planPod

/-- The creations of a plan make no conflict. -/
theorem PartlyDone.hasConflict_eq {after : Cluster} (partly : PartlyDone plan before after)
    (managed : plan.Managed) (ns : String) : hasConflict ns after = hasConflict ns before := by
  obtain ⟨count, services⟩ := partly.services
  rw [Bool.eq_iff_iff, hasConflict_iff, hasConflict_iff]
  constructor
  · rintro ⟨place, tracked, found, same, foreign⟩
    rw [services] at found
    rcases Store.mem_of_lookup_createAll found with held | member
    · exact ⟨place, tracked, held, same, foreign⟩
    · rw [managed _ (List.mem_of_mem_take member)] at foreign
      cases foreign
  · rintro ⟨place, tracked, found, same, foreign⟩
    refine ⟨place, tracked, ?_, same, foreign⟩
    rw [services, Store.lookup_createAll, found, Option.some_or]

/-- A pass that starts again makes the plan it has been cut off in. -/
theorem startPlan_again {after : Cluster}
    (partly : PartlyDone (startPlan deployment surroundings experiment id before) before after) :
    startPlan deployment surroundings experiment id after =
      startPlan deployment surroundings experiment id before := by
  unfold startPlan planEdge
  rw [partly.hasConflict_eq managed_startPlan]

/-! ### The same outcome -/

/-- A status up to the time of its start. -/
def withoutStart (status : ChaosExperimentStatus) : ChaosExperimentStatus :=
  { status with startedAt := none }

theorem withoutStart_writtenAt (crates : Crates) (planned : PlannedStatus) (time : Int) :
    withoutStart (planned.writtenAt crates time) = withoutStart planned.status := by
  unfold PlannedStatus.writtenAt
  split <;> rfl

/-- Two clusters have the same Jobs and VirtualServices, and the status of an experiment differs
at most in the time of its start. -/
structure SameOutcome (key : ObjectKey) (first second : Cluster) : Prop where
  jobs : ∀ place, first.jobs.lookup place = second.jobs.lookup place
  services : ∀ place, first.virtualServices.lookup place = second.virtualServices.lookup place
  others : ∀ other, other ≠ key → first.experiments.lookup other = second.experiments.lookup other
  status : ∃ status status', storedStatus key first = some status ∧
    storedStatus key second = some status' ∧ withoutStart status = withoutStart status'

/-- What a plan says about the final status of an experiment that had none. -/
def StartPlan.finalStatus (plan : StartPlan) : ChaosExperimentStatus :=
  withoutStart ((plan.write.map PlannedStatus.status).getD default)

theorem ExperimentsAfter.status {crates : Crates} {key : ObjectKey} {object : ExperimentObject}
    {after : Cluster} (written : ExperimentsAfter crates plan key before after)
    (stored : before.experiments.lookup key = some object) (fresh : object.status = .null) :
    ∃ status, storedStatus key after = some status ∧ withoutStart status = plan.finalStatus := by
  unfold ExperimentsAfter at written
  unfold StartPlan.finalStatus
  cases write : plan.write with
  | none =>
    rw [write] at written
    refine ⟨default, storedStatus_eq_some.mpr ⟨object, ?_, by rw [fresh]; rfl⟩, rfl⟩
    rw [written, stored]
  | some planned =>
    rw [write] at written
    obtain ⟨time, updated⟩ := written
    refine ⟨planned.writtenAt crates time, storedStatus_eq_some.mpr
      ⟨object.patchStatus (planned.writtenAt crates time), ?_, ?_⟩, withoutStart_writtenAt _ _ _⟩
    · rw [updated, Store.lookup_update, if_pos rfl, stored, Option.map_some]
    · rw [ExperimentObject.patchStatus, fresh, ChaosExperimentStatus.parse_mergePatch_null]

theorem ExperimentsAfter.others {crates : Crates} {key other : ObjectKey} {after : Cluster}
    (written : ExperimentsAfter crates plan key before after) (different : other ≠ key) :
    after.experiments.lookup other = before.experiments.lookup other := by
  unfold ExperimentsAfter at written
  cases write : plan.write with
  | none =>
    rw [write] at written
    rw [written]
  | some planned =>
    rw [write] at written
    obtain ⟨time, updated⟩ := written
    rw [updated, Store.lookup_update, if_neg different]

/-- Carrying out a plan after its first creations have been made has the outcome of carrying it
out once. -/
theorem sameOutcome_of_partlyDone {crates : Crates} {key : ObjectKey} {object : ExperimentObject}
    {crashed again once : Cluster} (partly : PartlyDone plan before crashed)
    (restarted : WhollyDone crates plan key crashed again)
    (uninterrupted : WhollyDone crates plan key before once)
    (stored : before.experiments.lookup key = some object) (fresh : object.status = .null) :
    SameOutcome key again once where
  jobs := fun place => by
    obtain ⟨count, jobs⟩ := partly.jobs
    rw [restarted.jobs, jobs, uninterrupted.jobs, Store.lookup_createAll_take]
  services := fun place => by
    obtain ⟨count, services⟩ := partly.services
    rw [restarted.services, services, uninterrupted.services, Store.lookup_createAll_take]
  others := fun other different => by
    rw [restarted.experiments.others different, uninterrupted.experiments.others different,
      partly.experiments]
  status := by
    obtain ⟨status, found, same⟩ :=
      restarted.experiments.status (by rw [partly.experiments]; exact stored) fresh
    obtain ⟨status', found', same'⟩ := uninterrupted.experiments.status stored fresh
    exact ⟨status, status', found, found', same.trans same'.symm⟩

end Carries

/-! ### Cut off and started again -/

/-- The server at its best in surroundings that stay as they are, with the clock running. -/
def steadyServer (surroundings : Surroundings) (elapsed : Nat) : Server := fun experiment =>
  serve { surroundings with elapsed } (actorOf experiment)

/-- The exchanges of a whole pass on a fresh experiment. -/
def freshTranscript (deployment : Deployment) (server : Server) (key : ObjectKey)
    (object : ExperimentObject) (cluster : Cluster) : History :=
  (deployment.pass (freshSnapshot key object)).transcript (server (freshSnapshot key object))
    cluster

/-- The cluster when a pass on a fresh experiment dies after some calls. -/
def crashedPass (deployment : Deployment) (server : Server) (key : ObjectKey)
    (object : ExperimentObject) (count : Nat) (cluster : Cluster) : Cluster :=
  Program.execFor (server (freshSnapshot key object)) count
    (deployment.pass (freshSnapshot key object)) cluster

theorem runPass_of_fresh {deployment : Deployment} {server : Server} {key : ObjectKey}
    {object : ExperimentObject} {cluster : Cluster}
    (stored : cluster.experiments.lookup key = some object) (fresh : object.status = .null) :
    runPass deployment server key cluster =
      clusterAfter deployment server (freshSnapshot key object) cluster := by
  have decoded : object.snapshot key = some (freshSnapshot key object) := by
    unfold ExperimentObject.snapshot
    rw [fresh]
    rfl
  rw [runPass, stored, Option.bind_some, decoded]

theorem pending_freshSnapshot (key : ObjectKey) {object : ExperimentObject}
    (finalizer : finalizerName ∈ object.finalizers.getD [])
    (alive : object.deletionTimestamp = none) : Pending (freshSnapshot key object) := by
  refine ⟨⟨?_, ?_⟩, rfl⟩
  · exact needsFinalizer_eq_false_iff.mpr finalizer
  · show object.deletionTimestamp.isSome = false
    rw [alive]
    rfl

/-- When the operator dies anywhere in the first pass on an experiment, before its status is
stored, the next whole pass leaves the cluster as one pass without interruption does. -/
theorem restart_sameOutcome (deployment : Deployment) (surroundings : Surroundings)
    (first second third : Nat) (key : ObjectKey) (object : ExperimentObject) (initial : Cluster)
    (stored : initial.experiments.lookup key = some object) (fresh : object.status = .null)
    (finalizer : finalizerName ∈ object.finalizers.getD [])
    (alive : object.deletionTimestamp = none) (count : Nat)
    (unwritten : NoWrite ((freshTranscript deployment (steadyServer surroundings first) key object
      initial).take count)) :
    SameOutcome key
      (runPass deployment (steadyServer surroundings second) key
        (crashedPass deployment (steadyServer surroundings first) key object count initial))
      (runPass deployment (steadyServer surroundings third) key initial) := by
  have pending := pending_freshSnapshot key finalizer alive
  have carried (elapsed : Nat) (cluster : Cluster) :
      Carries deployment { surroundings with elapsed } (freshSnapshot key object)
        (startPlan deployment surroundings (freshSnapshot key object) object.uid cluster) cluster
        (deployment.pass (freshSnapshot key object)) cluster :=
    carries_pass pending rfl rfl
  let crashed :=
    crashedPass deployment (steadyServer surroundings first) key object count initial
  have partly : PartlyDone
      (startPlan deployment surroundings (freshSnapshot key object) object.uid initial) initial
      crashed := (carried first initial).crashed count unwritten
  have restored : crashed.experiments.lookup key = some object := by
    rw [partly.experiments, stored]
  have restarted := (carried second crashed).ended
  rw [startPlan_again partly] at restarted
  rw [runPass_of_fresh stored fresh, runPass_of_fresh restored fresh]
  exact sameOutcome_of_partlyDone partly restarted (carried third initial).ended stored fresh

/-- The operator dies after it has created the VirtualService of the sample, and starts again ten
seconds later. -/
theorem restart_sameOutcome_sample : SameOutcome sampleKey
    (runPass sampleDeployment (steadyServer sampleSurroundings 10000000000) sampleKey
      (crashedPass sampleDeployment (steadyServer sampleSurroundings 0) sampleKey sampleEdge 3
        (sampleCluster [(sampleKey, sampleEdge)])))
    (runPass sampleDeployment (steadyServer sampleSurroundings 0) sampleKey
      (sampleCluster [(sampleKey, sampleEdge)])) :=
  restart_sameOutcome sampleDeployment sampleSurroundings 0 10000000000 0 sampleKey sampleEdge
    (sampleCluster [(sampleKey, sampleEdge)]) rfl rfl (by decide) rfl 3 (by decide +kernel)

/-- What the operator leaves behind there is the VirtualService. -/
example : ((crashedPass sampleDeployment (steadyServer sampleSurroundings 0) sampleKey sampleEdge 3
    (sampleCluster [(sampleKey, sampleEdge)])).virtualServices.lookup
      ("shop", "chaos-edge-0b8f5c1e")).isSome = true := by
  decide +kernel

end ChimpChaos
