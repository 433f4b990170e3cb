/-
This file settles which VirtualServices fail a pending edge experiment for a conflict.

The reconciler asks for the VirtualServices of the destination host, but the client lists the
whole namespace and ignores the host. So an experiment is failed as soon as the target namespace
holds any VirtualService of somebody else, whatever its hosts. The check is right exactly when
one of these is on the destination host whenever there are any.
-/

import ChimpChaos.Library.Text
import ChimpChaos.Proof.CleanupGuarantee
import ChimpChaos.Proof.Rejections

namespace ChimpChaos

open Library Program

/-! ### VirtualServices of others -/

/-- A VirtualService of a namespace that is not managed by the operator. -/
structure IsForeign (ns : String) (cluster : Cluster) (place : ObjectKey) (tracked : Tracked Json) :
    Prop where
  found : cluster.virtualServices.lookup place = some tracked
  inside : place.1 = ns
  unmanaged : isChaosManaged (documentLabels tracked.value) = false

/-- A namespace holds a VirtualService that is not the operator's. -/
def HoldsForeign (ns : String) (cluster : Cluster) : Prop :=
  ∃ place tracked, IsForeign ns cluster place tracked

/-- A VirtualService of a namespace that is not the operator's lists a host. -/
def HostTaken (ns host : String) (cluster : Cluster) : Prop :=
  ∃ place tracked, IsForeign ns cluster place tracked ∧ host ∈ documentHosts tracked.value

/-- The destination of an edge as a host. -/
def destinationHost (experiment : ChaosExperiment) (edge : EdgeTarget) : String :=
  fqdn edge.destinationService (targetNamespace experiment)

/-- The pass has failed its experiment for a conflict about a host. -/
def FailsForConflict (experiment : ChaosExperiment) (host : String) (trace : History) : Prop :=
  ∃ told, ⟨failedPatch experiment (ValidationError.conflictingVirtualService host).toString, told⟩ ∈
    trace

/-- The VirtualServices of a host have been listed. -/
def ListedFor (experiment : ChaosExperiment) (host : String) (trace : History) : Prop :=
  ∃ services, ⟨.listVirtualServicesForHost (targetNamespace experiment) host, .ok services⟩ ∈ trace

theorem HostTaken.holdsForeign {ns host : String} {cluster : Cluster}
    (taken : HostTaken ns host cluster) : HoldsForeign ns cluster := by
  obtain ⟨place, tracked, foreign, -⟩ := taken
  exact ⟨place, tracked, foreign⟩

/-! ### What a pending pass learns from the listing -/

/-- No VirtualService goes away in a pending pass, any new one is the operator's, and the
listings show what there was of others. -/
structure OthersKnown (before : Cluster) (history : History) (cluster : Cluster) : Prop where
  kept : ∀ place tracked, before.virtualServices.lookup place = some tracked →
    cluster.virtualServices.lookup place = some tracked
  foreign : ∀ place tracked, cluster.virtualServices.lookup place = some tracked →
    isChaosManaged (documentLabels tracked.value) = false →
    before.virtualServices.lookup place = some tracked
  shown : ∀ ns host services, ⟨.listVirtualServicesForHost ns host, .ok services⟩ ∈ history →
    ∀ place tracked, before.virtualServices.lookup place = some tracked → place.1 = ns →
      virtualServiceInfo place.2 tracked.value ∈ services
  genuine : ∀ ns host services, ⟨.listVirtualServicesForHost ns host, .ok services⟩ ∈ history →
    ∀ vs ∈ services, isChaosManaged vs.labels = false → HoldsForeign ns before

section Listing

variable {deployment : Deployment} {experiment : ChaosExperiment} {history : History}
  {before first second : Cluster} {request : ApiCall} {answer : Answer request}

theorem othersKnown_start : OthersKnown before [] before where
  kept := fun _ _ found => found
  foreign := fun _ _ found _ => found
  shown := fun _ _ _ member => absurd member List.not_mem_nil
  genuine := fun _ _ _ member => absurd member List.not_mem_nil

/-- One call of a pending pass. -/
theorem OthersKnown.call (known : OthersKnown before history first)
    (starting : Starting experiment) (issued : deployment.Issued experiment history request)
    (permitted : Permits (actorOf experiment) request first answer second) :
    OthersKnown before (⟨request, answer⟩ :: history) second := by
  have stays (place : ObjectKey) (tracked : Tracked Json)
      (found : before.virtualServices.lookup place = some tracked) :
      second.virtualServices.lookup place = some tracked := by
    refine permitted.service_kept (known.kept place tracked found) ?_
    rintro rfl
    exact starting.1.not_cleansUp issued.issues.removesService
  refine ⟨stays, ?_, ?_, ?_⟩
  · intro place tracked found unmanaged
    rcases permitted.any.advance.virtualService place tracked found with
      held | ⟨ns, document, rfl, -, rfl⟩
    · exact known.foreign place tracked held unmanaged
    · obtain ⟨id, edge, sourceLabels, -, -, built⟩ := issued.issues.serviceAsked.source
      obtain ⟨vsName, fault, -, -, rfl⟩ := built.built
      exact absurd ((isChaosManaged_build _).symm.trans unmanaged) (by simp)
  · intro ns host services member place tracked found inside
    rcases List.mem_cons.mp member with here | member
    · cases here
      exact permitted.listed (stays place tracked found) inside
    · exact known.shown ns host services member place tracked found inside
  · intro ns host services member vs listed unmanaged
    rcases List.mem_cons.mp member with here | member
    · cases here
      obtain ⟨tracked, found, same⟩ := permitted.of_listed listed
      rw [same] at unmanaged
      exact ⟨_, tracked, known.foreign _ tracked found unmanaged, rfl, unmanaged⟩
    · exact known.genuine ns host services member vs listed unmanaged

end Listing

/-! ### The reason of a conflict -/

/-- The message about a conflict is given for a listing that shows a VirtualService of others. -/
theorem FailureReason.conflict {experiment : ChaosExperiment} {history : History} {host : String}
    {message : String} (reason : FailureReason experiment history message)
    (starting : Starting experiment)
    (same : message = (ValidationError.conflictingVirtualService host).toString) :
    ∃ edge services, experiment.spec.target.bind Target.edge = some edge ∧
      ⟨.listVirtualServicesForHost (targetNamespace experiment) (destinationHost experiment edge),
        .ok services⟩ ∈ history ∧
      ∃ vs ∈ services, isChaosManaged vs.labels = false := by
  cases reason with
  | invalid error refused => exact absurd (starting.2.symm.trans refused) (by simp)
  | noTargetNodes =>
    exact absurd same (ne_append_of_clash "no target nodes found" (by decide) host)
  | sourceServiceNotFound => exact absurd same (append_ne_of_clash (by decide) _ host)
  | conflictingVirtualService edgeChaos edge target services listed vs member foreign =>
    exact ⟨edge, services, target, listed, vs, member, foreign⟩
  | unresolved edgeChaos edge target error =>
    cases error <;> exact absurd same (append_ne_of_clash (by decide) _ host)
  | noFault =>
    exact absurd same (ne_append_of_clash "cannot build fault for scenario" (by decide) host)

section Conflict

variable {deployment : Deployment} {experiment : ChaosExperiment} {edge : EdgeTarget}
  {before after : Cluster} {trace : History} {rest : Handler ReconcileResult}

/-- A pending pass fails its experiment for a conflict if and only if the listing is answered and
the target namespace holds a VirtualService of somebody else. -/
theorem failsForConflict_iff (starting : Starting experiment)
    (target : experiment.spec.target.bind Target.edge = some edge)
    (reaches : Reaches (apiServer experiment) (deployment.pass experiment) before trace rest after)
    (ended : rest.Ended) :
    FailsForConflict experiment (destinationHost experiment edge) trace ↔
      ListedFor experiment (destinationHost experiment edge) trace ∧
        HoldsForeign (targetNamespace experiment) before := by
  have known : OthersKnown before trace.reverse after := by
    refine passInvariant reaches othersKnown_start ?_
    intro earlier request first answer second known issued permitted
    exact known.call starting issued permitted
  constructor
  · rintro ⟨told, member⟩
    obtain ⟨earlier, subset, reason⟩ := reason_of_failedPatch starting reaches member
    obtain ⟨other, services, same, listed, vs, shown, unmanaged⟩ := reason.conflict starting rfl
    rw [target] at same
    obtain rfl := Option.some.inj same
    exact ⟨⟨services, subset listed⟩,
      known.genuine _ _ services (List.mem_reverse.mpr (subset listed)) vs shown unmanaged⟩
  · rintro ⟨⟨services, listed⟩, place, tracked, found, inside, unmanaged⟩
    have shown := known.shown _ _ services (List.mem_reverse.mpr listed) place tracked found inside
    have foreign : (services.any fun vs => !isChaosManaged vs.labels) = true := by
      refine List.any_eq_true.mpr ⟨_, shown, ?_⟩
      show (!isChaosManaged (documentLabels tracked.value)) = true
      rw [unmanaged, Bool.not_false]
    exact rejected_written starting reaches ended listed (by rw [rejection, if_pos foreign])

end Conflict

/-- The check for conflicts is right about the destination host if and only if the listing is
answered whenever somebody else's VirtualService is on the host, and, when it is answered, one of
them is on the host as soon as the namespace holds any. -/
theorem conflictDetection_exact_iff (deployment : Deployment) (experiment : ChaosExperiment)
    (edge : EdgeTarget) (starting : Starting experiment)
    (target : experiment.spec.target.bind Target.edge = some edge)
    (before after : Cluster) (trace : History) (rest : Handler ReconcileResult)
    (reaches : Reaches (apiServer experiment) (deployment.pass experiment) before trace rest after)
    (ended : rest.Ended) :
    (FailsForConflict experiment (destinationHost experiment edge) trace ↔
        HostTaken (targetNamespace experiment) (destinationHost experiment edge) before) ↔
      (HostTaken (targetNamespace experiment) (destinationHost experiment edge) before →
          ListedFor experiment (destinationHost experiment edge) trace) ∧
        (ListedFor experiment (destinationHost experiment edge) trace →
          HoldsForeign (targetNamespace experiment) before →
          HostTaken (targetNamespace experiment) (destinationHost experiment edge) before) := by
  rw [failsForConflict_iff starting target reaches ended]
  constructor
  · intro exactly
    exact ⟨fun taken => (exactly.mpr taken).1, fun listed held => exactly.mp ⟨listed, held⟩⟩
  · rintro ⟨answered, onHost⟩
    exact ⟨fun both => onHost both.1 both.2, fun taken => ⟨answered taken, taken.holdsForeign⟩⟩

/-- A VirtualService of somebody else for one host. -/
def foreignService (host : String) : Tracked Json where
  value := .object [("spec", .object [("hosts", .array [.string host])])]
  creator := none

/-- A cluster whose only VirtualService is somebody else's. -/
def foreignCluster (host : String) : Cluster :=
  { sampleCluster [(sampleKey, sampleEdge)] with
    virtualServices := (∅ : Store ObjectKey (Tracked Json)).createAll
      [(("shop", "canary"), foreignService host)] }

theorem isForeign_canary (host : String) :
    IsForeign "shop" (foreignCluster host) ("shop", "canary") (foreignService host) :=
  ⟨rfl, rfl, rfl⟩

/-- The run of the sample pass against such a cluster. -/
theorem listedFor_sample (host : String) : ∃ trace rest after,
    Reaches (apiServer pendingEdge) (sampleDeployment.pass pendingEdge) (foreignCluster host) trace
      rest after ∧ rest.Ended ∧ ListedFor pendingEdge "ledger.shop.svc.cluster.local" trace := by
  exact ⟨_, _, _, reaches_serving (permits_serve sampleSurroundings sampleKey) _ _,
    Outcome.remaining_ended _, _, List.mem_cons_of_mem _ List.mem_cons_self⟩

/-- A VirtualService of somebody else on the destination host is found. -/
theorem conflictDetection_exact_sample : ∃ trace,
    FailsForConflict pendingEdge "ledger.shop.svc.cluster.local" trace ∧
      HostTaken "shop" "ledger.shop.svc.cluster.local"
        (foreignCluster "ledger.shop.svc.cluster.local") := by
  obtain ⟨trace, rest, after, reaches, ended, listed⟩ :=
    listedFor_sample "ledger.shop.svc.cluster.local"
  have taken : HostTaken "shop" "ledger.shop.svc.cluster.local"
      (foreignCluster "ledger.shop.svc.cluster.local") :=
    ⟨_, _, isForeign_canary _, List.mem_singleton.mpr rfl⟩
  have exactly := (conflictDetection_exact_iff sampleDeployment pendingEdge ⟨"payment", "ledger"⟩
    pendingEdge_injectable.starting rfl _ after trace rest reaches ended).mpr
      ⟨fun _ => listed, fun _ _ => taken⟩
  exact ⟨trace, exactly.mpr taken, taken⟩

/-- A VirtualService of somebody else for another host fails the experiment, though nobody's is
on the destination host. -/
theorem otherHost_conflicts : ¬ ∀ (deployment : Deployment) (experiment : ChaosExperiment)
    (edge : EdgeTarget), Starting experiment →
    experiment.spec.target.bind Target.edge = some edge →
    ∀ (before after : Cluster) (trace : History) (rest : Handler ReconcileResult),
      Reaches (apiServer experiment) (deployment.pass experiment) before trace rest after →
      rest.Ended → ListedFor experiment (destinationHost experiment edge) trace →
      (FailsForConflict experiment (destinationHost experiment edge) trace ↔
        HostTaken (targetNamespace experiment) (destinationHost experiment edge) before) := by
  intro claim
  obtain ⟨trace, rest, after, reaches, ended, listed⟩ :=
    listedFor_sample "catalog.shop.svc.cluster.local"
  have starting := pendingEdge_injectable.starting
  have fails := (failsForConflict_iff starting rfl reaches ended).mpr
    ⟨listed, _, _, isForeign_canary _⟩
  obtain ⟨place, tracked, foreign, onHost⟩ :=
    (claim sampleDeployment pendingEdge ⟨"payment", "ledger"⟩ starting rfl _ after trace rest
      reaches ended listed).mp fails
  rcases Store.mem_of_lookup_createAll foreign.found with absent | member
  · cases absent
  · obtain ⟨-, rfl⟩ := Prod.mk.inj (List.mem_singleton.mp member)
    exact absurd (List.mem_singleton.mp onHost) (by decide +kernel)

end ChimpChaos
