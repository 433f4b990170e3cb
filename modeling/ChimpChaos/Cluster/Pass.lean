/-
This file runs the operator in the cluster, one pass after the other.

`Pass` is one pass on the experiment as it is stored when the pass begins; it may stop after
any call. `Turn` is a pass or a step of somebody else, and a run is a sequence of turns. The
summary of a pass, `Handled`, says what it makes of its experiment's status: nothing, or the
merge of one of the statuses in `Writes`.
-/

import ChimpChaos.Cluster.Environment
import ChimpChaos.Library.Crash
import ChimpChaos.Proof.Issues

namespace ChimpChaos

open Library Relation

/-- The operator with what it is started with. -/
structure Deployment where
  crates : Crates
  edgeResolver : Bool
  config : ReconcilerConfig

namespace Deployment

variable (deployment : Deployment)

def pass (experiment : ChaosExperiment) : Handler ReconcileResult :=
  reconcile deployment.crates deployment.edgeResolver deployment.config experiment

def Issued (experiment : ChaosExperiment) : History → ApiCall → Prop :=
  ChimpChaos.Issued deployment.crates deployment.edgeResolver deployment.config experiment

def Writes (experiment : ChaosExperiment) : History → ChaosExperimentStatus → Prop :=
  ChimpChaos.Writes deployment.crates deployment.edgeResolver deployment.config experiment

theorem pass_follows (experiment : ChaosExperiment) :
    (deployment.pass experiment).Follows (deployment.Issued experiment) (fun _ _ => True) [] :=
  reconcile_follows _ _ _ _

/-! ### Which handler a pass runs -/

section Dispatch

variable {deployment : Deployment} {experiment : ChaosExperiment}

theorem pass_pendingEdge (starting : Starting experiment)
    (edgeChaos : experiment.spec.scenario.isEdgeChaos = true) :
    deployment.pass experiment = (experimentIdOf experiment >>= fun id =>
      handlePendingEdge deployment.crates deployment.edgeResolver experiment id) >>= fun _ =>
        .done (.requeue (requeueDuration .running)) := by
  obtain ⟨⟨⟨kept, alive⟩, pending⟩, valid⟩ := starting
  simp [Deployment.pass, reconcile, kept, alive, pending, handlePending, valid, edgeChaos]

theorem pass_running (active : Active experiment)
    (running : (statusOf experiment).phase = .running) :
    deployment.pass experiment = handleRunning deployment.crates experiment >>= fun _ =>
      .done (.requeue (requeueDuration .running)) := by
  simp [Deployment.pass, reconcile, active.1, active.2, running]

end Dispatch

end Deployment

/-! ### Snapshots -/

section Snapshot

variable {key : ObjectKey} {object : ExperimentObject} {experiment : ChaosExperiment}

/-- What a snapshot has from the stored object. -/
structure IsSnapshot (key : ObjectKey) (object : ExperimentObject)
    (experiment : ChaosExperiment) : Prop where
  name : experiment.metadata.name = some key.2
  ns : experiment.metadata.ns = some key.1
  uid : experiment.metadata.uid = some object.uid
  finalizers : experiment.metadata.finalizers = object.finalizers
  deletion : experiment.metadata.deletionTimestamp = object.deletionTimestamp
  spec : experiment.spec = object.spec
  status : ChaosExperimentStatus.parse object.status = some (statusOf experiment)

theorem isSnapshot_of_snapshot (decoded : object.snapshot key = some experiment) :
    IsSnapshot key object experiment := by
  unfold ExperimentObject.snapshot at decoded
  by_cases absent : object.status.isNull = true
  · rw [if_pos absent] at decoded
    obtain rfl := Option.some.inj decoded
    refine ⟨rfl, rfl, rfl, rfl, rfl, rfl, ?_⟩
    cases same : object.status <;> rw [same] at absent <;> first | rfl | cases absent
  · rw [if_neg absent] at decoded
    cases parsed : ChaosExperimentStatus.parse object.status with
    | none =>
      rw [parsed] at decoded
      cases decoded
    | some status =>
      rw [parsed] at decoded
      obtain rfl := Option.some.inj decoded
      exact ⟨rfl, rfl, rfl, rfl, rfl, rfl, parsed⟩

theorem IsSnapshot.expName_eq (snapshot : IsSnapshot key object experiment) :
    expName experiment = key.2 := by
  rw [expName, snapshot.name, Option.getD_some]

theorem IsSnapshot.expNamespace_eq (snapshot : IsSnapshot key object experiment) :
    expNamespace experiment = key.1 := by
  rw [expNamespace, snapshot.ns, Option.getD_some]

theorem IsSnapshot.actorOf_eq (snapshot : IsSnapshot key object experiment) :
    actorOf experiment = key := by
  rw [actorOf, snapshot.expName_eq, snapshot.expNamespace_eq]

end Snapshot

/-! ### Passes and turns -/

/-- One pass on the experiment stored under a key, up to some call. -/
inductive Pass (deployment : Deployment) (service : Service) (key : ObjectKey)
    (before : Cluster) : ChaosExperiment → History → Cluster → Prop
  | run {object : ExperimentObject} {experiment : ChaosExperiment} {trace : History}
      {rest : Handler ReconcileResult} {after : Cluster}
      (stored : before.experiments.lookup key = some object)
      (decoded : object.snapshot key = some experiment)
      (reaches : Program.Reaches (service experiment) (deployment.pass experiment) before trace
        rest after) :
      Pass deployment service key before experiment trace.reverse after

/-- A condition on a pass: the state it begins in, its snapshot, its exchanges, and the state
it stops in. -/
abbrev PassCondition : Type := Cluster → ChaosExperiment → History → Cluster → Prop

def anyPass : PassCondition := fun _ _ _ _ => True

/-- A pass that is accepted, or a step of somebody else. -/
def Turn (deployment : Deployment) (service : Service) (key : ObjectKey)
    (accepts : PassCondition) (before after : Cluster) : Prop :=
  Outside before after ∨ ∃ experiment history,
    Pass deployment (Interfered service) key before experiment history after ∧
      accepts before experiment history after

section Pass

variable {deployment : Deployment} {service : Service} {key : ObjectKey}
  {before after : Cluster} {experiment : ChaosExperiment} {history : History}

theorem Pass.snapshot (pass : Pass deployment service key before experiment history after) :
    ∃ object, before.experiments.lookup key = some object ∧ IsSnapshot key object experiment := by
  cases pass with
  | run stored decoded reaches => exact ⟨_, stored, isSnapshot_of_snapshot decoded⟩

/-- The invariant rule for a pass: what each of its calls preserves holds wherever it stops. -/
theorem passInvariant {State : Type}
    {step : (request : ApiCall) → State → Answer request → State → Prop} {initial final : State}
    {Keeps : History → State → Prop} {trace : History} {rest : Handler ReconcileResult}
    (reaches : Program.Reaches step (deployment.pass experiment) initial trace rest final)
    (start : Keeps [] initial)
    (preserved : ∀ earlier request middle answer next, Keeps earlier middle →
      deployment.Issued experiment earlier request → step request middle answer next →
      Keeps (⟨request, answer⟩ :: earlier) next) :
    Keeps trace.reverse final := by
  have kept := reaches.invariant preserved (deployment.pass_follows experiment) start
  rw [List.append_nil] at kept
  exact kept.1

theorem Pass.invariant {Keeps : History → Cluster → Prop}
    (pass : Pass deployment service key before experiment history after)
    (start : Keeps [] before)
    (preserved : ∀ earlier request middle answer next, Keeps earlier middle →
      deployment.Issued experiment earlier request →
      service experiment request middle answer next → Keeps (⟨request, answer⟩ :: earlier) next) :
    Keeps history after := by
  cases pass with
  | run stored decoded reaches => exact passInvariant reaches start preserved

/-! ### The summary of a pass -/

/-- What a pass makes of a stored status document. -/
inductive StatusMoves (deployment : Deployment) (experiment : ChaosExperiment)
    (history : History) (document : Json) : Json → Prop
  | kept : StatusMoves deployment experiment history document document
  | written (earlier : History) (subset : earlier ⊆ history) (status : ChaosExperimentStatus)
      (writes : deployment.Writes experiment earlier status) :
      StatusMoves deployment experiment history document (Json.mergePatch document status.toJson)

/-- What a pass makes of the cluster and of the experiment it works for. -/
structure Handled (deployment : Deployment) (key : ObjectKey) (experiment : ChaosExperiment)
    (before : Cluster) (history : History) (after : Cluster) : Prop where
  clock : before.clock ≤ after.clock
  reading : ∀ time, ⟨.now, time⟩ ∈ history → before.clock ≤ time ∧ time ≤ after.clock
  object : ∀ object', after.experiments.lookup key = some object' →
    ∃ object, before.experiments.lookup key = some object ∧ object'.uid = object.uid ∧
      object'.spec = object.spec ∧
      StatusMoves deployment experiment history object.status object'.status
  job : ∀ place tracked, after.jobs.lookup place = some tracked →
    (∃ earlier, before.jobs.lookup place = some earlier ∧ SameJob earlier tracked) ∨
      ∃ earlier ns job, earlier ⊆ history ∧
        deployment.Issued experiment earlier (.createJob ns job) ∧ place = jobKey ns job ∧
        SameJob ⟨job, some (actorOf experiment)⟩ tracked
  virtualService : ∀ place tracked, after.virtualServices.lookup place = some tracked →
    before.virtualServices.lookup place = some tracked ∨
      ∃ earlier ns document, earlier ⊆ history ∧
        deployment.Issued experiment earlier (.createVirtualService ns document) ∧
        place = documentKey ns document ∧ tracked = ⟨document, some (actorOf experiment)⟩

/-- A service stays within what the API server does. -/
def Service.Within (service : Service) : Prop :=
  ∀ experiment request before answer after, service experiment request before answer after →
    PermitsAny (actorOf experiment) request before answer after

theorem anyListings_within : anyListings.Within := fun _ _ _ _ _ permitted => permitted

/-- Until a pass writes a status, the stored document is the one it has found. -/
def Unwritten (key : ObjectKey) (before : Cluster) (history : History) (after : Cluster) : Prop :=
  NoWrite history → ∀ object object', before.experiments.lookup key = some object →
    after.experiments.lookup key = some object' → object'.status = object.status

theorem unwritten_start : Unwritten key before [] before := by
  intro _ object object' stored found
  rw [stored] at found
  obtain rfl := Option.some.inj found
  rfl

theorem handled_start : Handled deployment key experiment before [] before where
  clock := le_refl _
  reading := by simp
  object := fun object found => ⟨object, found, rfl, rfl, .kept⟩
  job := fun _ tracked found => Or.inl ⟨tracked, found, SameJob.refl tracked⟩
  virtualService := fun _ _ found => Or.inl found

section Call

variable {middle next : Cluster} {request : ApiCall} {answer : Answer request}

theorem Unwritten.call (unwritten : Unwritten key before history middle)
    (advance : Advance (actorOf experiment) request middle next) :
    Unwritten key before (⟨request, answer⟩ :: history) next := by
  intro quiet origin object' storedOrigin found
  obtain ⟨harmless, quietEarlier⟩ := (noWrite_cons _ _).mp quiet
  obtain ⟨object, timestamp, stored, -, rewrites⟩ := advance.object key object' found
  have same := unwritten quietEarlier origin object storedOrigin stored
  cases rewrites with
  | patched status => cases harmless
  | kept | marked | released => exact same

/-- One call of a pass. A status is written once, onto the document the pass has found. -/
theorem Handled.call (handled : Handled deployment key experiment before history middle)
    (unwritten : Unwritten key before history middle)
    (issued : deployment.Issued experiment history request)
    (advance : Advance (actorOf experiment) request middle next)
    (reading : ∀ time, (⟨.now, time⟩ : Exchange ApiCall Answer) = ⟨request, answer⟩ →
      middle.clock ≤ time ∧ time ≤ next.clock) :
    Handled deployment key experiment before (⟨request, answer⟩ :: history) next where
  clock := handled.clock.trans advance.clock
  reading := by
    intro time member
    rcases List.mem_cons.mp member with same | member
    · exact ⟨handled.clock.trans (reading time same).1, (reading time same).2⟩
    · have earlier := handled.reading time member
      exact ⟨earlier.1, earlier.2.trans advance.clock⟩
  object := by
    intro object' found
    obtain ⟨object, timestamp, stored, -, rewrites⟩ := advance.object key object' found
    obtain ⟨origin, storedOrigin, sameUid, sameSpec, -⟩ := handled.object object stored
    have same := unwritten issued.quiet origin object storedOrigin stored
    refine ⟨origin, storedOrigin, ?_⟩
    cases rewrites with
    | patched status =>
      refine ⟨sameUid, sameSpec, ?_⟩
      rw [← same]
      exact .written history (List.subset_cons_self _ _) status issued.issues.writes
    | kept | marked | released => exact ⟨sameUid, sameSpec, by rw [← same]; exact .kept⟩
  job := by
    intro place tracked found
    rcases advance.job place tracked found with
      ⟨held, foundHeld, sameHeld⟩ | ⟨ns, job, rfl, same, rfl⟩
    · rcases handled.job place held foundHeld with
        ⟨first, stored, sameFirst⟩ | ⟨older, ns, job, subset, asked, same, sameJob⟩
      · exact Or.inl ⟨first, stored, sameFirst.trans sameHeld⟩
      · exact Or.inr ⟨older, ns, job, List.subset_cons_of_subset _ subset, asked, same,
          sameJob.trans sameHeld⟩
    · exact Or.inr ⟨history, ns, job, List.subset_cons_self _ _, issued, same, SameJob.refl _⟩
  virtualService := by
    intro place tracked found
    rcases advance.virtualService place tracked found with
      foundHeld | ⟨ns, document, rfl, same, rfl⟩
    · rcases handled.virtualService place tracked foundHeld with
        stored | ⟨older, ns, document, subset, asked, same, sameValue⟩
      · exact Or.inl stored
      · exact Or.inr ⟨older, ns, document, List.subset_cons_of_subset _ subset, asked, same,
          sameValue⟩
    · exact Or.inr ⟨history, ns, document, List.subset_cons_self _ _, issued, same, rfl⟩

end Call

/-- The summary of a pass. -/
theorem Pass.handled (within : service.Within)
    (pass : Pass deployment (Interfered service) key before experiment history after) :
    Handled deployment key experiment before history after := by
  let Keeps (history : History) (after : Cluster) : Prop :=
    Handled deployment key experiment before history after ∧ Unwritten key before history after
  suffices kept : Keeps history after from kept.1
  refine pass.invariant ⟨handled_start, unwritten_start⟩ ?_
  intro earlier request middle answer next kept issued answered
  have advance := Interfered.advance (fun _ => within _ _ _ _ _) answered
  refine ⟨kept.1.call kept.2 issued advance fun time same => ?_, kept.2.call advance⟩
  cases same
  exact Interfered.reading (fun _ => within _ _ _ _ _) answered

/-- Every exchange of a run of a pass was one of its calls when it was made. -/
theorem issued_of_reaches {State : Type}
    {step : (request : ApiCall) → State → Answer request → State → Prop} {initial final : State}
    {trace : History} {rest : Handler ReconcileResult}
    (reaches : Program.Reaches step (deployment.pass experiment) initial trace rest final) :
    ∀ exchange ∈ trace.reverse, ∃ earlier ⊆ trace.reverse,
      deployment.Issued experiment earlier exchange.1 := by
  let Keeps (history : History) (_ : State) : Prop :=
    ∀ exchange ∈ history, ∃ earlier ⊆ history, deployment.Issued experiment earlier exchange.1
  suffices kept : Keeps trace.reverse final from kept
  refine passInvariant reaches (fun _ member => nomatch member) ?_
  intro earlier request middle answer next kept issued _ exchange member
  rcases List.mem_cons.mp member with rfl | member
  · exact ⟨earlier, List.subset_cons_self _ _, issued⟩
  · obtain ⟨older, subset, asked⟩ := kept exchange member
    exact ⟨older, List.subset_cons_of_subset _ subset, asked⟩

/-- A call that a run of a pass has made was one of its calls when it was made. -/
theorem issued_of_mem {State : Type}
    {step : (request : ApiCall) → State → Answer request → State → Prop} {initial final : State}
    {trace : History} {rest : Handler ReconcileResult}
    (reaches : Program.Reaches step (deployment.pass experiment) initial trace rest final)
    {exchange : Exchange ApiCall Answer} (member : exchange ∈ trace) :
    ∃ earlier ⊆ trace, deployment.Issued experiment earlier exchange.1 := by
  obtain ⟨earlier, subset, issued⟩ :=
    issued_of_reaches reaches exchange (List.mem_reverse.mpr member)
  exact ⟨earlier, fun _ within => List.mem_reverse.mp (subset within), issued⟩

theorem Pass.issued (pass : Pass deployment service key before experiment history after) :
    ∀ exchange ∈ history, ∃ earlier ⊆ history, deployment.Issued experiment earlier exchange.1 := by
  cases pass with
  | run stored decoded reaches => exact issued_of_reaches reaches

/-- At most one list of nodes has been received. -/
def ListedOnce (experiment : ChaosExperiment) (history : History) : Prop :=
  ∀ first second, ⟨.listTargetNodes (targetNamespace experiment), first⟩ ∈ history →
    ⟨.listTargetNodes (targetNamespace experiment), second⟩ ∈ history → first = second

theorem listedOnce_of_reaches {trace : History} {rest : Handler ReconcileResult}
    (reaches : Program.Reaches (service experiment) (deployment.pass experiment) before trace rest
      after) : ListedOnce experiment trace.reverse := by
  let Keeps (history : History) (_ : Cluster) : Prop := ListedOnce experiment history
  suffices kept : Keeps trace.reverse after from kept
  refine passInvariant reaches (fun _ _ member => nomatch member) ?_
  intro earlier request middle answer next unique issued _ first second firstMember secondMember
  rcases List.mem_cons.mp firstMember with here | firstEarlier <;>
    rcases List.mem_cons.mp secondMember with here' | secondEarlier
  · cases here
    cases here'
    rfl
  · cases here
    exact absurd secondEarlier (issued.issues.nodesAsked.first second)
  · cases here'
    exact absurd firstEarlier (issued.issues.nodesAsked.first first)
  · exact unique first second firstEarlier secondEarlier

theorem Pass.listedOnce (pass : Pass deployment service key before experiment history after) :
    ListedOnce experiment history := by
  cases pass with
  | run stored decoded reaches => exact listedOnce_of_reaches reaches

end Pass

/-! ### What a reader finds -/

/-- The status a reader finds in the cluster. -/
def storedStatus (key : ObjectKey) (cluster : Cluster) : Option ChaosExperimentStatus :=
  (cluster.experiments.lookup key).bind fun object => ChaosExperimentStatus.parse object.status

theorem storedStatus_eq_some {key : ObjectKey} {cluster : Cluster}
    {status : ChaosExperimentStatus} :
    storedStatus key cluster = some status ↔ ∃ object,
      cluster.experiments.lookup key = some object ∧
        ChaosExperimentStatus.parse object.status = some status :=
  Option.bind_eq_some_iff

/-- A Job in the cluster that the operator created for an experiment. -/
def CreatedJob (key : ObjectKey) (cluster : Cluster) (place : ObjectKey) (tracked : Tracked Job) :
    Prop :=
  cluster.jobs.lookup place = some tracked ∧ tracked.creator = some key

/-- A VirtualService in the cluster that the operator created for an experiment. -/
def CreatedService (key : ObjectKey) (cluster : Cluster) (place : ObjectKey)
    (tracked : Tracked Json) : Prop :=
  cluster.virtualServices.lookup place = some tracked ∧ tracked.creator = some key

theorem createdJob_of_creator {key : ObjectKey} {cluster : Cluster} {place : ObjectKey}
    (creator : (cluster.jobs.lookup place).map Tracked.creator = some (some key)) :
    ∃ tracked, CreatedJob key cluster place tracked :=
  Option.map_eq_some_iff.mp creator

theorem createdService_of_creator {key : ObjectKey} {cluster : Cluster} {place : ObjectKey}
    (creator : (cluster.virtualServices.lookup place).map Tracked.creator = some (some key)) :
    ∃ tracked, CreatedService key cluster place tracked :=
  Option.map_eq_some_iff.mp creator

/-! ### Whole passes against a server function -/

section Script

variable {deployment : Deployment} {service : Service} {key : ObjectKey}

/-- How a server function answers in a given snapshot's pass. -/
abbrev Server : Type :=
  ChaosExperiment → (request : ApiCall) → Cluster → Answer request × Cluster

/-- Every answer of a server function is one that a service gives. -/
def Server.Serves (server : Server) (service : Service) : Prop :=
  ∀ experiment request cluster, service experiment request cluster
    (server experiment request cluster).1 (server experiment request cluster).2

theorem Server.Serves.any {server : Server} (serves : server.Serves apiServer) :
    server.Serves anyListings :=
  fun experiment request cluster => (serves experiment request cluster).any

/-- The cluster after a whole pass for a given snapshot. -/
def clusterAfter (deployment : Deployment) (server : Server) (experiment : ChaosExperiment)
    (cluster : Cluster) : Cluster :=
  (Program.exec (server experiment) (deployment.pass experiment) cluster).2

/-- The exchanges of a whole pass for a given snapshot, the newest first. -/
def passHistory (deployment : Deployment) (server : Server) (experiment : ChaosExperiment)
    (cluster : Cluster) : History :=
  ((deployment.pass experiment).transcript (server experiment) cluster).reverse

/-- One whole pass on the stored experiment, when there is one. -/
def runPass (deployment : Deployment) (server : Server) (key : ObjectKey) (cluster : Cluster) :
    Cluster :=
  match (cluster.experiments.lookup key).bind fun object => object.snapshot key with
  | none => cluster
  | some experiment => clusterAfter deployment server experiment cluster

theorem stored_of_decoded (key : ObjectKey) (cluster : Cluster)
    (present : ((cluster.experiments.lookup key).bind fun object =>
      object.snapshot key).isSome = true) :
    ∃ object experiment, cluster.experiments.lookup key = some object ∧
      object.snapshot key = some experiment := by
  obtain ⟨experiment, decoded⟩ := Option.isSome_iff_exists.mp present
  obtain ⟨object, stored, snapshot⟩ := Option.bind_eq_some_iff.mp decoded
  exact ⟨object, experiment, stored, snapshot⟩

/-- Whole passes against one server function after the other. -/
def runPasses (deployment : Deployment) (key : ObjectKey) (cluster : Cluster)
    (servers : List Server) : Cluster :=
  servers.foldl (fun cluster server => runPass deployment server key cluster) cluster

@[simp] theorem runPasses_nil (cluster : Cluster) :
    runPasses deployment key cluster [] = cluster := rfl

@[simp] theorem runPasses_cons (cluster : Cluster) (server : Server) (rest : List Server) :
    runPasses deployment key cluster (server :: rest) =
      runPasses deployment key (runPass deployment server key cluster) rest := rfl

theorem turn_runPass {accepts : PassCondition} {server : Server}
    (serves : server.Serves service) (cluster : Cluster)
    (accepted : ∀ experiment,
      (cluster.experiments.lookup key).bind (fun object => object.snapshot key) = some experiment →
      accepts cluster experiment (passHistory deployment server experiment cluster)
        (clusterAfter deployment server experiment cluster)) :
    ReflTransGen (Turn deployment service key accepts) cluster
      (runPass deployment server key cluster) := by
  unfold runPass
  cases decoded : (cluster.experiments.lookup key).bind fun object => object.snapshot key with
  | none => exact .refl
  | some experiment =>
    obtain ⟨object, stored, snapshot⟩ := Option.bind_eq_some_iff.mp decoded
    have reaches : Program.Reaches (Interfered service experiment) (deployment.pass experiment)
        cluster _ _ _ := Program.reaches_serving
      (fun request before => ⟨before, .refl, serves experiment request before⟩) _ cluster
    exact .single (Or.inr ⟨experiment, _, .run stored snapshot reaches, accepted _ decoded⟩)

/-- One pass on the stored experiment that is cut off after some calls. -/
def cutPass (deployment : Deployment) (server : Server) (key : ObjectKey) (count : Nat)
    (cluster : Cluster) : Cluster :=
  match (cluster.experiments.lookup key).bind fun object => object.snapshot key with
  | none => cluster
  | some experiment =>
    Program.execFor (server experiment) count (deployment.pass experiment) cluster

theorem turn_cutPass {accepts : PassCondition} {server : Server}
    (serves : server.Serves service) (count : Nat) (cluster : Cluster)
    (accepted : ∀ experiment history after,
      (cluster.experiments.lookup key).bind (fun object => object.snapshot key) = some experiment →
      accepts cluster experiment history after) :
    ReflTransGen (Turn deployment service key accepts) cluster
      (cutPass deployment server key count cluster) := by
  unfold cutPass
  cases decoded : (cluster.experiments.lookup key).bind fun object => object.snapshot key with
  | none => exact .refl
  | some experiment =>
    obtain ⟨object, stored, snapshot⟩ := Option.bind_eq_some_iff.mp decoded
    have reaches : Program.Reaches (Interfered service experiment) (deployment.pass experiment)
        cluster _ _ _ :=
      (Program.reaches_execFor (server experiment) count _ cluster).weaken
        fun request before answer after same => by
          have served := serves experiment request before
          rw [same] at served
          exact ⟨before, .refl, served⟩
    exact .single (Or.inr ⟨experiment, _, .run stored snapshot reaches, accepted _ _ _ decoded⟩)

theorem run_runPasses {accepts : PassCondition} {servers : List Server}
    (serves : ∀ server ∈ servers, server.Serves service)
    (accepted : ∀ before experiment history after, accepts before experiment history after)
    (cluster : Cluster) :
    ReflTransGen (Turn deployment service key accepts) cluster
      (runPasses deployment key cluster servers) := by
  induction servers generalizing cluster with
  | nil => exact .refl
  | cons server rest inductionHypothesis =>
    refine (turn_runPass (serves server List.mem_cons_self) cluster
      fun experiment _ => accepted cluster experiment _ _).trans ?_
    exact inductionHypothesis (fun other member => serves other (List.mem_cons_of_mem _ member)) _

end Script

/-- The snapshot of a stored object without a status. -/
def freshSnapshot (key : ObjectKey) (object : ExperimentObject) : ChaosExperiment where
  metadata := {
    name := some key.2
    ns := some key.1
    uid := some object.uid
    finalizers := object.finalizers
    deletionTimestamp := object.deletionTimestamp }
  spec := object.spec
  status := none

/-! ### A small cluster

The concrete data the witnesses and counterexamples below run on. -/

/-- The crates at the two instants the examples use. -/
def sampleCrates : Crates where
  toRfc3339 time :=
    if time = 0 then "1970-01-01T00:00:00+00:00" else "1970-01-01T00:00:10+00:00"
  parseFromRfc3339 text :=
    if text = "1970-01-01T00:00:00+00:00" then some 0
    else if text = "1970-01-01T00:00:10+00:00" then some 10000000000
    else none
  printJson json :=
    match json with
    | .object [("namespace", .string ns)] => "\x7b\"namespace\":\"" ++ ns ++ "\"\x7d"
    | _ => "\x7b\x7d"

def sampleDeployment : Deployment where
  crates := sampleCrates
  edgeResolver := false
  config := {}

def sampleKey : ObjectKey := ("chaos", "demo")

def sampleUid : String := "0b8f5c1e-7d54-4f6a-9d0e-3c2a1b4d5e6f"

/-- A pod experiment on the nodes of the namespace `shop`. -/
def samplePod : ExperimentObject where
  uid := sampleUid
  finalizers := some [finalizerName]
  deletionTimestamp := none
  spec := {
    scenario := .podKiller
    duration := 5
    targetNamespace := some "shop"
    target := none
    parameters := none }
  status := .null

/-- An edge experiment between two services of the namespace `shop`. -/
def sampleEdge : ExperimentObject where
  uid := sampleUid
  finalizers := some [finalizerName]
  deletionTimestamp := none
  spec := {
    scenario := .edgeDelay
    duration := 5
    targetNamespace := some "shop"
    target := some { ns := none, edge := some ⟨"payment", "ledger"⟩ }
    parameters := some (.object [("latencyMs", .number (.posInt 200))]) }
  status := .null

/-- A cluster with some experiments and nothing else. -/
def sampleCluster (experiments : List (ObjectKey × ExperimentObject)) : Cluster where
  experiments := (∅ : Store ObjectKey ExperimentObject).createAll experiments
  jobs := ∅
  virtualServices := ∅
  clock := 0

theorem mem_of_lookup_sampleCluster {experiments : List (ObjectKey × ExperimentObject)}
    {key : ObjectKey} {object : ExperimentObject}
    (stored : (sampleCluster experiments).experiments.lookup key = some object) :
    (key, object) ∈ experiments := by
  rcases Store.mem_of_lookup_createAll stored with absent | member
  · cases absent
  · exact member

def sampleSurroundings : Surroundings where
  targetNodes := .ok ["node-a", "node-b"]
  serviceSelector := .ok [("app", "payment")]
  resolvedEdge := .error (.prometheus "no data")
  elapsed := 0
  experimentId := "unused"

/-- The server at its best, some nanoseconds after the last reading of the clock. -/
def sampleServer (elapsed : Nat) : Server := fun experiment =>
  serve { sampleSurroundings with elapsed } (actorOf experiment)

theorem not_createdJob_sample (experiments : List (ObjectKey × ExperimentObject))
    (key place : ObjectKey) (tracked : Tracked Job) :
    ¬ CreatedJob key (sampleCluster experiments) place tracked := by
  rintro ⟨found, -⟩
  cases found

theorem not_createdService_sample (experiments : List (ObjectKey × ExperimentObject))
    (key place : ObjectKey) (tracked : Tracked Json) :
    ¬ CreatedService key (sampleCluster experiments) place tracked := by
  rintro ⟨found, -⟩
  cases found

theorem sampleServer_serves (elapsed : Nat) : (sampleServer elapsed).Serves apiServer :=
  fun _ _ _ => permits_serve _ _ _ _

end ChimpChaos
