/-
This file runs the experiment controller in the cluster call by call.

There is at most one pass for each experiment, and it begins on the experiment as it is stored.
Between any two of its calls the passes of other experiments, users and controllers act. A pass
may be left for good at any time: at its end, by a crash, or by a restart of the operator.
-/

import ChimpChaos.Proof.Lifecycle
import Mathlib.Logic.Function.Basic

namespace ChimpChaos

open Library Relation

/-- A pass of the experiment controller that has begun. -/
structure Work where
  experiment : ChaosExperiment
  history : History
  rest : Handler ReconcileResult

/-- A cluster with the passes that are going on, at most one for each experiment. -/
structure System where
  cluster : Cluster
  works : ObjectKey → Option Work

namespace System

/-- The system in which no pass has begun. -/
def idle (cluster : Cluster) : System where
  cluster
  works _ := none

def setWork (system : System) (key : ObjectKey) (work : Option Work) : System :=
  { system with works := Function.update system.works key work }

theorem works_setWork (system : System) (key other : ObjectKey) (work : Option Work) :
    (system.setWork key work).works other = if other = key then work else system.works other :=
  Function.update_apply system.works key work other

end System

/-- One step of the experiment controller or of somebody else. -/
inductive Operates (deployment : Deployment) (service : Service) : System → System → Prop
  | outside {system : System} {cluster : Cluster} (moved : Outside system.cluster cluster) :
      Operates deployment service system { system with cluster }
  | launch {system : System} {key : ObjectKey} {object : ExperimentObject}
      {experiment : ChaosExperiment} (idle : system.works key = none)
      (stored : system.cluster.experiments.lookup key = some object)
      (decoded : object.snapshot key = some experiment) :
      Operates deployment service system
        (system.setWork key (some ⟨experiment, [], deployment.pass experiment⟩))
  | call {system : System} {key : ObjectKey} {experiment : ChaosExperiment} {history : History}
      {request : ApiCall} {next : Answer request → Handler ReconcileResult}
      {answer : Answer request} {cluster : Cluster}
      (working : system.works key = some ⟨experiment, history, .call request next⟩)
      (answered : service experiment request system.cluster answer cluster) :
      Operates deployment service system
        ({ system with cluster }.setWork key
          (some ⟨experiment, ⟨request, answer⟩ :: history, next answer⟩))
  | leave (system : System) (key : ObjectKey) :
      Operates deployment service system (system.setWork key none)

/-! ### What is known of the passes -/

/-- A pass works for its experiment and goes on as the reconciler does. -/
structure Tended (deployment : Deployment) (key : ObjectKey) (work : Work) : Prop where
  actor : actorOf work.experiment = key
  follows : work.rest.Follows (deployment.Issued work.experiment) (fun _ _ => True) work.history

/-- The snapshot of a pass still is what is stored, at a stage of the experiment's life. -/
structure UpToDate (crates : Crates) (key : ObjectKey) (cluster : Cluster) (stage : Stage)
    (work : Work) : Prop where
  status : ∃ message, statusOf work.experiment = stage.status crates message
  since : ∃ low ≤ cluster.clock, stage.Sound work.experiment.spec.scenario low ∧
    ∀ time, ⟨.now, time⟩ ∈ work.history → low ≤ time ∧ time ≤ cluster.clock
  stored : ∀ object, cluster.experiments.lookup key = some object →
    object.spec = work.experiment.spec ∧
      ChaosExperimentStatus.parse object.status = some (statusOf work.experiment)

/-- The system is at a stage of one experiment's life, and the pass of this experiment knows it
until it writes. -/
structure Tracks (deployment : Deployment) (key : ObjectKey) (system : System) (stage : Stage) :
    Prop where
  rendered : Renders deployment.crates key system.cluster stage
  tended : ∀ other work, system.works other = some work → Tended deployment other work
  upToDate : ∀ work, system.works key = some work → NoWrite work.history →
    UpToDate deployment.crates key system.cluster stage work

section Steps

variable {deployment : Deployment} {service : Service} {key : ObjectKey} {system : System}
  {stage : Stage}

theorem tracks_idle {cluster : Cluster} (rendered : Renders deployment.crates key cluster stage) :
    Tracks deployment key (.idle cluster) stage where
  rendered := rendered
  tended := fun _ _ absent => nomatch absent
  upToDate := fun _ absent => nomatch absent

/-- The stored object as another state of the cluster shows it: its status and its spec are the
same, and time has gone on. -/
structure Unmoved (key : ObjectKey) (before after : Cluster) : Prop where
  clock : before.clock ≤ after.clock
  object : ∀ object', after.experiments.lookup key = some object' →
    ∃ object, before.experiments.lookup key = some object ∧ object'.status = object.status ∧
      object'.spec = object.spec

theorem unmoved_refl (key : ObjectKey) (cluster : Cluster) : Unmoved key cluster cluster :=
  ⟨le_refl _, fun object found => ⟨object, found, rfl, rfl⟩⟩

/-- A step as the life of an experiment sees it: nothing has happened to the stored status, or it
is a move. -/
inductive Goes (key : ObjectKey) (before after : Cluster) : Stage → Stage → Prop
  | stays {stage : Stage} (unmoved : Unmoved key before after) : Goes key before after stage stage
  | moves {stage stage' : Stage} (moved : Stage.Moves stage stage') :
      Goes key before after stage stage'

theorem Goes.reflGen {before after : Cluster} {stage' : Stage}
    (goes : Goes key before after stage stage') : ReflGen Stage.Moves stage stage' := by
  cases goes with
  | stays => exact .refl
  | moves moved => exact .single moved

theorem Unmoved.rendered {crates : Crates} {before after : Cluster}
    (unmoved : Unmoved key before after) (rendered : Renders crates key before stage) :
    Renders crates key after stage := by
  intro object' found
  obtain ⟨object, stored, status, spec⟩ := unmoved.object object' found
  obtain ⟨message, parsed, sound⟩ := rendered object stored
  rw [status, spec]
  exact ⟨message, parsed, sound.later unmoved.clock⟩

theorem Unmoved.upToDate {crates : Crates} {before after : Cluster} {work : Work}
    (unmoved : Unmoved key before after)
    (upToDate : UpToDate crates key before stage work) :
    UpToDate crates key after stage work where
  status := upToDate.status
  since := by
    obtain ⟨low, started, sound, read⟩ := upToDate.since
    exact ⟨low, started.trans unmoved.clock, sound, fun time member =>
      ⟨(read time member).1, (read time member).2.trans unmoved.clock⟩⟩
  stored := fun object' found => by
    obtain ⟨object, stored, status, spec⟩ := unmoved.object object' found
    rw [status, spec]
    exact upToDate.stored object stored

theorem unmoved_of_outside {before after : Cluster} (moved : Outside before after) :
    Unmoved key before after where
  clock := moved.drift.clock
  object := fun object' found => by
    obtain ⟨object, timestamp, stored, -, rfl⟩ := moved.drift.object key object' found
    exact ⟨object, stored, rfl, rfl⟩

/-- A call changes the stored status only when it writes it. -/
theorem unmoved_of_advance {actor : ObjectKey} {request : ApiCall} {before after : Cluster}
    (advance : Advance actor request before after)
    (other : ∀ status, request ≠ .patchExperimentStatus key.1 key.2 status) :
    Unmoved key before after where
  clock := advance.clock
  object := fun object' found => by
    obtain ⟨object, timestamp, stored, -, rewrites⟩ := advance.object key object' found
    cases rewrites with
    | patched status => exact absurd rfl (other status)
    | kept | marked | released => exact ⟨object, stored, rfl, rfl⟩

/-! ### One step -/

theorem Tracks.launch {object : ExperimentObject} {experiment : ChaosExperiment}
    (tracks : Tracks deployment key system stage) {other : ObjectKey}
    (stored : system.cluster.experiments.lookup other = some object)
    (decoded : object.snapshot other = some experiment) :
    Tracks deployment key
      (system.setWork other (some ⟨experiment, [], deployment.pass experiment⟩)) stage := by
  have snapshot := isSnapshot_of_snapshot decoded
  refine ⟨tracks.rendered, fun place work working => ?_, fun work working quiet => ?_⟩
  · rw [System.works_setWork] at working
    split_ifs at working with same
    · obtain rfl := Option.some.inj working
      exact ⟨by rw [same]; exact snapshot.actorOf_eq, deployment.pass_follows experiment⟩
    · exact tracks.tended place work working
  · rw [System.works_setWork] at working
    split_ifs at working with same
    · subst same
      obtain rfl := Option.some.inj working
      obtain ⟨message, parsed, sound⟩ := tracks.rendered object stored
      refine ⟨⟨message, Option.some.inj (snapshot.status.symm.trans parsed)⟩,
        ⟨_, le_refl _, by rw [snapshot.spec]; exact sound, nofun⟩, fun object' found => ?_⟩
      obtain rfl := Option.some.inj (stored.symm.trans found)
      exact ⟨snapshot.spec.symm, snapshot.status⟩
    · exact tracks.upToDate work working quiet

theorem Tracks.leave (tracks : Tracks deployment key system stage) (other : ObjectKey) :
    Tracks deployment key (system.setWork other none) stage := by
  have kept {place : ObjectKey} {work : Work}
      (working : (system.setWork other none).works place = some work) :
      system.works place = some work := by
    rw [System.works_setWork] at working
    split_ifs at working
    exact working
  exact ⟨tracks.rendered, fun place work working => tracks.tended place work (kept working),
    fun work working => tracks.upToDate work (kept working)⟩

theorem Tracks.outside {cluster : Cluster} (tracks : Tracks deployment key system stage)
    (moved : Outside system.cluster cluster) :
    Tracks deployment key { system with cluster } stage :=
  ⟨(unmoved_of_outside moved).rendered tracks.rendered, tracks.tended,
    fun work working quiet =>
      (unmoved_of_outside moved).upToDate (tracks.upToDate work working quiet)⟩

/-- The pass of which a call is knows what it has asked. -/
theorem Tended.called {experiment : ChaosExperiment} {history : History} {request : ApiCall}
    {next : Answer request → Handler ReconcileResult}
    (tended : Tended deployment key ⟨experiment, history, .call request next⟩)
    (answer : Answer request) :
    deployment.Issued experiment history request ∧
      Tended deployment key ⟨experiment, ⟨request, answer⟩ :: history, next answer⟩ :=
  ⟨tended.follows.1, tended.actor, tended.follows.2 answer⟩

/-- Only the pass of an experiment writes its status. -/
theorem Tended.writer {other : ObjectKey} {experiment : ChaosExperiment} {history : History}
    {status : ChaosExperimentStatus} {rest : Handler ReconcileResult}
    (tended : Tended deployment other ⟨experiment, history, rest⟩)
    (issued : deployment.Issued experiment history
      (.patchExperimentStatus key.1 key.2 status)) : other = key := by
  obtain ⟨inside, named⟩ := issued.issues.patched
  rw [← tended.actor]
  exact Prod.ext inside.symm named.symm

section Call

variable {other : ObjectKey} {experiment : ChaosExperiment} {history : History}
  {request : ApiCall} {next : Answer request → Handler ReconcileResult} {answer : Answer request}
  {cluster : Cluster}

theorem Tracks.tended_call (tracks : Tracks deployment key system stage)
    (working : system.works other = some ⟨experiment, history, .call request next⟩)
    {place : ObjectKey} {work : Work}
    (working' : ({ system with cluster }.setWork other
      (some ⟨experiment, ⟨request, answer⟩ :: history, next answer⟩)).works place = some work) :
    Tended deployment place work := by
  rw [System.works_setWork] at working'
  split_ifs at working' with same
  · obtain rfl := Option.some.inj working'
    rw [same]
    exact ((tracks.tended other _ working).called answer).2
  · exact tracks.tended place work working'

/-- A call that is not a status write of the experiment leaves its stage. -/
theorem Tracks.call_unmoved (within : service.Within)
    (tracks : Tracks deployment key system stage)
    (working : system.works other = some ⟨experiment, history, .call request next⟩)
    (answered : service experiment request system.cluster answer cluster)
    (elsewhere : ∀ status, request ≠ .patchExperimentStatus key.1 key.2 status) :
    Tracks deployment key ({ system with cluster }.setWork other
      (some ⟨experiment, ⟨request, answer⟩ :: history, next answer⟩)) stage := by
  have permitted := within _ _ _ _ _ answered
  have unmoved := unmoved_of_advance permitted.advance elsewhere
  refine ⟨unmoved.rendered tracks.rendered, fun place work => tracks.tended_call working,
    fun work working' quiet => ?_⟩
  rw [System.works_setWork] at working'
  split_ifs at working' with same
  · subst same
    obtain rfl := Option.some.inj working'
    have upToDate := tracks.upToDate _ working ((noWrite_cons _ _).mp quiet).2
    obtain ⟨low, started, sound, read⟩ := upToDate.since
    refine ⟨upToDate.status, ⟨low, started.trans unmoved.clock, sound, fun time member => ?_⟩,
      (unmoved.upToDate upToDate).stored⟩
    rcases List.mem_cons.mp member with now | member
    · cases now
      obtain ⟨later, rfl⟩ := permitted.now
      exact ⟨started.trans later, le_refl _⟩
    · exact ⟨(read time member).1, (read time member).2.trans unmoved.clock⟩
  · exact unmoved.upToDate (tracks.upToDate work working' quiet)

/-- A status write of the experiment has no effect, or it is a move of its life. -/
theorem Tracks.call_write (within : service.Within)
    (tracks : Tracks deployment key system stage)
    (working : system.works other = some ⟨experiment, history, .call request next⟩)
    (answered : service experiment request system.cluster answer cluster)
    {status : ChaosExperimentStatus}
    (write : request = .patchExperimentStatus key.1 key.2 status) :
    ∃ stage', Goes key system.cluster cluster stage stage' ∧ Tracks deployment key
      ({ system with cluster }.setWork other
        (some ⟨experiment, ⟨request, answer⟩ :: history, next answer⟩)) stage' := by
  subst write
  have tended := tracks.tended other _ working
  have issued := (tended.called answer).1
  have advance := (within _ _ _ _ _ answered).advance
  obtain rfl := tended.writer issued
  -- once it has written, the pass makes no call that needs its snapshot
  have settled {stage' : Stage} (rendered : Renders deployment.crates other cluster stage') :
      Tracks deployment other ({ system with cluster }.setWork other
        (some ⟨experiment, ⟨_, answer⟩ :: history, next answer⟩)) stage' := by
    refine ⟨rendered, fun place work => tracks.tended_call working,
      fun work working' quiet => ?_⟩
    rw [System.works_setWork, if_pos rfl] at working'
    obtain rfl := Option.some.inj working'
    cases ((noWrite_cons _ _).mp quiet).1
  by_cases unmoved : Unmoved other system.cluster cluster
  · exact ⟨stage, .stays unmoved, settled (unmoved.rendered tracks.rendered)⟩
  · have upToDate := tracks.upToDate _ working issued.quiet
    obtain ⟨message, same⟩ := upToDate.status
    obtain ⟨low, started, sound, read⟩ := upToDate.since
    obtain ⟨stage', moved, ⟨message', merged⟩, sound'⟩ :=
      writes_moves issued.issues.writes same sound read
    refine ⟨stage', .moves moved, settled fun object' found => ?_⟩
    obtain ⟨object, timestamp, stored, -, rewrites⟩ := advance.object other object' found
    obtain ⟨sameSpec, parsed⟩ := upToDate.stored object stored
    cases rewrites with
    | patched =>
      refine ⟨message', ?_, ?_⟩
      · rw [← merged]
        exact ChaosExperimentStatus.parse_mergePatch _ _ _ parsed
      · show stage'.Sound object.spec.scenario cluster.clock
        rw [sameSpec]
        exact sound'.later advance.clock
    | kept =>
      refine (unmoved ⟨advance.clock, fun object'' found' => ?_⟩).elim
      obtain rfl := Option.some.inj (found.symm.trans found')
      exact ⟨object, stored, rfl, rfl⟩

end Call

/-- Every step leaves the stored status alone or is a move of the life. -/
theorem Tracks.step (within : service.Within) {before after : System}
    (tracks : Tracks deployment key before stage)
    (step : Operates deployment service before after) :
    ∃ stage', Goes key before.cluster after.cluster stage stage' ∧
      Tracks deployment key after stage' := by
  cases step with
  | outside moved => exact ⟨stage, .stays (unmoved_of_outside moved), tracks.outside moved⟩
  | launch idle stored decoded =>
    exact ⟨stage, .stays (unmoved_refl key _), tracks.launch stored decoded⟩
  | @call place experiment history request next answer cluster working answered =>
    by_cases write : ∃ status, request = .patchExperimentStatus key.1 key.2 status
    · obtain ⟨status, write⟩ := write
      exact tracks.call_write within working answered write
    · push Not at write
      exact ⟨stage, .stays (unmoved_of_advance (within _ _ _ _ _ answered).advance write),
        tracks.call_unmoved within working answered write⟩
  | leave place => exact ⟨stage, .stays (unmoved_refl key _), tracks.leave place⟩

end Steps

/-! ### Whole passes against a server function -/

section Script

variable {deployment : Deployment} {service : Service} {server : Server} {system : System}

/-- A run of one pass is a run of the system. -/
theorem operates_reaches {key : ObjectKey} {experiment : ChaosExperiment} {history trace : History}
    {program rest : Handler ReconcileResult} {final : Cluster}
    (reaches : Program.Reaches (service experiment) program system.cluster trace rest final)
    (working : system.works key = some ⟨experiment, history, program⟩) :
    ∃ system', ReflTransGen (Operates deployment service) system system' ∧
      system'.cluster = final ∧ ∀ other ≠ key, system'.works other = system.works other := by
  generalize same : system.cluster = cluster at reaches
  induction reaches generalizing system history with
  | stop program state => exact ⟨system, .refl, same, fun _ _ => rfl⟩
  | @call request next state middle final answer trace rest answered _ inductionHypothesis =>
    subst same
    have step : Operates deployment service system _ := .call working answered
    have working' : (({ system with cluster := middle } : System).setWork key
        (some ⟨experiment, ⟨request, answer⟩ :: history, next answer⟩)).works key =
          some ⟨experiment, ⟨request, answer⟩ :: history, next answer⟩ := by
      rw [System.works_setWork, if_pos rfl]
    obtain ⟨system', run, reached, others⟩ := inductionHypothesis working' rfl
    refine ⟨system', .head step run, reached, fun other different => ?_⟩
    rw [others other different, System.works_setWork, if_neg different]

/-- A whole pass on a stored experiment while no other is going on. -/
theorem operates_runPass (deployment : Deployment) (serves : server.Serves service)
    (key : ObjectKey) (cluster : Cluster) :
    ReflTransGen (Operates deployment service) (.idle cluster)
      (.idle (runPass deployment server key cluster)) := by
  unfold runPass
  cases decoded : (cluster.experiments.lookup key).bind fun object => object.snapshot key with
  | none => exact .refl
  | some experiment =>
    obtain ⟨object, stored, snapshot⟩ := Option.bind_eq_some_iff.mp decoded
    have reaches := Program.reaches_serving (serves experiment) (deployment.pass experiment) cluster
    have launched : Operates deployment service (.idle cluster) _ := .launch rfl stored snapshot
    have working : ((System.idle cluster).setWork key
        (some ⟨experiment, [], deployment.pass experiment⟩)).works key =
          some ⟨experiment, [], deployment.pass experiment⟩ := by
      rw [System.works_setWork, if_pos rfl]
    obtain ⟨system, run, reached, others⟩ :
        ∃ system', ReflTransGen (Operates deployment service) _ system' ∧ _ :=
      operates_reaches reaches working
    have left : system.setWork key none =
        .idle (clusterAfter deployment server experiment cluster) := by
      have works : (system.setWork key none).works = fun _ => none := by
        funext other
        rw [System.works_setWork]
        split_ifs with here
        · rfl
        · rw [others other here, System.works_setWork, if_neg here]
          rfl
      show System.mk system.cluster (system.setWork key none).works = _
      rw [works, reached]
      rfl
    refine .head launched (run.tail ?_)
    rw [← left]
    exact .leave _ _

/-- Whole passes, one after the other. -/
theorem operates_runPasses (deployment : Deployment) {servers : List Server}
    (serves : ∀ server ∈ servers, server.Serves service) (key : ObjectKey) (cluster : Cluster) :
    ReflTransGen (Operates deployment service) (.idle cluster)
      (.idle (runPasses deployment key cluster servers)) := by
  induction servers generalizing cluster with
  | nil => exact .refl
  | cons server rest inductionHypothesis =>
    refine (operates_runPass deployment (serves server List.mem_cons_self) key cluster).trans ?_
    exact inductionHypothesis (fun other member => serves other (List.mem_cons_of_mem _ member)) _

end Script

/-! ### A run of the small cluster -/

/-- The edge experiment is put into effect, ends after its ten seconds and is cleaned up. -/
def sampleSettled : Cluster :=
  runPasses sampleDeployment sampleKey (sampleCluster [(sampleKey, sampleEdge)])
    [sampleServer 0, sampleServer 10000000000, sampleServer 0]

theorem operates_sampleSettled :
    ReflTransGen (Operates sampleDeployment anyListings)
      (.idle (sampleCluster [(sampleKey, sampleEdge)])) (.idle sampleSettled) := by
  refine operates_runPasses sampleDeployment (fun server member => ?_) sampleKey _
  simp only [List.mem_cons, List.not_mem_nil, or_false] at member
  rcases member with rfl | rfl | rfl <;> exact (sampleServer_serves _).any

end ChimpChaos
