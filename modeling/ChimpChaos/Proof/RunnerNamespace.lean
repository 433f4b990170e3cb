/-
This file settles in which namespace a PodKiller runner deletes Pods.

The operator adds the target namespace to the parameters when they have no key `namespace`,
whatever is under the key otherwise. The runner takes what is there if it is a string, and
`default` if not. So the two agree about texts and about missing keys, and any other value sends
the runner to `default`.
-/

import ChimpChaos.Proof.RunnerDecodes
import ChimpChaos.Runner.Scenarios

namespace ChimpChaos

open Library Program

/-! ### The Jobs of an experiment -/

/-- A pending experiment may ask for a Job. -/
def MayCreateJob (crates : Crates) (config : ReconcilerConfig) (experiment : ChaosExperiment)
    (experimentId : String) (job : Job) : Prop :=
  ∃ ns answer, (handlePendingPod crates config experiment experimentId).Admits
    ⟨.createJob ns job, answer⟩

section Jobs

variable {crates : Crates} {config : ReconcilerConfig} {experiment : ChaosExperiment}
  {experimentId node : String} {job : Job}

/-- A call that creates a Job creates the Job of a node. -/
def CreatesJobOfNode (crates : Crates) (config : ReconcilerConfig) (experiment : ChaosExperiment)
    (experimentId : String) : ApiCall → Prop
  | .createJob _ job => ∃ node, jobOfNode crates config experiment experimentId node = some job
  | _ => True

theorem makes_createJobs (nodes : List String) :
    (createJobs crates config experiment experimentId nodes).Makes
      (CreatesJobOfNode crates config experiment experimentId) := by
  induction nodes with
  | nil => trivial
  | cons node rest inductionHypothesis =>
    rw [createJobs]
    cases built : jobOfNode crates config experiment experimentId node with
    | none => trivial
    | some job =>
      refine makes_call ⟨node, built⟩ fun answer => ?_
      have tolerated : (tolerate isAlreadyExists answer).Makes
          (CreatesJobOfNode crates config experiment experimentId) := by
        unfold tolerate
        split
        · trivial
        · split_ifs <;> trivial
      exact tolerated.bind fun _ => inductionHypothesis.bind fun jobNames => trivial

theorem makes_handlePendingPod :
    (handlePendingPod crates config experiment experimentId).Makes
      (CreatesJobOfNode crates config experiment experimentId) := by
  refine makes_call trivial fun answer => (makes_ofExcept answer).bind fun nodes => ?_
  split
  · exact makes_call trivial fun answer => makes_ofExcept answer
  · refine (makes_createJobs nodes).bind fun jobNames => makes_call trivial fun now => ?_
    exact makes_call trivial fun answer => makes_ofExcept answer

/-- The Jobs asked for are the Jobs of nodes. -/
theorem mayCreateJob_iff : MayCreateJob crates config experiment experimentId job ↔
    ∃ node, jobOfNode crates config experiment experimentId node = some job := by
  constructor
  · rintro ⟨ns, answer, admits⟩
    exact admits.of_makes makes_handlePendingPod
  · rintro ⟨node, built⟩
    refine ⟨expNamespace experiment, .ok (), admits_later (.ok [node]) ?_⟩
    show (createJobs crates config experiment experimentId [node] >>= _).Admits _
    rw [createJobs, built]
    exact admits_here _ _

end Jobs

/-! ### What the runner reads -/

theorem podKiller_parseConfig_iff {params : Json} {ns labelSelector : String} :
    PodKiller.parseConfig params = .ok (ns, labelSelector) ↔
      ((params.get? "namespace").bind Json.asStr?).getD "default" = ns ∧
        (params.get? "labelSelector").bind Json.asStr? = some labelSelector := by
  rw [PodKiller.parseConfig]
  cases (params.get? "labelSelector").bind Json.asStr? with
  | none => simp [orInvalid]
  | some selector =>
    rw [orInvalid_some_bind]
    show Except.ok _ = Except.ok _ ↔ _
    rw [Except.ok.injEq, Prod.mk.injEq, Option.some.injEq]

/-- Printed parameters can be parsed, and under some keys the same texts are found as before, or
again none. -/
def KeepsTexts (parseJson : String → Option Json) (printed : String) (params : Json)
    (keys : List String) : Prop :=
  ∃ found, parseJson printed = some found ∧ ∀ key ∈ keys,
    (found.get? key).bind Json.asStr? = (params.get? key).bind Json.asStr?

theorem keepsTexts_of_inverts {parseJson : String → Option Json} {printed : String}
    {params : Json} (inverts : parseJson printed = some params) (keys : List String) :
    KeepsTexts parseJson printed params keys :=
  ⟨params, inverts, fun _ _ => rfl⟩

/-- A PodKiller reads two texts. -/
theorem parseConfig_congr {params params' : Json}
    (ns : (params.get? "namespace").bind Json.asStr? = (params'.get? "namespace").bind Json.asStr?)
    (selector : (params.get? "labelSelector").bind Json.asStr? =
      (params'.get? "labelSelector").bind Json.asStr?) :
    PodKiller.parseConfig params = PodKiller.parseConfig params' := by
  rw [PodKiller.parseConfig, PodKiller.parseConfig, ns, selector]

section Parameters

variable {experiment : ChaosExperiment} {fields : List (String × Json)}

/-- Under `namespace` a runner finds what was given there, or else the target namespace. -/
theorem runnerParameters_namespace
    (given : experiment.spec.parameters.getD (.object []) = .object fields) :
    (runnerParameters experiment).get? "namespace" =
      some ((fields.lookup "namespace").getD (.string (targetNamespace experiment))) := by
  rw [runnerParameters_of_fields given]
  cases present : fields.lookup "namespace" with
  | none =>
    rw [if_neg (by simp), Json.get?_object, Json.lookup_setField, if_pos rfl]
    rfl
  | some value =>
    rw [if_pos Option.isSome_some, Json.get?_object, present]
    rfl

/-- Under every other key a runner finds what was given. -/
theorem runnerParameters_other
    (given : experiment.spec.parameters.getD (.object []) = .object fields) {key : String}
    (other : key ≠ "namespace") :
    (runnerParameters experiment).get? key = fields.lookup key := by
  rw [runnerParameters_of_fields given]
  split_ifs
  · rfl
  · rw [Json.get?_object, Json.lookup_setField, if_neg other]

end Parameters

/-! ### Where the runner deletes -/

section Runs

variable {runner : RunnerConfig} {ns : String}

/-- A runner that deletes a Pod deletes it in the namespace of its parameters. -/
theorem parsed_of_deletion {name : String} {answer : RunnerAnswer (.pods (.deletePod ns name))}
    (admits : (executeScenario runner).Admits ⟨.pods (.deletePod ns name), answer⟩) :
    ∃ labelSelector, PodKiller.parseConfig runner.parameters = .ok (ns, labelSelector) := by
  obtain ⟨-, parsed, labelSelector, read, listed | ⟨_, deleted⟩⟩ :=
    admits.of_makes (makes_executeScenario runner)
  · cases listed
  · cases deleted
    exact ⟨labelSelector, read⟩

/-- A PodKiller that can read its parameters may find a Pod and delete it. -/
theorem deletion_of_parsed {labelSelector : String} (scenario : runner.scenario = .podKiller)
    (parsed : PodKiller.parseConfig runner.parameters = .ok (ns, labelSelector)) (name : String) :
    (executeScenario runner).Admits ⟨.pods (.deletePod ns name), .ok ()⟩ := by
  unfold executeScenario
  rw [scenario]
  dsimp only
  rw [parsed]
  exact admits_later (.ok ()) (admits_later (.ok [⟨{ name := some name }⟩]) (admits_here _ _))

end Runs

/-- The environment that sets the variables of a container and no others. -/
def Container.environment (container : Container) : Environment := fun name =>
  ((container.env.getD []).find? fun entry => entry.name == name).bind EnvVar.value

/-- Variables of different names are all read back. -/
theorem find?_of_distinct {entries : List EnvVar}
    (distinct : (entries.map EnvVar.name).Nodup) {entry : EnvVar} (member : entry ∈ entries) :
    entries.find? (fun candidate => candidate.name == entry.name) = some entry := by
  induction entries with
  | nil => cases member
  | cons head rest inductionHypothesis =>
    rw [List.map_cons, List.nodup_cons] at distinct
    rcases List.mem_cons.mp member with rfl | later
    · exact List.find?_cons_of_pos (beq_self_eq_true _)
    · have different : head.name ≠ entry.name := fun same =>
        distinct.1 (same ▸ List.mem_map_of_mem later)
      rw [List.find?_cons_of_neg (by rwa [beq_iff_eq]), inductionHypothesis distinct.2 later]

theorem carriesVerbatim_environment (scenario : ScenarioType) (experimentId : String)
    (duration : UInt64) (parametersJson : String) (jobBuilder : JobBuilderConfig) :
    CarriesVerbatim
      (runnerContainer scenario experimentId duration (some parametersJson) jobBuilder).environment
      (runnerContainer scenario experimentId duration (some parametersJson) jobBuilder) := by
  intro entry member
  have distinct : ((runnerEnvVars experimentId scenario duration (some parametersJson)).map
      EnvVar.name).Nodup := by
    show ["EXPERIMENT_ID", "SCENARIO", "DURATION", "PARAMETERS"].Nodup
    decide
  exact congrArg (fun found => found.bind EnvVar.value) (find?_of_distinct distinct member)

/-- Whatever environment with the variables of the Job a runner is started in, and however its
calls are answered, the Pods it deletes are in one namespace. -/
def StaysInNamespace (parseJson : String → Option Json) (job : Job) (ns : String) : Prop :=
  ∀ container ∈ job.containers, ∀ environment, CarriesVerbatim environment container →
    ∀ runner, RunnerConfig.fromEnv parseJson environment = .ok runner →
      ∀ deletedIn name answer,
        (executeScenario runner).Admits ⟨.pods (.deletePod deletedIn name), answer⟩ →
          deletedIn = ns

/-- The string under `namespace` if there is one, and otherwise the target namespace. -/
def requestedNamespace (experiment : ChaosExperiment) (fields : List (String × Json)) : String :=
  ((fields.lookup "namespace").bind Json.asStr?).getD (targetNamespace experiment)

section Comparison

variable {crates : Crates} {config : ReconcilerConfig} {parseJson : String → Option Json}
  {experiment : ChaosExperiment} {experimentId : String} {fields : List (String × Json)}
  {job : Job}

/-- A runner stays in a namespace when its parameters, as far as they are accepted, name it. -/
theorem staysInNamespace_iff_parsed (scenario : experiment.spec.scenario = .podKiller)
    (keeps : KeepsTexts parseJson (crates.printJson (runnerParameters experiment))
      (runnerParameters experiment) ["namespace", "labelSelector"])
    (asked : MayCreateJob crates config experiment experimentId job) (ns : String) :
    StaysInNamespace parseJson job ns ↔
      ∀ deletedIn labelSelector, PodKiller.parseConfig (runnerParameters experiment) =
        .ok (deletedIn, labelSelector) → deletedIn = ns := by
  obtain ⟨node, built⟩ := mayCreateJob_iff.mp asked
  obtain ⟨found, inverts, same⟩ := keeps
  have container := containers_of_jobOfNode built
  rw [← parseConfig_congr (same _ List.mem_cons_self)
    (same _ (List.mem_cons_of_mem _ List.mem_cons_self))]
  constructor
  · intro stays deletedIn labelSelector parsed
    have carries := carriesVerbatim_environment experiment.spec.scenario experimentId
      experiment.spec.duration (crates.printJson (runnerParameters experiment)) config.jobBuilder
    obtain ⟨metricsPort, read⟩ := fromEnv_runnerEnvVars carries inverts
    have member := container ▸ List.mem_singleton_self _
    exact stays _ member _ carries _ read deletedIn "demo" _
      (deletion_of_parsed scenario parsed "demo")
  · intro names started member environment carries runner read deletedIn name answer admits
    rw [container, List.mem_singleton] at member
    subst member
    obtain ⟨metricsPort, expected⟩ := fromEnv_runnerEnvVars carries inverts
    rw [expected] at read
    cases read
    obtain ⟨labelSelector, parsed⟩ := parsed_of_deletion admits
    exact names deletedIn labelSelector parsed

/-- The namespace is a string or not given at all; or no selector is given, without which nothing
is deleted; or the target namespace is the one that the runner falls back to. -/
def NamespaceKept (experiment : ChaosExperiment) (fields : List (String × Json)) : Prop :=
  (∀ value, fields.lookup "namespace" = some value → ∃ text, value = .string text) ∨
    (∀ text, fields.lookup "labelSelector" ≠ some (.string text)) ∨
    targetNamespace experiment = "default"

/-- What the runner makes of the parameters of an experiment. -/
theorem parseConfig_runnerParameters
    (given : experiment.spec.parameters.getD (.object []) = .object fields)
    {ns labelSelector : String} :
    PodKiller.parseConfig (runnerParameters experiment) = .ok (ns, labelSelector) ↔
      (((fields.lookup "namespace").getD (.string (targetNamespace experiment))).asStr?.getD
        "default") = ns ∧ fields.lookup "labelSelector" = some (.string labelSelector) := by
  rw [podKiller_parseConfig_iff, runnerParameters_namespace given,
    runnerParameters_other given (by decide), Json.bind_asStr?_eq_some_iff, Option.bind_some]

end Comparison

/-- The two fallbacks come out the same for texts and for missing values, and else if they are
the same. -/
theorem fallbacks_iff (found : Option Json) (target default : String) :
    (found.getD (.string target)).asStr?.getD default = (found.bind Json.asStr?).getD target ↔
      (∀ value, found = some value → ∃ text, value = .string text) ∨ target = default := by
  cases found with
  | none => exact iff_of_true rfl (Or.inl fun _ impossible => nomatch impossible)
  | some value =>
    rw [Option.getD_some, Option.bind_some]
    cases read : value.asStr? with
    | some text =>
      refine iff_of_true rfl (Or.inl ?_)
      rintro _ ⟨⟩
      exact ⟨text, Json.asStr?_eq_some_iff.mp read⟩
    | none =>
      rw [Option.getD_none, Option.getD_none, eq_comm]
      refine (or_iff_right fun texts => ?_).symm
      obtain ⟨text, same⟩ := texts value rfl
      rw [Json.asStr?_eq_some_iff.mpr same] at read
      cases read

/-- The Job of a PodKiller experiment stays in the requested namespace if and only if the value
under `namespace` is a string or missing, or there is no selector, or the target namespace is
`default`. -/
theorem staysInNamespace_iff (crates : Crates) (config : ReconcilerConfig)
    (parseJson : String → Option Json) (experiment : ChaosExperiment) (experimentId : String)
    (fields : List (String × Json)) (scenario : experiment.spec.scenario = .podKiller)
    (given : experiment.spec.parameters.getD (.object []) = .object fields)
    (keeps : KeepsTexts parseJson (crates.printJson (runnerParameters experiment))
      (runnerParameters experiment) ["namespace", "labelSelector"])
    (job : Job) (asked : MayCreateJob crates config experiment experimentId job) :
    StaysInNamespace parseJson job (requestedNamespace experiment fields) ↔
      NamespaceKept experiment fields := by
  have fallbacks := fallbacks_iff (fields.lookup "namespace") (targetNamespace experiment) "default"
  rw [staysInNamespace_iff_parsed scenario keeps asked, NamespaceKept, or_left_comm, ← fallbacks]
  simp only [parseConfig_runnerParameters given]
  constructor
  · intro names
    by_cases selected : ∃ text, fields.lookup "labelSelector" = some (.string text)
    · obtain ⟨text, selector⟩ := selected
      exact Or.inr (names _ text ⟨rfl, selector⟩)
    · exact Or.inl fun text selector => selected ⟨text, selector⟩
  · rintro (unselected | same) deletedIn labelSelector ⟨rfl, selector⟩
    · exact absurd selector (unselected labelSelector)
    · exact same

/-- The crates at the two parameter objects below. -/
def cartCrates : Crates :=
  { sampleCrates with
    printJson := fun json =>
      match json with
      | .object [("labelSelector", .string selector), ("namespace", .string ns)] =>
        "\x7b\"labelSelector\":\"" ++ selector ++ "\",\"namespace\":\"" ++ ns ++ "\"\x7d"
      | .object [("labelSelector", .string selector), ("namespace", .number (.posInt number))] =>
        "\x7b\"labelSelector\":\"" ++ selector ++ "\",\"namespace\":" ++ toString number ++
          "\x7d"
      | _ => "\x7b\x7d" }

/-- Parameters that select the Pods of an application in a namespace. -/
def cartFields (ns : Json) : List (String × Json) :=
  [("labelSelector", .string "app=cart"), ("namespace", ns)]

/-- The parser at the texts of these parameters. -/
def cartParseJson (text : String) : Option Json :=
  if text = "\x7b\"labelSelector\":\"app=cart\",\"namespace\":\"custom\"\x7d" then
    some (.object (cartFields (.string "custom")))
  else if text = "\x7b\"labelSelector\":\"app=cart\",\"namespace\":42\x7d" then
    some (.object (cartFields (.number (.posInt 42))))
  else none

/-- A PodKiller experiment with these parameters. -/
def cartExperiment (ns : Json) : ChaosExperiment :=
  freshSnapshot sampleKey
    { samplePod with
      spec := { samplePod.spec with parameters := some (.object (cartFields ns)) } }

theorem cartExperiment_asks (ns : Json) :
    ∃ job, MayCreateJob cartCrates {} (cartExperiment ns) sampleUid job := by
  have present : (makeJobName sampleUid "node-a").isSome = true := by decide +kernel
  obtain ⟨name, named⟩ := Option.isSome_iff_exists.mp present
  have built : ∃ job,
      jobOfNode cartCrates {} (cartExperiment ns) sampleUid "node-a" = some job := by
    simp [jobOfNode, buildRunnerJob, named]
  obtain ⟨job, built⟩ := built
  exact ⟨job, mayCreateJob_iff.mpr ⟨"node-a", built⟩⟩

/-- A namespace that is given as a text is the one. -/
theorem staysInNamespace_sample : ∃ job,
    MayCreateJob cartCrates {} (cartExperiment (.string "custom")) sampleUid job ∧
      StaysInNamespace cartParseJson job "custom" := by
  obtain ⟨job, asked⟩ := cartExperiment_asks (.string "custom")
  refine ⟨job, asked, ?_⟩
  refine (staysInNamespace_iff cartCrates {} cartParseJson (cartExperiment (.string "custom"))
    sampleUid (cartFields (.string "custom")) rfl rfl (keepsTexts_of_inverts rfl _) job
    asked).mpr (Or.inl ?_)
  rintro value ⟨⟩
  exact ⟨"custom", rfl⟩

/-- A namespace that is given as the number 42 sends the runner to `default`. -/
theorem numberedNamespace_leaves : ¬ ∀ (crates : Crates) (config : ReconcilerConfig)
    (parseJson : String → Option Json) (experiment : ChaosExperiment) (experimentId : String)
    (fields : List (String × Json)), experiment.spec.scenario = .podKiller →
    experiment.spec.parameters.getD (.object []) = .object fields →
    parseJson (crates.printJson (runnerParameters experiment)) =
      some (runnerParameters experiment) →
    ∀ job, MayCreateJob crates config experiment experimentId job →
      StaysInNamespace parseJson job (requestedNamespace experiment fields) := by
  intro claim
  obtain ⟨job, asked⟩ := cartExperiment_asks (.number (.posInt 42))
  have stays := claim cartCrates {} cartParseJson (cartExperiment (.number (.posInt 42))) sampleUid
    (cartFields (.number (.posInt 42))) rfl rfl rfl job asked
  have same : "default" = "shop" := (staysInNamespace_iff_parsed rfl
    (keepsTexts_of_inverts rfl _) asked "shop").mp stays
    "default" "app=cart" rfl
  exact absurd same (by decide)

end ChimpChaos
