/-
This file settles when the API server can accept the Job of a node.

The name of the Job keeps 41 characters of the node's name. A name may be cut anywhere but after
a dot or a hyphen, and where the cut falls is not looked at. The labels of the Job hold the
experiment's name as it is, which may be longer than a label value.
-/

import ChimpChaos.Library.Text
import ChimpChaos.Proof.Coverage

namespace ChimpChaos

open Library

/-! ### Characters -/

section Characters

variable {char : Char}

theorem utf8Size_of_le (small : char.val ≤ 127) : char.utf8Size = 1 := by
  unfold Char.utf8Size
  exact if_pos small

theorem isLower_iff : char.isLower = true ↔ 'a'.val ≤ char.val ∧ char.val ≤ 'z'.val := by
  show (decide ('a'.val ≤ char.val) && decide (char.val ≤ 'z'.val)) = true ↔ _
  rw [Bool.and_eq_true, decide_eq_true_eq, decide_eq_true_eq]

theorem utf8Size_of_lowerAlnum (alnum : isLowerAlnum char = true) : char.utf8Size = 1 := by
  refine utf8Size_of_le ?_
  rw [isLowerAlnum, Bool.or_eq_true, isLower_iff, isDigit_iff] at alnum
  rcases alnum with ⟨-, small⟩ | ⟨-, small⟩
  · exact UInt32.le_trans small (by decide)
  · exact UInt32.le_trans small (by decide)

theorem isAlphanum_of_lowerAlnum (alnum : isLowerAlnum char = true) : char.isAlphanum = true := by
  rw [isLowerAlnum, Bool.or_eq_true] at alnum
  show (char.isUpper || char.isLower || char.isDigit) = true
  rw [Bool.or_eq_true, Bool.or_eq_true]
  exact alnum.imp_left Or.inr

/-- The characters of a name take one byte each. -/
theorem isAscii_of_wellDotted {name : String} (dotted : WellDotted name.toList) :
    IsAscii name := by
  intro char member
  rcases dotted.chars char member with alnum | rfl | rfl
  · exact utf8Size_of_lowerAlnum alnum
  · rfl
  · rfl

/-- A digit of a lowercase hexadecimal number. -/
def isLowerHex (char : Char) : Bool := char.isDigit || ('a' ≤ char && char ≤ 'f')

theorem lowerAlnum_of_lowerHex (hex : isLowerHex char = true) : isLowerAlnum char = true := by
  rw [isLowerHex, Bool.or_eq_true, Bool.and_eq_true, decide_eq_true_eq, decide_eq_true_eq] at hex
  rw [isLowerAlnum, Bool.or_eq_true]
  rcases hex with digit | ⟨above, below⟩
  · exact Or.inr digit
  · refine Or.inl ?_
    rw [isLower_iff]
    exact ⟨above, UInt32.le_trans below (by decide)⟩

end Characters

/-! ### Identifiers -/

/-- Five groups of hexadecimal digits with hyphens between them. -/
def IsUuid (text : String) : Prop :=
  (text.toList.splitOn '-').map List.length = [8, 4, 4, 4, 12] ∧
    ∀ part ∈ text.toList.splitOn '-', ∀ char ∈ part, isLowerHex char = true

instance (text : String) : Decidable (IsUuid text) :=
  decidable_of_iff ((text.toList.splitOn '-').map List.length = [8, 4, 4, 4, 12] ∧
      ((text.toList.splitOn '-').all fun part => part.all isLowerHex) = true) <| by
    simp only [IsUuid, List.all_eq_true]

theorem mem_intercalate {separator char : Char} {parts : List (List Char)}
    (member : char ∈ [separator].intercalate parts) :
    char = separator ∨ ∃ part ∈ parts, char ∈ part := by
  induction parts with
  | nil => cases member
  | cons first rest inductionHypothesis =>
    by_cases last : rest = []
    · subst last
      rw [List.intercalate_singleton] at member
      exact Or.inr ⟨first, List.mem_cons_self, member⟩
    · rw [List.intercalate_cons_of_ne_nil last, List.mem_append, List.mem_append,
        List.mem_singleton] at member
      rcases member with (inFirst | same) | inRest
      · exact Or.inr ⟨first, List.mem_cons_self, inFirst⟩
      · exact Or.inl same
      · exact (inductionHypothesis inRest).imp_right fun ⟨part, within, inPart⟩ =>
          ⟨part, List.mem_cons_of_mem _ within, inPart⟩

section Uuid

variable {text : String}

theorem IsUuid.isAscii (uuid : IsUuid text) : IsAscii text := by
  intro char member
  rw [show text.toList = ['-'].intercalate (text.toList.splitOn '-') from
    (List.intercalate_splitOn '-').symm] at member
  rcases mem_intercalate member with rfl | ⟨part, within, inPart⟩
  · rfl
  · exact utf8Size_of_lowerAlnum (lowerAlnum_of_lowerHex (uuid.2 part within char inPart))

/-- The first eight characters are the first group. -/
theorem IsUuid.front (uuid : IsUuid text) : (text.toList.take 8).length = 8 ∧
    ∀ char ∈ text.toList.take 8, isLowerHex char = true := by
  obtain ⟨lengths, hex⟩ := uuid
  have whole : ['-'].intercalate (text.toList.splitOn '-') = text.toList :=
    List.intercalate_splitOn '-'
  cases parts : text.toList.splitOn '-' with
  | nil =>
    rw [parts] at lengths
    cases lengths
  | cons first rest =>
    rw [parts] at lengths hex whole
    obtain ⟨eight, others⟩ := List.cons.inj lengths
    have more : rest ≠ [] := by
      rintro rfl
      cases others
    rw [List.intercalate_cons_of_ne_nil more, List.append_assoc] at whole
    rw [← whole, List.take_left' eight]
    exact ⟨eight, hex first List.mem_cons_self⟩

end Uuid

/-! ### Acceptable Jobs -/

/-- A label value that the API server takes. -/
structure IsLabelValue (value : List Char) : Prop where
  length : value.length ≤ 63
  first : ∃ char ∈ value.head?, char.isAlphanum = true
  last : ∃ char ∈ value.getLast?, char.isAlphanum = true

/-- The labels of a Job and of its pods. -/
def labelsOf (job : Job) : Labels :=
  job.metadata.labels.getD [] ++
    ((job.spec.bind fun spec => spec.template.metadata).bind ObjectMeta.labels).getD []

/-- The name of the Job is a subdomain name of at most 63 characters, and each of its label values
can be taken. -/
structure Acceptable (job : Job) : Prop where
  name : ∃ name, job.metadata.name = some name ∧ IsDnsSubdomain name.toList ∧
    name.toList.length ≤ 63
  labels : ∀ label ∈ labelsOf job, IsLabelValue label.2.toList

section Acceptable

variable {name node id : String}

/-- A name can be a label value if and only if it is short enough. -/
theorem isLabelValue_iff (dotted : WellDotted name.toList) :
    IsLabelValue name.toList ↔ name.toList.length ≤ 63 := by
  constructor
  · intro value
    exact value.length
  · intro short
    obtain ⟨first, isFirst, firstAlnum⟩ := dotted.first
    obtain ⟨last, isLast, lastAlnum⟩ := dotted.last
    exact ⟨short, ⟨first, isFirst, isAlphanum_of_lowerAlnum firstAlnum⟩,
      ⟨last, isLast, isAlphanum_of_lowerAlnum lastAlnum⟩⟩

theorem isLabelValue_app : IsLabelValue "chimp-chaos-runner".toList :=
  ⟨by decide, ⟨'c', rfl, by decide⟩, ⟨'r', rfl, by decide⟩⟩

theorem isLabelValue_scenario (scenario : ScenarioType) :
    IsLabelValue scenario.toString.toList := by
  cases scenario <;> exact ⟨by decide, ⟨_, rfl, by decide⟩, ⟨_, rfl, by decide⟩⟩

theorem jobName_toList (id node : String) :
    ("chaos-runner-" ++ String.ofList (id.toList.take 8) ++ "-" ++
        String.ofList (node.toList.take 41)).toList =
      ("chaos-runner-".toList ++ id.toList.take 8 ++ ['-']) ++ node.toList.take 41 := by
  simp only [String.toList_append, String.toList_ofList]
  rfl

/-- The name of a Job ends with what is left of the node's name, so it is a subdomain name if and
only if that is one. -/
theorem jobName_subdomain_iff (uuid : IsUuid id) (dotted : WellDotted node.toList) :
    IsDnsSubdomain ("chaos-runner-" ++ String.ofList (id.toList.take 8) ++ "-" ++
        String.ofList (node.toList.take 41)).toList ↔
      ∃ char ∈ (node.toList.take 41).getLast?, isLowerAlnum char = true := by
  have fixed : ∀ char ∈ "chaos-runner-".toList, isLowerAlnum char = true ∨ char = '-' :=
    all_isLowerAlnum_iff.mp (by decide)
  rw [jobName_toList, isDnsSubdomain_iff, ← dotted.take_iff (by decide)]
  refine wellDotted_append_iff (fun char member => ?_) ⟨'c', rfl, by decide⟩ ?_
  · rcases List.mem_append.mp member with member | hyphen
    · rcases List.mem_append.mp member with inFixed | inId
      · exact fixed char inFixed
      · exact Or.inl (lowerAlnum_of_lowerHex (uuid.front.2 char inId))
    · exact Or.inr (List.mem_singleton.mp hyphen)
  · rw [List.head?_take, if_neg (by decide)]
    exact dotted.first

/-- It has at most 63 characters. -/
theorem jobName_length (uuid : IsUuid id) (node : String) :
    ("chaos-runner-" ++ String.ofList (id.toList.take 8) ++ "-" ++
      String.ofList (node.toList.take 41)).toList.length ≤ 63 := by
  have eight := uuid.front.1
  have cut := List.length_take_le 41 node.toList
  rw [jobName_toList, List.length_append, List.length_append, List.length_append, eight]
  show 13 + 8 + 1 + (node.toList.take 41).length ≤ 63
  omega

end Acceptable

/-! ### The Jobs that are built -/

/-- A Job is built for an experiment on a node, and it is acceptable. -/
def BuildsAcceptable (experiment : ChaosExperiment) (id node : String) (scenario : ScenarioType)
    (duration : UInt64) (parametersJson : Option String) (config : JobBuilderConfig) : Prop :=
  ∃ job, buildRunnerJob experiment id node scenario duration parametersJson config = some job ∧
    Acceptable job

section Built

variable {experiment : ChaosExperiment} {name id node : String} {scenario : ScenarioType}
  {duration : UInt64} {parametersJson : Option String} {config : JobBuilderConfig}

theorem makeJobName_of_uuid (uuid : IsUuid id) (dotted : WellDotted node.toList) :
    makeJobName id node = some ("chaos-runner-" ++ String.ofList (id.toList.take 8) ++ "-" ++
      String.ofList (node.toList.take 41)) := by
  have eight := uuid.front.1
  rw [List.length_take] at eight
  refine makeJobName_of_isAscii uuid.isAscii ?_ (isAscii_of_wellDotted dotted)
  rw [byteLength_of_isAscii uuid.isAscii]
  omega

/-- An acceptable Job has a short label and a name that ends well. -/
theorem limits_of_acceptable (named : experiment.metadata.name = some name)
    (validName : IsDnsSubdomain name.toList) (uuid : IsUuid id)
    (validNode : IsDnsSubdomain node.toList)
    (builds : BuildsAcceptable experiment id node scenario duration parametersJson config) :
    name.toList.length ≤ 63 ∧
      ∃ char ∈ (node.toList.take 41).getLast?, isLowerAlnum char = true := by
  have dottedNode := isDnsSubdomain_iff.mp validNode
  unfold BuildsAcceptable buildRunnerJob at builds
  rw [makeJobName_of_uuid uuid dottedNode, named] at builds
  obtain ⟨job, ⟨rfl⟩, ⟨jobName, ⟨rfl⟩, subdomain, -⟩, labels⟩ := builds
  refine ⟨(isLabelValue_iff (isDnsSubdomain_iff.mp validName)).mp
    (labels (experimentLabel, name) ?_), (jobName_subdomain_iff uuid dottedNode).mp subdomain⟩
  exact List.mem_cons_of_mem _ List.mem_cons_self

theorem acceptable_of_limits (named : experiment.metadata.name = some name)
    (validName : IsDnsSubdomain name.toList) (uuid : IsUuid id)
    (validNode : IsDnsSubdomain node.toList) (short : name.toList.length ≤ 63)
    (last : ∃ char ∈ (node.toList.take 41).getLast?, isLowerAlnum char = true) :
    BuildsAcceptable experiment id node scenario duration parametersJson config := by
  have dottedNode := isDnsSubdomain_iff.mp validNode
  unfold BuildsAcceptable buildRunnerJob
  rw [makeJobName_of_uuid uuid dottedNode, named]
  refine ⟨_, rfl, ⟨_, rfl, (jobName_subdomain_iff uuid dottedNode).mpr last,
    jobName_length uuid node⟩, fun label member => ?_⟩
  have given : label ∈ [("app", "chimp-chaos-runner"), (experimentLabel, name),
      (scenarioLabel, scenario.toString), ("app", "chimp-chaos-runner")] := member
  simp only [List.mem_cons, List.not_mem_nil, or_false] at given
  rcases given with rfl | rfl | rfl | rfl
  · exact isLabelValue_app
  · exact (isLabelValue_iff (isDnsSubdomain_iff.mp validName)).mpr short
  · exact isLabelValue_scenario scenario
  · exact isLabelValue_app

end Built

/-- The Job of a node is acceptable if and only if the experiment's name fits a label and the
node's name is not cut behind a dot or a hyphen. -/
theorem buildsAcceptable_iff (experiment : ChaosExperiment) (name id node : String)
    (scenario : ScenarioType) (duration : UInt64) (parametersJson : Option String)
    (config : JobBuilderConfig) (named : experiment.metadata.name = some name)
    (validName : IsDnsSubdomain name.toList) (uuid : IsUuid id)
    (validNode : IsDnsSubdomain node.toList) :
    BuildsAcceptable experiment id node scenario duration parametersJson config ↔
      name.toList.length ≤ 63 ∧
        ∃ char ∈ (node.toList.take 41).getLast?, isLowerAlnum char = true :=
  ⟨limits_of_acceptable named validName uuid validNode,
    fun ⟨short, last⟩ => acceptable_of_limits named validName uuid validNode short last⟩

/-- A node of 44 characters, cut behind a letter. -/
theorem buildsAcceptable_sample :
    BuildsAcceptable (freshSnapshot sampleKey samplePod) sampleUid
      "ip-10-0-31-204.eu-central-1.compute.internal" .podKiller 5 none {} :=
  (buildsAcceptable_iff (freshSnapshot sampleKey samplePod) "demo" sampleUid
    "ip-10-0-31-204.eu-central-1.compute.internal" .podKiller 5 none {} rfl (by decide +kernel)
    (by decide +kernel) (by decide +kernel)).mpr ⟨by decide, ⟨'r', rfl, by decide⟩⟩

/-- A node's name that is cut behind a dot. -/
theorem cutNode_unacceptable : ¬ ∀ (experiment : ChaosExperiment) (name id node : String)
    (scenario : ScenarioType) (duration : UInt64) (parametersJson : Option String)
    (config : JobBuilderConfig), experiment.metadata.name = some name →
    IsDnsSubdomain name.toList → name.toList.length ≤ 253 → IsUuid id →
    IsDnsSubdomain node.toList → node.toList.length ≤ 253 →
    BuildsAcceptable experiment id node scenario duration parametersJson config := by
  intro claim
  have validName : IsDnsSubdomain "demo".toList := by decide +kernel
  have uuid : IsUuid sampleUid := by decide +kernel
  have validNode : IsDnsSubdomain
      "ip-192-168-10-200.ap-northeast-1.compute.internal".toList := by decide +kernel
  have builds := claim (freshSnapshot sampleKey samplePod) "demo" sampleUid _ .podKiller 5 none {}
    rfl validName (by decide) uuid validNode (by decide)
  obtain ⟨-, char, isLast, alnum⟩ := limits_of_acceptable rfl validName uuid validNode builds
  obtain rfl : '.' = char := Option.some.inj isLast
  exact absurd alnum (by decide)

end ChimpChaos
