/-
This file settles when the numeric parameters of a scenario are used as they are written.

A number is read with 64 unsigned bits and cut to the width of its field, and whatever else is
under the key of an optional number counts as its default. So a number is used as written just
when it fits its field, and any other value just when it is the default in another notation. The
checks of a range come after the cut and see what is left.
-/

import ChimpChaos.Operator.IstioInjector
import ChimpChaos.Runner.Scenarios

namespace ChimpChaos

open Library

/-! ### One parameter -/

/-- A field is the number that is written under its key, or the default, if it has one, when
there is no such key. -/
def AsWritten (params : Json) (key : String) (default? : Option Nat) (field : Nat) : Prop :=
  match params.get? key with
  | none => default? = some field
  | some (.number number) => number.value = field
  | some _ => False

/-- There is no such key; or it has an unsigned number of at most so many bits, or another number
that equals the default. -/
def Fits (params : Json) (key : String) (bits default : Nat) : Prop :=
  match params.get? key with
  | none => True
  | some (.number (.posInt value)) => value.toNat < 2 ^ bits
  | some (.number number) => number.value = default
  | some _ => False

/-- The number read from a key with a default. -/
def numberOr (params : Json) (key : String) (default : UInt64) : UInt64 :=
  ((params.get? key).bind Json.asU64?).getD default

section Parameter

variable {params : Json} {key : String} {value : UInt64} {bits : Nat}

theorem cast_mod_iff (number bits : Nat) :
    (number : Rat) = (number % 2 ^ bits : Nat) ↔ number < 2 ^ bits := by
  rw [Nat.cast_inj, eq_comm, Nat.mod_eq_iff_lt (Nat.two_pow_pos bits).ne']

/-- A number without default is used as written when it fits. -/
theorem asWritten_required (found : params.get? key = some (.number (.posInt value)))
    (default? : Option Nat) :
    AsWritten params key default? (value.toNat % 2 ^ bits) ↔ value.toNat < 2 ^ bits := by
  rw [AsWritten, found]
  exact cast_mod_iff value.toNat bits

/-- A number with a default is used as written when it fits or is the default. -/
theorem asWritten_optional (params : Json) (key : String) (bits : Nat) (default : UInt64)
    (small : default.toNat < 2 ^ bits) :
    AsWritten params key (some default.toNat) ((numberOr params key default).toNat % 2 ^ bits) ↔
      Fits params key bits default.toNat := by
  rw [AsWritten, Fits, numberOr]
  have kept := Nat.mod_eq_of_lt small
  cases params.get? key with
  | none => simp [kept]
  | some json =>
    cases json with
    | number number =>
      cases number with
      | posInt value => exact cast_mod_iff value.toNat bits
      | negInt value => simp [Json.asU64?, kept]
      | float value => simp [Json.asU64?, kept]
    | null | bool | string | array | object => simp

/-- What is written under a key that is used as written. -/
theorem AsWritten.value_eq {default? : Option Nat} {field : Nat}
    (written : AsWritten params key default? field) {number : JsonNumber}
    (found : params.get? key = some (.number number)) : number.value = field := by
  rw [AsWritten, found] at written
  exact written

end Parameter

/-! ### The three readers -/

/-- CPU stress, if it is accepted, uses the cores and the percent as written, and what is written
is in the ranges. -/
def CpuStress.Exact (params : Json) : Prop :=
  ∀ durationSecs cores percent,
    CpuStress.parseConfig params durationSecs = .ok (cores, percent) →
    AsWritten params "cores" (some 1) cores.toNat ∧
      AsWritten params "percent" (some 80) percent.toNat ∧
      (∀ number, params.get? "cores" = some (.number number) → 0 < number.value) ∧
      ∀ number, params.get? "percent" = some (.number number) → number.value ≤ 100

/-- The low 32 bits of the cores are 0, or those of the percent are above 100, so that the
parameters are refused; or both fit. -/
def CpuStress.RefusedOrFits (params : Json) : Prop :=
  (∃ value, params.get? "cores" = some (.number (.posInt value)) ∧ value.toNat % 2 ^ 32 = 0) ∨
    (∃ value, params.get? "percent" = some (.number (.posInt value)) ∧
      100 < value.toNat % 2 ^ 32) ∨
    Fits params "cores" 32 1 ∧ Fits params "percent" 32 80

/-- A network delay, if it is accepted, uses the delay and the jitter as written. -/
def NetworkDelay.Exact (params : Json) : Prop :=
  ∀ interface delayMs jitterMs,
    NetworkDelay.parseConfig params = .ok (interface, delayMs, jitterMs) →
    AsWritten params "delayMs" none delayMs.toNat ∧
      AsWritten params "jitterMs" (some 0) jitterMs.toNat

/-- An unsigned delay fits, and the jitter with it. -/
def NetworkDelay.RefusedOrFits (params : Json) : Prop :=
  ∀ value, params.get? "delayMs" = some (.number (.posInt value)) →
    value.toNat < 2 ^ 32 ∧ Fits params "jitterMs" 32 0

/-- A fault that is built carries the numbers as written. -/
def FaultExact (scenario : ScenarioType) (params : Json) : Prop :=
  ∀ fault, buildFaultForScenario scenario params = some fault →
    match scenario with
    | .edgeDelay => ∃ latencyMs, fault = buildEdgeDelayFault latencyMs ∧
      AsWritten params "latencyMs" none latencyMs.toNat
    | .edgeAbort => ∃ percent httpStatus, fault = buildEdgeAbortFault percent httpStatus ∧
      AsWritten params "abortPercent" none percent.toNat ∧
      AsWritten params "abortHttpStatus" (some 503) httpStatus.toNat
    | _ => False

/-- For an abort, an unsigned percent fits, and the status with it. -/
def FaultRefusedOrFits (scenario : ScenarioType) (params : Json) : Prop :=
  scenario = .edgeAbort → ∀ value, params.get? "abortPercent" = some (.number (.posInt value)) →
    value.toNat < 2 ^ 32 ∧ Fits params "abortHttpStatus" 16 503

/-! ### When they use the numbers as written -/

section Readers

variable {params : Json}

theorem cpuStress_parseConfig_eq (durationSecs : UInt64) :
    CpuStress.parseConfig params durationSecs =
      if (numberOr params "cores" 1).toUInt32 = 0 then
        .error (.invalidConfig "cores must be > 0")
      else if (numberOr params "percent" 80).toUInt32 > 100 then
        .error (.invalidConfig "percent must be 0-100")
      else .ok ((numberOr params "cores" 1).toUInt32, (numberOr params "percent" 80).toUInt32) := by
  rw [CpuStress.parseConfig]
  by_cases none : (numberOr params "cores" 1).toUInt32 = 0
  · rw [if_pos none]
    exact if_pos none
  · rw [if_neg none]
    refine (if_neg none).trans ?_
    by_cases large : (numberOr params "percent" 80).toUInt32 > 100
    · rw [if_pos large]
      exact if_pos large
    · rw [if_neg large]
      exact if_neg large

/-- CPU stress is accepted when the two numbers, cut to 32 bits, are in their ranges. -/
theorem cpuStress_parseConfig_iff {durationSecs : UInt64} {cores percent : UInt32} :
    CpuStress.parseConfig params durationSecs = .ok (cores, percent) ↔
      (cores = (numberOr params "cores" 1).toUInt32 ∧
        percent = (numberOr params "percent" 80).toUInt32) ∧ cores.toNat ≠ 0 ∧
        percent.toNat ≤ 100 := by
  rw [cpuStress_parseConfig_eq]
  generalize (numberOr params "cores" 1).toUInt32 = readCores
  generalize (numberOr params "percent" 80).toUInt32 = readPercent
  have zero : readCores = 0 ↔ readCores.toNat = 0 := UInt32.toNat_inj.symm
  have above : readPercent > 100 ↔ 100 < readPercent.toNat := UInt32.lt_iff_toNat_lt
  split_ifs with none large
  · refine iff_of_false (by simp) ?_
    rintro ⟨⟨rfl, -⟩, positive, -⟩
    exact positive (zero.mp none)
  · refine iff_of_false (by simp) ?_
    rintro ⟨⟨-, rfl⟩, -, small⟩
    exact absurd (above.mp large) (not_lt.mpr small)
  · rw [Except.ok.injEq, Prod.mk.injEq, eq_comm, @eq_comm _ readPercent]
    refine (and_iff_left_of_imp ?_).symm
    rintro ⟨rfl, rfl⟩
    exact ⟨mt zero.mpr none, not_lt.mp (mt above.mpr large)⟩

/-- A number that the default is not has been given. -/
theorem found_of_numberOr {key : String} {default : UInt64} {refused : UInt64 → Prop}
    (accepted : ¬ refused default) (read : refused (numberOr params key default)) :
    ∃ value, params.get? key = some (.number (.posInt value)) ∧ refused value := by
  rw [numberOr] at read
  cases found : (params.get? key).bind Json.asU64? with
  | none =>
    rw [found] at read
    exact absurd read accepted
  | some value =>
    rw [found] at read
    exact ⟨value, Json.bind_asU64?_eq_some_iff.mp found, read⟩

theorem numberOr_of_found {key : String} {value : UInt64} (default : UInt64)
    (found : params.get? key = some (.number (.posInt value))) :
    numberOr params key default = value := by
  rw [numberOr, Json.bind_asU64?_eq_some_iff.mpr found, Option.getD_some]

theorem cpuStress_exact_of_fits (fits : Fits params "cores" 32 1 ∧ Fits params "percent" 32 80) :
    CpuStress.Exact params := by
  intro durationSecs cores percent accepted
  obtain ⟨⟨rfl, rfl⟩, positive, small⟩ := cpuStress_parseConfig_iff.mp accepted
  have writtenCores := (asWritten_optional params "cores" 32 1 (by decide)).mpr fits.1
  have writtenPercent := (asWritten_optional params "percent" 32 80 (by decide)).mpr fits.2
  refine ⟨writtenCores, writtenPercent, fun number found => ?_, fun number found => ?_⟩
  · rw [writtenCores.value_eq found]
    exact Nat.cast_pos.mpr (Nat.pos_of_ne_zero positive)
  · rw [writtenPercent.value_eq found]
    exact Nat.cast_le_ofNat.mpr small

theorem cpuStress_exact_iff : CpuStress.Exact params ↔ CpuStress.RefusedOrFits params := by
  constructor
  · intro uses
    by_cases zero : (numberOr params "cores" 1).toNat % 2 ^ 32 = 0
    · exact Or.inl (found_of_numberOr (by decide) zero)
    · by_cases large : 100 < (numberOr params "percent" 80).toNat % 2 ^ 32
      · exact Or.inr (Or.inl (found_of_numberOr (by decide) large))
      · have written := uses 0 _ _
          (cpuStress_parseConfig_iff.mpr ⟨⟨rfl, rfl⟩, zero, not_lt.mp large⟩)
        exact Or.inr (Or.inr ⟨(asWritten_optional params "cores" 32 1 (by decide)).mp written.1,
          (asWritten_optional params "percent" 32 80 (by decide)).mp written.2.1⟩)
  · rintro (⟨value, found, zero⟩ | ⟨value, found, large⟩ | fits)
    · intro durationSecs cores percent accepted
      obtain ⟨⟨rfl, -⟩, positive, -⟩ := cpuStress_parseConfig_iff.mp accepted
      rw [numberOr_of_found 1 found] at positive
      exact absurd zero positive
    · intro durationSecs cores percent accepted
      obtain ⟨⟨-, rfl⟩, -, small⟩ := cpuStress_parseConfig_iff.mp accepted
      rw [numberOr_of_found 80 found] at small
      exact absurd large (not_lt.mpr small)
    · exact cpuStress_exact_of_fits fits

theorem networkDelay_parseConfig_iff {interface : String} {delayMs jitterMs : UInt32} :
    NetworkDelay.parseConfig params = .ok (interface, delayMs, jitterMs) ↔
      ((params.get? "interface").bind Json.asStr?).getD "eth0" = interface ∧
        (∃ value, params.get? "delayMs" = some (.number (.posInt value)) ∧
          value.toUInt32 = delayMs) ∧ (numberOr params "jitterMs" 0).toUInt32 = jitterMs := by
  rw [NetworkDelay.parseConfig]
  cases found : (params.get? "delayMs").bind Json.asU64? with
  | none =>
    refine iff_of_false nofun ?_
    rintro ⟨-, ⟨value, present, -⟩, -⟩
    rw [Json.bind_asU64?_eq_some_iff.mpr present] at found
    cases found
  | some value =>
    have present := Json.bind_asU64?_eq_some_iff.mp found
    rw [orInvalid_some_bind, present]
    show Except.ok _ = Except.ok _ ↔ _
    simp [numberOr]

theorem networkDelay_exact_iff :
    NetworkDelay.Exact params ↔ NetworkDelay.RefusedOrFits params := by
  constructor
  · intro uses value found
    have written := uses _ _ _ (networkDelay_parseConfig_iff.mpr ⟨rfl, ⟨value, found, rfl⟩, rfl⟩)
    exact ⟨(asWritten_required found none).mp written.1,
      (asWritten_optional params "jitterMs" 32 0 (by decide)).mp written.2⟩
  · intro fits interface delayMs jitterMs accepted
    obtain ⟨-, ⟨value, found, rfl⟩, rfl⟩ := networkDelay_parseConfig_iff.mp accepted
    have both := fits value found
    exact ⟨(asWritten_required found none).mpr both.1,
      (asWritten_optional params "jitterMs" 32 0 (by decide)).mpr both.2⟩

/-- What is built from a number that has to be there. -/
theorem built_iff {Result : Type} {key : String} (build : UInt64 → Result) {result : Result} :
    (do let value ← (← params.get? key).asU64?
        return build value) = some result ↔
      ∃ value, params.get? key = some (.number (.posInt value)) ∧ build value = result := by
  cases params.get? key with
  | none => simp
  | some json => simp [Option.bind_eq_some_iff, Json.asU64?_eq_some_iff]

theorem buildFault_edgeDelay_iff {fault : Json} :
    buildFaultForScenario .edgeDelay params = some fault ↔
      ∃ value, params.get? "latencyMs" = some (.number (.posInt value)) ∧
        buildEdgeDelayFault value = fault :=
  built_iff buildEdgeDelayFault

theorem buildFault_edgeAbort_iff {fault : Json} :
    buildFaultForScenario .edgeAbort params = some fault ↔
      ∃ value, params.get? "abortPercent" = some (.number (.posInt value)) ∧
        buildEdgeAbortFault value.toUInt32 (numberOr params "abortHttpStatus" 503).toUInt16 =
          fault :=
  built_iff fun value =>
    buildEdgeAbortFault value.toUInt32 (numberOr params "abortHttpStatus" 503).toUInt16

/-- An abort fault tells its percent and its status. -/
theorem buildEdgeAbortFault_injective {percent percent' : UInt32} {httpStatus httpStatus' : UInt16}
    (same : buildEdgeAbortFault percent httpStatus = buildEdgeAbortFault percent' httpStatus') :
    percent = percent' ∧ httpStatus = httpStatus' := by
  have widened : httpStatus.toUInt64 = httpStatus'.toUInt64 ∧
      percent.toUInt64 = percent'.toUInt64 := by
    simpa [buildEdgeAbortFault, unsignedJson] using same
  exact ⟨UInt32.toNat_inj.mp (congrArg UInt64.toNat widened.2),
    UInt16.toNat_inj.mp (congrArg UInt64.toNat widened.1)⟩

/-- The latency of a delay is always used as written. -/
theorem faultExact_edgeDelay : FaultExact .edgeDelay params := by
  intro fault built
  obtain ⟨value, found, rfl⟩ := buildFault_edgeDelay_iff.mp built
  refine ⟨value, rfl, ?_⟩
  rw [AsWritten, found]
  rfl

theorem faultExact_edgeAbort_iff :
    FaultExact .edgeAbort params ↔ FaultRefusedOrFits .edgeAbort params := by
  constructor
  · intro uses _ value found
    obtain ⟨percent, httpStatus, same, writtenPercent, writtenStatus⟩ :=
      uses _ (buildFault_edgeAbort_iff.mpr ⟨value, found, rfl⟩)
    obtain ⟨rfl, rfl⟩ := buildEdgeAbortFault_injective same
    exact ⟨(asWritten_required found none).mp writtenPercent,
      (asWritten_optional params "abortHttpStatus" 16 503 (by decide)).mp writtenStatus⟩
  · intro fits fault built
    obtain ⟨value, found, rfl⟩ := buildFault_edgeAbort_iff.mp built
    have both := fits rfl value found
    exact ⟨_, _, rfl, (asWritten_required found none).mpr both.1,
      (asWritten_optional params "abortHttpStatus" 16 503 (by decide)).mpr both.2⟩

theorem faultExact_iff (scenario : ScenarioType) :
    FaultExact scenario params ↔ FaultRefusedOrFits scenario params := by
  cases scenario with
  | edgeAbort => exact faultExact_edgeAbort_iff
  | edgeDelay => exact iff_of_true faultExact_edgeDelay nofun
  | podKiller | cpuStress | networkDelay => exact iff_of_true nofun nofun

end Readers

/-- Each of the three readers uses the numbers of its parameters as written if and only if it
refuses them or they fit. -/
theorem numbersAsWritten_iff (params : Json) :
    (CpuStress.Exact params ↔ CpuStress.RefusedOrFits params) ∧
      (NetworkDelay.Exact params ↔ NetworkDelay.RefusedOrFits params) ∧
      ∀ scenario, FaultExact scenario params ↔ FaultRefusedOrFits scenario params :=
  ⟨cpuStress_exact_iff, networkDelay_exact_iff, faultExact_iff⟩

/-- A load of `2 ^ 32 + 50` percent is accepted as one of 50. -/
theorem largePercent_accepted : ¬ ∀ params : Json,
    CpuStress.Exact params ∧ NetworkDelay.Exact params ∧
      ∀ scenario, FaultExact scenario params := by
  intro claim
  let params : Json := .object [("percent", .number (.posInt 4294967346))]
  have accepted : CpuStress.parseConfig params 300 = .ok (1, 50) :=
    cpuStress_parseConfig_iff.mpr ⟨⟨rfl, by decide +kernel⟩, by decide, by decide⟩
  have inRange := ((claim params).1 300 1 50 accepted).2.2.2 _ rfl
  have bounded : 4294967346 ≤ 100 := Nat.cast_le_ofNat.mp inRange
  exact absurd bounded (by decide)

end ChimpChaos
