/-
This file compares programs that are given different answers.

Two programs are alike when they make the same calls as long as they get answers that are alike,
and then end alike. Sequencing and translating to a larger interface keep this, so a program that
cannot tell some answers apart is shown to be alike to itself piece by piece; and against two
services that differ in such answers only, alike programs come to the same end.
-/

import ChimpChaos.Library.Program

namespace ChimpChaos.Library.Program

variable {Call : Type} {Answer : Call → Type} {Error Value Result : Type}

/-- Two programs make the same calls and end alike, whatever answers they get that are alike. -/
inductive Alike (same : (request : Call) → Answer request → Answer request → Prop)
    (ends : Value → Value → Prop) :
    Program Call Answer Error Value → Program Call Answer Error Value → Prop
  | done {value value' : Value} (alike : ends value value') :
      Alike same ends (.done value) (.done value')
  | fail (error : Error) : Alike same ends (.fail error) (.fail error)
  | panic : Alike same ends .panic .panic
  | call (request : Call) {next next' : Answer request → Program Call Answer Error Value}
      (each : ∀ answer answer', same request answer answer' →
        Alike same ends (next answer) (next' answer')) :
      Alike same ends (.call request next) (.call request next')

variable {same : (request : Call) → Answer request → Answer request → Prop}
  {ends : Value → Value → Prop} {program program' : Program Call Answer Error Value}

theorem alike_ofExcept (result : Except Error Value)
    (reflexive : ∀ value, result = .ok value → ends value value) :
    Alike same ends (ofExcept result : Program Call Answer Error Value) (ofExcept result) := by
  cases result with
  | ok value => exact .done (reflexive value rfl)
  | error error => exact .fail error

/-- Alike programs that go on alike are alike. -/
theorem Alike.bind {ends' : Result → Result → Prop} (alike : Alike same ends program program')
    {continuation continuation' : Value → Program Call Answer Error Result}
    (continues : ∀ value value', ends value value' →
      Alike same ends' (continuation value) (continuation' value')) :
    Alike same ends' (program >>= continuation) (program' >>= continuation') := by
  induction alike with
  | done alike => exact continues _ _ alike
  | fail error => exact .fail error
  | panic => exact .panic
  | call request each inductionHypothesis => exact .call request inductionHypothesis

/-- The same failure, or values that are related. -/
inductive SameResult (related : Value → Value → Prop) :
    Except Error Value → Except Error Value → Prop
  | ok {value value' : Value} (same : related value value') :
      SameResult related (.ok value) (.ok value')
  | error (error : Error) : SameResult related (.error error) (.error error)

/-- The results of alike programs, failures included, are alike. -/
theorem Alike.attempt (alike : Alike same ends program program') :
    Alike same (SameResult ends) program.attempt program'.attempt := by
  induction alike with
  | done alike => exact .done (.ok alike)
  | fail error => exact .done (.error error)
  | panic => exact .panic
  | call request each inductionHypothesis => exact .call request inductionHypothesis

/-- Over a larger interface programs stay alike when alike answers there are translated to alike
answers. -/
theorem Alike.inject {LargerCall : Type} {LargerAnswer : LargerCall → Type}
    {put : Call → LargerCall}
    {answerOf : (request : Call) → LargerAnswer (put request) → Answer request}
    {larger : (request : LargerCall) → LargerAnswer request → LargerAnswer request → Prop}
    (alike : Alike same ends program program')
    (translated : ∀ request answer answer', larger (put request) answer answer' →
      same request (answerOf request answer) (answerOf request answer')) :
    Alike larger ends (program.inject put answerOf) (program'.inject put answerOf) := by
  induction alike with
  | done alike => exact .done alike
  | fail error => exact .fail error
  | panic => exact .panic
  | call request each inductionHypothesis =>
    exact .call _ fun answer answer' close =>
      inductionHypothesis _ _ (translated request answer answer' close)

/-- How alike programs end. -/
inductive EndsAlike (ends : Value → Value → Prop) :
    Outcome Error Value → Outcome Error Value → Prop
  | returned {value value' : Value} (alike : ends value value') :
      EndsAlike ends (.returned value) (.returned value')
  | failed (error : Error) : EndsAlike ends (.failed error) (.failed error)
  | panicked : EndsAlike ends .panicked .panicked

/-- Against two services that give alike answers and do the same, alike programs end alike and
leave the same state. -/
theorem Alike.exec {State : Type} {serve serve' : (request : Call) → State → Answer request × State}
    (alike : Alike same ends program program')
    (answers : ∀ request state, same request (serve request state).1 (serve' request state).1 ∧
      (serve request state).2 = (serve' request state).2) (state : State) :
    EndsAlike ends (program.exec serve state).1 (program'.exec serve' state).1 ∧
      (program.exec serve state).2 = (program'.exec serve' state).2 := by
  induction alike generalizing state with
  | done alike => exact ⟨.returned alike, rfl⟩
  | fail error => exact ⟨.failed error, rfl⟩
  | panic => exact ⟨.panicked, rfl⟩
  | call request each inductionHypothesis =>
    obtain ⟨close, next⟩ := answers request state
    rw [exec_call, exec_call, ← next]
    exact inductionHypothesis _ _ close _

theorem EndsAlike.eq {outcome outcome' : Outcome Error Value}
    (alike : EndsAlike (· = ·) outcome outcome') : outcome = outcome' := by
  cases alike with
  | returned same => rw [same]
  | failed | panicked => rfl

end ChimpChaos.Library.Program
