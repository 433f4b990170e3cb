/-
This file relates the contracts of a program, and its histories over two interfaces.

A program keeps every contract that its own implies. A program that is put over a larger interface
keeps its contract there, as long as its own history can be told from the larger one.
-/

import ChimpChaos.Library.Program

namespace ChimpChaos.Library.Program

variable {Call : Type} {Answer : Call → Type} {Error Value : Type}

theorem Follows.imp {program : Program Call Answer Error Value}
    {allowed allowed' : List (Exchange Call Answer) → Call → Prop}
    {finish : List (Exchange Call Answer) → Except Error Value → Prop}
    {history : List (Exchange Call Answer)} (follows : program.Follows allowed finish history)
    (implies : ∀ later request, allowed later request → allowed' later request) :
    program.Follows allowed' finish history := by
  induction program generalizing history with
  | done value => exact follows
  | fail error => exact follows
  | panic => trivial
  | call request next inductionHypothesis =>
    exact ⟨implies _ _ follows.1, fun answer => inductionHypothesis answer (follows.2 answer)⟩

theorem Follows.and {program : Program Call Answer Error Value}
    {allowed allowed' : List (Exchange Call Answer) → Call → Prop}
    {finish : List (Exchange Call Answer) → Except Error Value → Prop}
    {history : List (Exchange Call Answer)} (first : program.Follows allowed finish history)
    (second : program.Follows allowed' finish history) :
    program.Follows (fun later request => allowed later request ∧ allowed' later request) finish
      history := by
  induction program generalizing history with
  | done value => exact first
  | fail error => exact first
  | panic => trivial
  | call request next inductionHypothesis =>
    exact ⟨⟨first.1, second.1⟩, fun answer =>
      inductionHypothesis answer (first.2 answer) (second.2 answer)⟩

/-- Over a larger interface a program follows every contract that its own contract implies for
related histories. -/
theorem Follows.inject_related {LargerCall : Type} {LargerAnswer : LargerCall → Type}
    {put : Call → LargerCall}
    {answerOf : (request : Call) → LargerAnswer (put request) → Answer request}
    {program : Program Call Answer Error Value}
    {allowed : List (Exchange Call Answer) → Call → Prop}
    {finish : List (Exchange Call Answer) → Except Error Value → Prop}
    {allowed' : List (Exchange LargerCall LargerAnswer) → LargerCall → Prop}
    {finish' : List (Exchange LargerCall LargerAnswer) → Except Error Value → Prop}
    {history : List (Exchange Call Answer)} {history' : List (Exchange LargerCall LargerAnswer)}
    (follows : program.Follows allowed finish history)
    (Related : List (Exchange Call Answer) → List (Exchange LargerCall LargerAnswer) → Prop)
    (start : Related history history')
    (permitted : ∀ own larger request, Related own larger → allowed own request →
      allowed' larger (put request))
    (kept : ∀ own larger request answer, Related own larger →
      Related (⟨request, answerOf request answer⟩ :: own) (⟨put request, answer⟩ :: larger))
    (ends : ∀ own larger result, Related own larger → finish own result →
      finish' larger result) :
    (program.inject put answerOf).Follows allowed' finish' history' := by
  induction program generalizing history history' with
  | done value => exact ends _ _ _ start follows
  | fail error => exact ends _ _ _ start follows
  | panic => trivial
  | call request next inductionHypothesis =>
    exact ⟨permitted _ _ _ start follows.1, fun answer =>
      inductionHypothesis _ (follows.2 _) (kept _ _ _ _ start)⟩

end ChimpChaos.Library.Program
