/-
This file implements the calls of a program by programs over a lower interface.

A call is carried out by running its implementation and going on with what this returns. Programs
stay alike when their calls are implemented alike.
-/

import ChimpChaos.Library.Alike

namespace ChimpChaos.Library.Program

variable {Call LowCall : Type} {Answer : Call → Type} {LowAnswer : LowCall → Type}
  {Error Value Result : Type}

/-- A program whose calls are implemented by programs over a lower interface. -/
def interpret (implement : (request : Call) → Program LowCall LowAnswer Error (Answer request)) :
    Program Call Answer Error Value → Program LowCall LowAnswer Error Value
  | .done value => .done value
  | .fail error => .fail error
  | .panic => .panic
  | .call request next => implement request >>= fun answer => (next answer).interpret implement

variable {implement : (request : Call) → Program LowCall LowAnswer Error (Answer request)}

/-- Programs stay alike when their calls are implemented alike. -/
theorem Alike.interpret {same : (request : Call) → Answer request → Answer request → Prop}
    {ends : Value → Value → Prop} {program program' : Program Call Answer Error Value}
    {low : (request : LowCall) → LowAnswer request → LowAnswer request → Prop}
    (alike : Alike same ends program program')
    (implemented : ∀ request, Alike low (same request) (implement request) (implement request)) :
    Alike low ends (program.interpret implement) (program'.interpret implement) := by
  induction alike with
  | done alike => exact .done alike
  | fail error => exact .fail error
  | panic => exact .panic
  | call request each inductionHypothesis =>
    exact (implemented request).bind fun answer answer' close =>
      inductionHypothesis answer answer' close

end ChimpChaos.Library.Program
