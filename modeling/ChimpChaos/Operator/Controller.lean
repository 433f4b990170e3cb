/-
This file models what the controller does after a pass: when the next one is scheduled.

A pass of the experiment reconciler says itself when to come back, or that it waits for a change
of the object; a failed pass is repeated after a fixed time.
-/

import ChimpChaos.Operator.Reconciler

namespace ChimpChaos

open Library

/-- When to look at an object again. A change of the object is always looked at. -/
inductive Action where
  | requeue (secs : Nat)
  | awaitChange
  deriving DecidableEq, Repr

/-! ### The experiment controller -/

/-- The action after a pass that returns. -/
def reconcileHandler : ReconcileResult → Action
  | .requeue secs => .requeue secs
  | .done => .awaitChange

def errorPolicy : Action := .requeue 30

/-- The action after a pass that has ended. A pass that panics takes the operator down with it. -/
def actionAfter : Handler ReconcileResult → Option Action
  | .done result => some (reconcileHandler result)
  | .fail _ => some errorPolicy
  | .panic => none
  | .call .. => none

end ChimpChaos
