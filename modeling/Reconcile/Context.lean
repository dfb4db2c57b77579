/-!
# Cancellation contexts

A context tells a convergence pass to stop. It holds a cancel flag, shared by
every context derived from it, and an optional deadline on a clock of
abstract ticks; a context counts as cancelled once its flag is set or its
deadline has come. A child context never outlives its parent: it keeps the
parent's deadline when that comes first.
-/

namespace Reconcile

/-- A cancellation context. -/
structure Context where
  cancelled : Bool := false
  deadline : Option Nat := none
  deriving DecidableEq, Repr, Inhabited

namespace Context

/-- A context whose deadline is `timeout` ticks after `now`. -/
def withTimeout (now timeout : Nat) : Context := { deadline := some (now + timeout) }

/-- A child made at `now`, with a deadline `timeout` ticks later unless the
parent's comes first. -/
def childWithTimeout (c : Context) (now timeout : Nat) : Context :=
  let candidate := now + timeout
  { c with deadline := some (match c.deadline with
      | some d => if d < candidate then d else candidate
      | none => candidate) }

/-- Whether the deadline has come at `now`. -/
def expiredAt (c : Context) (now : Nat) : Bool :=
  match c.deadline with
  | some d => d ≤ now
  | none => false

/-- Whether the context counts as cancelled at `now`. -/
def isCancelledAt (c : Context) (now : Nat) : Bool := c.cancelled || c.expiredAt now

/-- The ticks left before the deadline at `now`. -/
def remainingAt (c : Context) (now : Nat) : Option Nat := c.deadline.map (· - now)

/-- A child's deadline is never later than its parent's. -/
theorem childWithTimeout_deadline_le (c : Context) (now timeout d : Nat) (h : c.deadline = some d) :
    ∃ d', (c.childWithTimeout now timeout).deadline = some d' ∧ d' ≤ d := by
  simp only [childWithTimeout, h]
  split
  · exact ⟨d, rfl, Nat.le_refl d⟩
  · exact ⟨now + timeout, rfl, by omega⟩

end Context

end Reconcile
