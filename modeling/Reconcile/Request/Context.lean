import Reconcile.Request.Basic
import Reconcile.Context

/-!
# Context requests

A `context` request makes a context, optionally with a timeout, and a child
of it, then runs a list of cancellations and queries. The clock is in
milliseconds: the parent is made at 0, the child at 1, and every query asks
at 2. The child shares the parent's cancel flag; without a timeout of its own
it also has the parent's deadline.
-/

namespace Reconcile.Request

/-- A context and its child, with the one cancel flag they share. -/
structure ContextPair where
  parent : Context
  child : Context

/-- The moment every query asks at. -/
def queryTime : Nat := 2

/-- Runs one operation on the pair and answers it. -/
def contextStep (pair : ContextPair) : Document → ContextPair × Document
  | .string "cancel" | .string "cancel_child" =>
    ({ parent := { pair.parent with cancelled := true }, child := { pair.child with cancelled := true } }, .string "ok")
  | .string "is_cancelled" => (pair, .bool (pair.parent.isCancelledAt queryTime))
  | .string "child_is_cancelled" => (pair, .bool (pair.child.isCancelledAt queryTime))
  | .string "has_deadline" => (pair, .bool pair.parent.deadline.isSome)
  | .string "child_has_deadline" => (pair, .bool pair.child.deadline.isSome)
  | .string "child_deadline_is_parents" => (pair, .bool (pair.child.deadline.isSome && pair.child.deadline == pair.parent.deadline))
  | .string "remaining_is_zero" =>
    (pair, match pair.parent.remainingAt queryTime with
      | some n => .bool (n == 0)
      | none => .null)
  | other => (pair, refusal ("unknown context op " ++ shown other))

/-- Runs operations in order on the pair, answering each. -/
def contextSteps : ContextPair → List Document → List Document
  | _, [] => []
  | pair, op :: rest =>
    let (pair, out) := contextStep pair op
    out :: contextSteps pair rest

/-- Runs a list of operations on a fresh context and its child. -/
def context (req : Document) : Answer := do
  let timeout := optCount req "timeout_ms"
  let childTimeout := optCount req "child_timeout_ms"
  let parent : Context := match timeout with
    | some t => Context.withTimeout 0 t
    | none => {}
  let child := match childTimeout with
    | some t => parent.childWithTimeout 1 t
    | none => parent
  .ok (.array (contextSteps ⟨parent, child⟩ (items req "ops")))

end Reconcile.Request
