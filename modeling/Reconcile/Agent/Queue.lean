import Reconcile.Document.Error

/-!
# Agent changes and their queue

A remote agent reads its desired state from the current document. While a
node builds, it declares agent specs; each declaration becomes an
`AgentChange` queued on that node and is written into the document only by the
rebuild, after every node converged.

An `AgentQueue` is a bounded mailbox that closes once. A push is accepted
while the queue is open and holds fewer changes than its capacity. The first
push refused for lack of room is remembered for good (`overflow`), so a build
that swallowed the error is still caught. `drain` hands back the accepted
changes in push order and closes the queue.
-/

namespace Reconcile

/-- One agent declaration: where the agent lives, its new spec and the
current section it had when declared. -/
structure AgentChange where
  path : List String
  spec : Document
  observed : Document
  deriving DecidableEq, Repr, Inhabited

/-- Why an agent declaration fails. -/
inductive AgentError where
  /-- An agent at the declaring node itself. -/
  | emptyPath
  /-- A push past the queue's capacity. -/
  | queueFull (path : String) (capacity : Nat)
  /-- A push after the queue was drained. -/
  | closed (path : String)
  /-- A spec with no document form. -/
  | spec (path : String) (cause : DocumentError)
  /-- A current document whose shape hides the agent's section. -/
  | navigation (cause : NavigateError)
  deriving DecidableEq, Repr, Inhabited

namespace AgentError

/-- The message of an agent error. -/
def message : AgentError → String
  | .emptyPath => "agent path must not be empty"
  | .queueFull path capacity =>
    "agent change queue full (" ++ toString capacity ++ " changes) at " ++ path
  | .closed path => "agent change queue closed, cannot declare " ++ path
  | .spec path cause => "agent spec for " ++ path ++ " is not representable as a document: " ++ cause.message
  | .navigation cause => cause.message

/-- How an agent error presents itself; a navigation error speaks for itself. -/
def diagnostic : AgentError → Diagnostic
  | e@.emptyPath =>
    { kind := "AgentError::EmptyPath", code := "orbiter::agent::empty_path", message := e.message
      help := some "An agent lives below the assembler that declares it. Pass the agent's id path."
      sources := [] }
  | e@(.queueFull _ _) =>
    { kind := "AgentError::QueueFull", code := "orbiter::agent::queue_full", message := e.message
      help := some ("A single build declared more agent changes than `agent_queue_capacity` allows. " ++
        "Raise the capacity in the reconcile config; changes are never dropped silently.")
      sources := [] }
  | e@(.closed _) =>
    { kind := "AgentError::Closed", code := "orbiter::agent::closed", message := e.message
      help := some "Agent changes can only be declared while the owning assembler builds."
      sources := [] }
  | e@(.spec _ cause) =>
    { kind := "AgentError::Spec", code := "orbiter::agent::spec", message := e.message
      help := none
      sources := cause.message :: cause.diagnostic.sources }
  | .navigation cause => { cause.diagnostic with kind := "AgentError::Navigation" }

end AgentError

/-- The changes a node declared during its build. -/
structure AgentQueue where
  capacity : Nat
  changes : List AgentChange := []
  closed : Bool := false
  /-- The path of the first push refused for lack of room. -/
  overflowed : Option String := none
  deriving DecidableEq, Repr, Inhabited

namespace AgentQueue

/-- An open, empty queue. -/
def create (capacity : Nat) : AgentQueue := { capacity }

/-- Queues a change: refused when closed, or when full, which is remembered. -/
def push (q : AgentQueue) (change : AgentChange) : AgentQueue × Except AgentError Unit :=
  if q.closed then (q, .error (.closed (Path.format change.path)))
  else if q.changes.length ≥ q.capacity then
    let path := Path.format change.path
    ({ q with overflowed := q.overflowed.orElse fun _ => some path }, .error (.queueFull path q.capacity))
  else ({ q with changes := q.changes ++ [change] }, .ok ())

/-- The error of the first push refused for lack of room. -/
def overflow (q : AgentQueue) : Option AgentError :=
  q.overflowed.map fun path => .queueFull path q.capacity

/-- The queued changes in push order, and the queue emptied and closed. -/
def drain (q : AgentQueue) : List AgentChange × AgentQueue :=
  (q.changes, { q with changes := [], closed := true })

/-- The number of queued changes. -/
def size (q : AgentQueue) : Nat := q.changes.length

/-- A push onto an open queue with room appends the change. -/
theorem push_changes_of_room (q : AgentQueue) (c : AgentChange) (hopen : q.closed = false)
    (hroom : q.changes.length < q.capacity) : (q.push c).1.changes = q.changes ++ [c] := by
  simp [push, hopen, Nat.not_le.mpr hroom]

end AgentQueue

/-- The tags agent records carry. -/
structure RecordTags where
  kind : String := "nodeagent.caos.ch/NodeAgent"
  version : String := "v0"
  deriving DecidableEq, Repr, Inhabited

/-- The record written for an agent: tags, spec and current section. -/
def RecordTags.record (tags : RecordTags) (spec current : Document) : Mapping :=
  [("current", current), ("kind", .string tags.kind), ("spec", spec), ("version", .string tags.version)]

end Reconcile
