import Reconcile.Request.Basic
import Reconcile.Agent.Accessor

/-!
# Agent queue requests

An `agent_queue` request makes one queue and one accessor for a node and runs
a list of pushes, declarations through the accessor, drains and queries on
them, answering each in turn. Errors are answered in place.
-/

namespace Reconcile.Request

/-- The view of a queued change. -/
def changeView (c : AgentChange) : Document :=
  .object [("observed", c.observed), ("path", stringList c.path), ("spec", c.spec)]

/-- A value with a mapping keyed by pairs, which has no document form. -/
def unwritableSpec : Payload := .unencodable "BadSpec(\x7b(1, 2): 3\x7d)" "key must be a string"

/-- Runs one operation on the queue and answers it. -/
def agentStep (verbose : Bool) (agents : AgentAccessor) (q : AgentQueue) (op : Document) :
    Except Document (AgentQueue × Document) := do
  let failed (e : AgentError) := errorObject verbose e.diagnostic
  match field op "op" with
  | .string "push" =>
    let path ← pathField op
    match q.push ⟨path, field op "spec", field op "observed"⟩ with
    | (q, .ok ()) => .ok (q, .string "ok")
    | (q, .error e) => .ok (q, failed e)
  | .string "agent" =>
    let path ← pathField op
    match agents.agent path with
    | .error e => .ok (q, failed e)
    | .ok h =>
      let seen : Mapping := [("observed", h.observed), ("path", stringList h.path)]
      let spec : Option Payload :=
        if flag op "declare_bad" then some unwritableSpec
        else (op.get? "declare").map Payload.document
      match spec with
      | none => .ok (q, .object seen)
      | some spec =>
        match h.declare spec q with
        | (q, outcome) =>
          let declared := match outcome with
            | .ok () => .string "ok"
            | .error e => failed e
          .ok (q, Document.ofEntries (("declared", declared) :: seen))
  | .string "drain" =>
    let (changes, q) := q.drain
    .ok (q, .array (changes.map changeView))
  | .string "len" => .ok (q, Document.nat q.size)
  | .string "is_empty" => .ok (q, .bool (q.size == 0))
  | .string "is_closed" => .ok (q, .bool q.closed)
  | .string "capacity" => .ok (q, Document.nat q.capacity)
  | .string "overflow" =>
    .ok (q, match q.overflow with
      | some e => failed e
      | none => .null)
  | other => .ok (q, refusal ("unknown agent_queue op " ++ shown other))

/-- Runs operations in order on the queue, answering each. -/
def agentSteps (verbose : Bool) (agents : AgentAccessor) : AgentQueue → List Document → Except Document (List Document)
  | _, [] => .ok []
  | q, op :: rest => do
    let (q, out) ← agentStep verbose agents q op
    let outs ← agentSteps verbose agents q rest
    .ok (out :: outs)

/-- Runs a list of operations on a fresh queue of a node. -/
def agentQueue (verbose : Bool) (req : Document) : Answer := do
  let capacity := (optCount req "capacity").getD 1000
  let nodePath ← pathField req "node_path"
  let outs ← agentSteps verbose ⟨nodePath, field req "current"⟩ (AgentQueue.create capacity) (items req "ops")
  .ok (.array outs)

end Reconcile.Request
