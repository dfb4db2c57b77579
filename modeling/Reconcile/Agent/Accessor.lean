import Reconcile.Agent.Queue

/-!
# Declaring agents

A building node reaches its agents through an accessor bound to the node's
path and to the node's slice of the current document. An agent lives at a
non-empty path below the node; what it last reported is the non-null
`current` section of its entry, or an empty mapping.
-/

namespace Reconcile

/-- The `current` section of the agent at `relative` below a node's slice,
or an empty mapping when the agent has none. -/
def observedSection (node : Document) (relative : List String) : Except NavigateError Document :=
  match node.lookup relative .current with
  | .error e => .error e
  | .ok none => .ok Document.empty
  | .ok (some agent) =>
    match agent.get? "current" with
    | some part => if part.isNull then .ok Document.empty else .ok part
    | none => .ok Document.empty

/-- A node's view of its agents. -/
structure AgentAccessor where
  nodePath : List String
  current : Document
  deriving Repr, Inhabited

/-- One agent of a node: its absolute path and what it last reported. -/
structure AgentHandle where
  path : List String
  observed : Document
  deriving DecidableEq, Repr, Inhabited

/-- The agent at `relative` below the node. -/
def AgentAccessor.agent (a : AgentAccessor) (relative : List String) : Except AgentError AgentHandle :=
  if relative.isEmpty then .error .emptyPath
  else match observedSection a.current relative with
    | .error e => .error (.navigation e)
    | .ok observed => .ok ⟨a.nodePath ++ relative, observed⟩

/-- Declares the agent's new spec on the node's queue. -/
def AgentHandle.declare (h : AgentHandle) (spec : Payload) (q : AgentQueue) :
    AgentQueue × Except AgentError Unit :=
  match spec.encode with
  | .error e => (q, .error (.spec (Path.format h.path) e))
  | .ok d => q.push ⟨h.path, d, h.observed⟩

end Reconcile
