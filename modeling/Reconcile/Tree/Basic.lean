import Reconcile.Agent.Accessor
import Reconcile.Secrets

/-!
# Assembler trees

An adapter handles one kind of resource. The engine knows nothing about
kinds: it asks an `Adapter` where a node sits, what it builds into, and what
state it converges to, and keeps the answers in a `Tree`.

All adapters of one cycle share a `Session`: the secret store, the cancel flag
of the cycle's context and the lines adapters log. Each tree node keeps its
absolute and relative path, its identity, tags, the state its last
convergence reported, and the agent changes it queued while building.

Building may create children that the adapter makes up on the way; the
adapter's `rank` strictly decreases from a node to each child it builds, so
building ends.

A tree lists its nodes with a loop over an explicit stack (`Tree.listed`);
`Tree.nodes` lists them parent first by recursion.
-/

namespace Reconcile

/-- What the adapters of one cycle share. -/
structure Session where
  secrets : SecretStore := {}
  /-- The cancel flag of the cycle's context. -/
  cancelled : Bool := false
  /-- What adapters logged, oldest first. -/
  log : List String := []
  deriving DecidableEq, Repr, Inhabited

/-- Appends a line to the session's log. -/
def Session.note (s : Session) (line : String) : Session := { s with log := s.log ++ [line] }

/-- Where a node sits below its parent, and how it normalizes its desired
spec mapping before it builds. -/
structure Placement where
  relative : List String
  specEdit : Option (Mapping → Mapping) := none

/-- What a node builds into: its tags, a value handed down to its children,
and the children by id (a later child with an id replaces an earlier one). -/
structure Built (β : Type) where
  kind : String
  version : String
  handDown : Option Document := none
  children : List (String × β) := []

/-- What a node's build reads: its desired node document, its agents, and what
its parent handed down. -/
structure BuildInput where
  desired : Document
  agents : AgentAccessor
  handedDown : Option Document

/-- A failed convergence, with the state the adapter still knows. -/
structure EnsureFailure where
  leftover : Option Payload := none
  fault : Fault
  deriving DecidableEq, Repr, Inhabited

/-- What the engine asks of the adapters of node type `α`. -/
structure Adapter (α : Type) where
  /-- The name of a node in logs and errors. -/
  identity : α → String
  /-- Strictly decreases from a node to every child it builds. -/
  rank : α → Nat
  /-- Where the node sits below its parent; asked only of non-root nodes. -/
  placement : α → Session → Placement × Session
  /-- Builds the node, declaring agents on its queue. -/
  build : (a : α) → BuildInput → Session → AgentQueue →
    Except Fault (Built { c : α // rank c < rank a }) × Session × AgentQueue
  /-- Converges the node, given the states of its children by id. -/
  ensure : α → List (String × Payload) → Session → Except EnsureFailure Payload × Session

/-- One built node with its children. -/
structure Tree (α : Type) where
  path : List String
  relative : List String
  identity : String
  adapter : α
  kind : String
  version : String
  state : Option Payload := none
  queue : AgentQueue
  children : List (String × Tree α) := []

namespace Tree

variable {α : Type}

mutual
/-- Every node, parent first, children in id order: the pre-order, by
recursion down the tree. -/
def nodes : Tree α → List (Tree α)
  | t@⟨_, _, _, _, _, _, _, _, cs⟩ => t :: nodesOf cs
/-- Every node of a list of subtrees, in order. -/
def nodesOf : List (String × Tree α) → List (Tree α)
  | [] => []
  | (_, c) :: cs => nodes c ++ nodesOf cs
end

mutual
/-- The number of nodes. -/
def nodeCount : Tree α → Nat
  | ⟨_, _, _, _, _, _, _, _, cs⟩ => 1 + nodeCountOf cs
/-- The number of nodes of a list of subtrees. -/
def nodeCountOf : List (String × Tree α) → Nat
  | [] => 0
  | (_, c) :: cs => nodeCount c + nodeCountOf cs
end

theorem nodeCount_eq (t : Tree α) : t.nodeCount = 1 + nodeCountOf t.children := by
  cases t
  rfl

mutual
/-- Changes the adapter of every node. -/
def mapAdapter {β : Type} (f : α → β) : Tree α → Tree β
  | ⟨p, r, i, a, k, v, st, q, cs⟩ => ⟨p, r, i, f a, k, v, st, q, mapAdapterOf f cs⟩
/-- Changes the adapter of every node of a list of subtrees. -/
def mapAdapterOf {β : Type} (f : α → β) : List (String × Tree α) → List (String × Tree β)
  | [] => []
  | (id, c) :: cs => (id, mapAdapter f c) :: mapAdapterOf f cs
end

/-- The number of nodes of the subtrees on a stack. -/
def stackCount : List (Tree α) → Nat
  | [] => 0
  | t :: stack => t.nodeCount + stackCount stack

/-- Pushes the subtrees of `entries` one after the other on a stack whose top
is its head. -/
def pushEntries (stack : List (Tree α)) (entries : List (String × Tree α)) : List (Tree α) :=
  entries.foldl (fun s e => e.2 :: s) stack

/-- Entries pushed last first leave the first of them on top. -/
theorem pushEntries_reverse (stack : List (Tree α)) (entries : List (String × Tree α)) :
    pushEntries stack entries.reverse = entries.map Prod.snd ++ stack := by
  induction entries with
  | nil => rfl
  | cons e entries ih =>
    simp only [pushEntries, List.reverse_cons, List.foldl_append, List.foldl_cons, List.foldl_nil] at ih ⊢
    rw [ih]
    rfl

theorem stackCount_append (entries : List (String × Tree α)) (stack : List (Tree α)) :
    stackCount (entries.map Prod.snd ++ stack) = nodeCountOf entries + stackCount stack := by
  induction entries with
  | nil => simp [nodeCountOf]
  | cons e entries ih =>
    obtain ⟨id, c⟩ := e
    simp only [List.map_cons, List.cons_append, stackCount, nodeCountOf, ih]
    omega

/-- The nodes listed by visiting a stack of subtrees, its top first: the top
comes off and is listed, and its children go on, the last one first, so that
the first child comes off next. -/
def visit : List (Tree α) → List (Tree α)
  | [] => []
  | t :: stack => t :: visit (pushEntries stack t.children.reverse)
termination_by stack => stackCount stack
decreasing_by
  rw [List.unattach_reverse, List.unattach_attach, pushEntries_reverse, stackCount_append, stackCount,
    nodeCount_eq]
  omega

/-- Every node, as a visit from the tree alone on the stack lists them. -/
def listed (t : Tree α) : List (Tree α) := visit [t]

/-- The number of nodes holding a state. -/
def converged (t : Tree α) : Nat := (t.listed.filter fun n => n.state.isSome).length

/-- The child with id `id`. -/
def child (t : Tree α) (id : String) : Option (Tree α) := Keyed.get? id t.children

/-- The node reached by following child ids. -/
def descendant (t : Tree α) : List String → Option (Tree α)
  | [] => some t
  | id :: rest => (t.child id).bind fun c => c.descendant rest

/-- The number of agent changes queued and not yet written. -/
def pending (t : Tree α) : Nat := t.queue.size

mutual
/-- Every node lists once per node of the tree. -/
theorem length_nodes : (t : Tree α) → t.nodes.length = t.nodeCount
  | ⟨_, _, _, _, _, _, _, _, cs⟩ => by
    simp only [nodes, nodeCount, List.length_cons, length_nodesOf cs]
    omega
theorem length_nodesOf : (cs : List (String × Tree α)) → (nodesOf cs).length = nodeCountOf cs
  | [] => rfl
  | (_, c) :: cs => by
    simp only [nodesOf, nodeCountOf, List.length_append, length_nodes c, length_nodesOf cs]
end

end Tree

end Reconcile
