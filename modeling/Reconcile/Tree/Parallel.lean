import Reconcile.Cycle
import Mathlib.Logic.Relation

/-!
# Converging sibling subtrees in parallel

With parallel siblings, the children of a node converge on a thread pool:
their subtrees run in any order, interleaved node by node, and the node waits
for all of them before it goes on. The failures of its children are collected
in id order, so the node passes up the first failure in id order, as a
sequential pass does.

A parallel pass is a run of `Parallel.Step`s over a tree whose nodes are
marked waiting or done. Each step converges one waiting node whose children
are all done, as `converge` does once it has converged the children; all
nodes share the session. A cycle with parallel siblings ends with any pass
that converges the root (`Reconciler.Ends`).
-/

namespace Reconcile

namespace Parallel

/-- How far a node of a parallel pass got. -/
inductive Progress where
  | waiting
  /-- Converged, with the failure its convergence answered, if any. -/
  | done (failure : Option EnsureError)
  deriving DecidableEq, Repr, Inhabited

namespace Progress

/-- Whether the node has converged. -/
def isDone : Progress → Bool
  | waiting => false
  | done _ => true

/-- The failure a converged node answered. -/
def failure? : Progress → Option EnsureError
  | waiting => none
  | done f => f

end Progress

variable {α : Type}

/-- Converges a node whose children are done: it stops with the first
failure its children answered in id order; otherwise a cancelled context
stops it; otherwise its adapter converges it, given its children's states,
and it keeps the state or the partial state of the failure. -/
def settle (A : Adapter α) (expired : Bool) : Tree (α × Progress) → Session → Tree (α × Progress) × Session
  | ⟨path, relative, identity, (a, _), kind, version, _, queue, children⟩, s =>
    let node (failure : Option EnsureError) (state : Option Payload) : Tree (α × Progress) :=
      ⟨path, relative, identity, (a, .done failure), kind, version, state, queue, children⟩
    match children.findSome? fun e => e.2.adapter.2.failure? with
    | some e => (node (some e) none, s)
    | none =>
      if s.cancelled || expired then (node (some (.cancelled identity (Path.format path))) none, s)
      else
        let states := children.filterMap fun entry => entry.2.state.map fun st => (entry.1, st)
        match A.ensure a states s with
        | (.ok st, s) => (node none (some st), s)
        | (.error f, s) => (node (some (.adapter identity (Path.format path) f.fault)) f.leftover, s)

/-- One step of a parallel pass: a waiting node whose children are all done
converges, or one node converges inside a child's subtree. -/
inductive Step (A : Adapter α) (expired : Bool) :
    Tree (α × Progress) × Session → Tree (α × Progress) × Session → Prop
  | here {t : Tree (α × Progress)} {s : Session} :
      t.adapter.2 = .waiting → (∀ e ∈ t.children, e.2.adapter.2.isDone) →
      Step A expired (t, s) (settle A expired t s)
  | inside {t c c' : Tree (α × Progress)} {id : String} {pre post : List (String × Tree (α × Progress))}
      {s s' : Session} :
      t.children = pre ++ (id, c) :: post → Step A expired (c, s) (c', s') →
      Step A expired (t, s) ({ t with children := pre ++ (id, c') :: post }, s')

mutual
/-- A tree about to converge in parallel: every node waits. -/
def start : Tree α → Tree (α × Progress)
  | ⟨p, r, i, a, k, v, st, q, cs⟩ => ⟨p, r, i, (a, .waiting), k, v, st, q, startOf cs⟩
/-- Subtrees about to converge in parallel. -/
def startOf : List (String × Tree α) → List (String × Tree (α × Progress))
  | [] => []
  | (id, c) :: cs => (id, start c) :: startOf cs
end

/-- The passes from one tree and session to another: steps in any order. -/
def Run (A : Adapter α) (expired : Bool) : Tree (α × Progress) × Session → Tree (α × Progress) × Session → Prop :=
  Relation.ReflTransGen (Step A expired)

end Parallel

namespace Reconciler

variable {α : Type}

/-- How a run of one cycle may end. A failed build ends it. Otherwise the
built tree converges one node after another, as `run` converges it, or, with
parallel siblings, by any parallel pass that converges its root; the rebuild
then finishes the cycle. -/
inductive Ends (r : Reconciler) (A : Adapter α) (expired : Bool) (root : α) (desired current : Document)
    (s : Session) : Except BuildError (Cycle α) × Session → Prop
  | failed {e : BuildError} {s' : Session} :
      build A root desired current r.config.agentQueueCapacity s = (.error e, s') →
      Ends r A expired root desired current s (.error e, s')
  | sequential {tree : Tree α} {s' : Session} :
      build A root desired current r.config.agentQueueCapacity s = (.ok tree, s') →
      r.config.parallelSiblings = false →
      Ends r A expired root desired current s (.ok (r.complete A expired tree current s').1,
        (r.complete A expired tree current s').2)
  | parallel {tree : Tree α} {s' s'' : Session} {T : Tree (α × Parallel.Progress)} {failure : Option EnsureError} :
      build A root desired current r.config.agentQueueCapacity s = (.ok tree, s') →
      r.config.parallelSiblings = true →
      Parallel.Run A expired (Parallel.start tree, s') (T, s'') → T.adapter.2 = .done failure →
      Ends r A expired root desired current s (.ok (r.finish current (T.mapAdapter Prod.fst) failure), s'')

end Reconciler

end Reconcile
