import Reconcile.Tree.Build
import Reconcile.Tree.Ensure
import Reconcile.Tree.Rebuild
import Reconcile.Config.File

/-!
# Reconciliation cycles

One cycle builds the tree, converges it and rebuilds the current document.
A failed build aborts the cycle. A failed convergence does not: the rebuild
still writes the progress that was made. A cycle is converged when nothing
failed; its result is the new document, or the convergence failure, or else
the first rebuild failure.

`Reconciler.run` converges the built tree one node after another. With
parallel siblings the children of a node converge in any order, so a cycle
may end in more than one way.
-/

namespace Reconcile

variable {α : Type}

/-- What one cycle produced. -/
structure Cycle (α : Type) where
  document : Document
  ensureError : Option EnsureError
  rebuildFailures : List RebuildError
  tree : Tree α

/-- Why a cycle's result is not its document. -/
inductive CycleFailure where
  | ensure (e : EnsureError)
  | rebuild (e : RebuildError)
  deriving DecidableEq, Repr, Inhabited

namespace Cycle

/-- Whether nothing failed. -/
def isConverged (c : Cycle α) : Bool := c.ensureError.isNone && c.rebuildFailures.isEmpty

/-- The new document, or the first failure: convergence before rebuild. -/
def result (c : Cycle α) : Except CycleFailure Document :=
  match c.ensureError, c.rebuildFailures with
  | some e, _ => .error (.ensure e)
  | none, e :: _ => .error (.rebuild e)
  | none, [] => .ok c.document

end Cycle

/-- A reconciler: validated settings. -/
structure Reconciler where
  config : ReconcileConfig
  deriving DecidableEq, Repr, Inhabited

namespace Reconciler

/-- A reconciler, if the settings are valid. -/
def create (config : ReconcileConfig) : Except ConfigError Reconciler :=
  match config.validate with
  | .ok () => .ok ⟨config⟩
  | .error e => .error e

/-- A reconciler with settings read from a file, which validates them. -/
def load (store : FileStore) (path : String) : Except ConfigError Reconciler :=
  (ReconcileConfig.load store path).map fun c => ⟨c⟩

/-- The cycle of a converged tree and the failure its convergence answered:
the rebuild of the current document from it. -/
def finish (r : Reconciler) (current : Document) (tree : Tree α) (ensureError : Option EnsureError) : Cycle α :=
  let rebuilt := rebuild r.config.agentRecord current tree
  ⟨rebuilt.document, ensureError, rebuilt.failures, rebuilt.tree⟩

/-- Finishes a cycle from its built tree: converges it, then rebuilds the
current document from it. -/
def complete (r : Reconciler) (A : Adapter α) (expired : Bool) (tree : Tree α) (current : Document)
    (s : Session) : Cycle α × Session :=
  match ensure A expired tree s with
  | (tree, outcome, s) =>
    let ensureError := match outcome with
      | .error e => some e
      | .ok () => none
    (r.finish current tree ensureError, s)

/-- Runs one cycle; `expired` says whether the context's deadline has passed. -/
def run (r : Reconciler) (A : Adapter α) (expired : Bool) (root : α) (desired current : Document)
    (s : Session) : Except BuildError (Cycle α) × Session :=
  match build A root desired current r.config.agentQueueCapacity s with
  | (.error e, s) => (.error e, s)
  | (.ok tree, s) =>
    let (c, s) := r.complete A expired tree current s
    (.ok c, s)

end Reconciler

end Reconcile
