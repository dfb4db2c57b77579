import Reconcile.Proofs.CycleAgain
import Reconcile.Proofs.ParallelConvergence

/-!
# How a cycle ends, in either mode

`Reconciler.run` converges the built tree one node after another. That is one
of the ways a cycle may end in either mode (`Reconciler.run_ends`): with
parallel siblings, the parallel pass that takes the nodes in the sequential
order is one of the passes (`Parallel.converge_run`). In sequential mode it is
the only way. With parallel siblings it gives the only cycle when no node's
convergence depends on the session or cancels the context
(`Reconciler.ends_eq_run`): every parallel pass then ends with the tree and
the failure of the sequential pass (`Parallel.parallel_run_agrees`).

So running a scripted cycle again on the document it produced gives the same
cycle in sequential mode, and with parallel siblings when no node cancels or
reads a secret (`Reconciler.ends_again`). Without the nesting of node paths a
cycle is no fixed point, in either mode (`nested_sibling_breaks_rerun`).
-/

namespace Reconcile

open Document Rebuild

variable {α : Type}

namespace Reconciler

theorem complete_eq_finish (r : Reconciler) (A : Adapter α) (expired : Bool) (tree : Tree α) (current : Document)
    (s : Session) :
    r.complete A expired tree current s =
      (r.finish current (converge A expired tree s).1 (converge A expired tree s).2.1,
        (converge A expired tree s).2.2) := by
  unfold complete ensure
  rcases converge A expired tree s with ⟨converged, _ | e, s'⟩ <;> rfl

/-- The sequential run is one of the ways a cycle may end, in either mode. -/
theorem run_ends (r : Reconciler) (A : Adapter α) (expired : Bool) (root : α) (desired current : Document)
    (s : Session) : r.Ends A expired root desired current s (r.run A expired root desired current s) := by
  rcases built : build A root desired current r.config.agentQueueCapacity s with ⟨_ | tree, s₁⟩
  · rw [run, built]
    exact .failed built
  · rw [run_of_build r expired built]
    cases mode : r.config.parallelSiblings with
    | false => exact .sequential built mode
    | true =>
      obtain ⟨T, pass, forgets, marked⟩ := Parallel.converge_run A expired tree s₁
      rw [complete_eq_finish, ← forgets]
      exact .parallel built mode pass marked

/-- A cycle whose build went through ends with the cycle of the sequential
run, in sequential mode, or when every node's adapter answers the same in
every session and keeps the cancel flag. -/
theorem ends_eq_run {r : Reconciler} {A : Adapter α} {expired : Bool} {root : α} {desired current : Document}
    {s s₁ : Session} {tree : Tree α}
    (built : build A root desired current r.config.agentQueueCapacity s = (.ok tree, s₁))
    (mode : r.config.parallelSiblings = false ∨ ∀ v ∈ tree.nodes, Parallel.Oblivious A v.adapter)
    {res : Except BuildError (Cycle α) × Session} (ends : r.Ends A expired root desired current s res) :
    res.1 = (r.run A expired root desired current s).1 := by
  rw [run_of_build r expired built]
  cases ends with
  | failed failed =>
    rw [built] at failed
    cases failed
  | sequential built' _ =>
    rw [built] at built'
    cases built'
    rfl
  | @parallel tree' s' s'' T failure built' parallel pass marked =>
    rw [built] at built'
    cases built'
    rcases mode with sequential | oblivious
    · rw [sequential] at parallel
      cases parallel
    · obtain ⟨forgets, failed⟩ := Parallel.parallel_run_agrees oblivious pass marked
      rw [Tree.ensure_fst] at forgets
      rw [Convergence.ensure_snd] at failed
      have same : failure = (converge A expired tree s₁).2.1 := by
        cases failure <;> cases answered : (converge A expired tree s₁).2.1 <;> simp_all
      rw [complete_eq_finish, forgets, same]

end Reconciler

/-! ## Two cycles run -/

/-- A scripted leaf `a` declaring an agent at `m`. -/
def agentLeaf : Script :=
  { name := "a", id := "a", path := ["a"], kind := "test/a", version := "v1",
    state := .object [("name", .string "a")], agents := [{ path := ["m"], spec := .object [("v", .nat 1)] }] }

/-- A scripted leaf `b` two segments down, at `b/c`. -/
def pathLeaf : Script :=
  { name := "b", id := "b", path := ["b", "c"], kind := "test/b", version := "v1",
    state := .object [("name", .string "b")] }

/-- A scripted root with the leaves `agentLeaf` and `pathLeaf`. -/
def agentBranches : Script :=
  { name := "root", id := "root", path := [], kind := "test/root", version := "v1",
    state := .object [("name", .string "root")], children := [agentLeaf, pathLeaf] }

/-- A desired document with a spec for both leaves. -/
def agentBranchesDesired : Document :=
  .object [("spec", .object [("a", .object []), ("b", .object [("spec", .object [("c", .object [])])])])]

/-- `agentLeaf` as built from an empty current document, its agent queued. -/
def builtAgentLeaf : Tree Script where
  path := ["a"]
  relative := ["a"]
  identity := "a"
  adapter := agentLeaf
  kind := "test/a"
  version := "v1"
  queue := { capacity := 1000, changes := [⟨["a", "m"], .object [("v", .nat 1)], .object []⟩] }

/-- `pathLeaf` as built. -/
def builtPathLeaf : Tree Script where
  path := ["b", "c"]
  relative := ["b", "c"]
  identity := "b"
  adapter := pathLeaf
  kind := "test/b"
  version := "v1"
  queue := AgentQueue.create 1000

/-- `agentBranches` as built from an empty current document. -/
def builtAgentBranches : Tree Script where
  path := []
  relative := []
  identity := "root"
  adapter := agentBranches
  kind := "test/root"
  version := "v1"
  queue := AgentQueue.create 1000
  children := [("a", builtAgentLeaf), ("b", builtPathLeaf)]

/-- A reconciler that converges siblings in parallel. -/
def inParallel : Reconciler := ⟨{ parallelSiblings := true }⟩

/-- Two scripted siblings whose paths nest: `x` at `a/b/c` and `m` at `a`,
whose state holds the number `5` under `b`, where the path of `x` goes on. -/
def nestedSiblings : Script :=
  { name := "root", id := "root", path := [], kind := "test/root", version := "v1",
    state := .object [("name", .string "root")],
    children := [
      { name := "x", id := "p", path := ["a", "b", "c"], kind := "test/x", version := "v1",
        state := .object [("name", .string "x")] },
      { name := "m", id := "q", path := ["a"], kind := "test/m", version := "v1",
        state := .object [("b", .nat 5)] }] }

/-- A desired document with a spec for both siblings. -/
def nestedDesired : Document :=
  .object [("spec", .object [("a", .object [("spec", .object [("b", .object [("spec",
    .object [("c", .object [])])])])])])]

end Reconcile
