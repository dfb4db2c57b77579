import Reconcile.Tree.Error

/-!
# Converging a tree

Convergence runs bottom-up. A node first forgets its state, then converges
all of its children in id order. If some child failed, the node stops with the
first failure in id order and its adapter is not asked; a failing child never
stops its siblings. Otherwise a cancelled context stops the node; otherwise
its adapter converges it, given the states of its children, and the node
keeps the state it reports, or on failure whatever partial state comes with
the failure.
-/

namespace Reconcile

variable {α : Type}

mutual
/-- Converges a subtree; `expired` says whether the context's deadline has
passed. Answers the tree with its new states and the first failure. -/
def converge (A : Adapter α) (expired : Bool) : Tree α → Session → Tree α × Option EnsureError × Session
  | ⟨path, relative, identity, a, kind, version, _, queue, children⟩, s =>
    match convergeAll A expired children s with
    | (children, failure, s) =>
      let cleared : Tree α := ⟨path, relative, identity, a, kind, version, none, queue, children⟩
      match failure with
      | some e => (cleared, some e, s)
      | none =>
        if s.cancelled || expired then (cleared, some (.cancelled identity (Path.format path)), s)
        else
          let states := children.filterMap fun entry => entry.2.state.map fun st => (entry.1, st)
          match A.ensure a states s with
          | (.ok st, s) => ({ cleared with state := some st }, none, s)
          | (.error f, s) =>
            ({ cleared with state := f.leftover }, some (.adapter identity (Path.format path) f.fault), s)
/-- Converges sibling subtrees in order, answering the first failure. -/
def convergeAll (A : Adapter α) (expired : Bool) :
    List (String × Tree α) → Session → List (String × Tree α) × Option EnsureError × Session
  | [], s => ([], none, s)
  | (id, c) :: rest, s =>
    match converge A expired c s with
    | (c, first, s) =>
      match convergeAll A expired rest s with
      | (rest, later, s) => ((id, c) :: rest, first.orElse fun _ => later, s)
end

/-- Converges the whole tree. -/
def ensure (A : Adapter α) (expired : Bool) (t : Tree α) (s : Session) :
    Tree α × Except EnsureError Unit × Session :=
  match converge A expired t s with
  | (t, none, s) => (t, .ok (), s)
  | (t, some e, s) => (t, .error e, s)

end Reconcile
