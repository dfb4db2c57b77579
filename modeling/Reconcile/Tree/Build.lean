import Reconcile.Tree.Error

/-!
# Building a tree

A tree is built top-down from the desired and current documents. The root
sits at the empty path and is built from the whole documents; every other
node declares its path relative to its parent, which must not be empty.

At each node, in order: the node's spec edit runs on the working copy of
the desired document (its node and spec must be mappings; a missing or null
spec becomes an empty one), the node's desired document is navigated to
strictly and its current document looked up leniently, the adapter builds
with a fresh agent queue, and a queue that overflowed fails the build whatever
the adapter answered. Children follow in id order, all reading and writing the
same working copy, so an edit is seen by every node built after it. The
first failure stops the whole build.
-/

namespace Reconcile

namespace Build

variable {α : Type}

/-- What the whole build reads from besides the working desired document. -/
structure Scope where
  current : Document
  capacity : Nat

/-- Changes the `spec` mapping of the desired node document at `path`. -/
def editSpec (f : Mapping → Mapping) (path : List String) :
    Document → Except NavigateError (Unit × Document)
  | .object fields =>
    match (Keyed.get? "spec" fields).getD .null with
    | .null => .ok ((), .object (Keyed.insert "spec" (.object (f [])) fields))
    | .object m => .ok ((), .object (Keyed.insert "spec" (.object (f m)) fields))
    | other => .error (.shapeMismatch (Path.format path ++ "/spec") other.shapeName)
  | other => .error (.shapeMismatch (Path.format path) other.shapeName)

/-- The message of a child placed at its parent's own path. -/
def emptyPlacement : String := "child assemblers must declare a non-empty path below their parent"

/-- Where a node goes: its relative path, its absolute path and its spec edit;
the root is asked nothing. -/
def place (A : Adapter α) (a : α) (parent : Option (List String × Option Document)) (s : Session) :
    Except BuildError (List String × List String × Option (Mapping → Mapping)) × Session :=
  match parent with
  | none => (.ok ([], [], none), s)
  | some (parentPath, _) =>
    let (p, s) := A.placement a s
    let path := parentPath ++ p.relative
    if p.relative.isEmpty then
      (.error (.adapter (A.identity a) (Path.format path) (Fault.ofMessage emptyPlacement)), s)
    else (.ok (p.relative, path, p.specEdit), s)

/-- The working desired document after a node's spec edit. -/
def applyEdit (working : Document) (path : List String) :
    Option (Mapping → Mapping) → Except NavigateError Document
  | none => .ok working
  | some f => (working.modifyAt path .desired (editSpec f path)).map Prod.snd

/-- Builds the subtree of node `a`, below `parent` (its path and what it hands
down) or as the root; threads the working desired document. -/
def node (A : Adapter α) (scope : Scope) (a : α) (parent : Option (List String × Option Document))
    (working : Document) (s : Session) : Except BuildError (Tree α × Document) × Session :=
  let identity := A.identity a
  match place A a parent s with
  | (.error e, s) => (.error e, s)
  | (.ok (relative, path, edit), s) =>
    let here := Path.format path
    match applyEdit working path edit with
    | .error e => (.error (.navigation identity here "desired" e), s)
    | .ok working =>
      match working.navigate path .desired with
      | .error e => (.error (.navigation identity here "desired" e), s)
      | .ok desired =>
        match scope.current.lookup path .current with
        | .error e => (.error (.navigation identity here "current" e), s)
        | .ok found =>
          let handedDown := match parent with
            | some (_, h) => h
            | none => none
          let input : BuildInput := ⟨desired, ⟨path, found.getD .null⟩, handedDown⟩
          match A.build a input s (AgentQueue.create scope.capacity) with
          | (result, s, queue) =>
            match queue.overflow with
            | some e => (.error (.agent identity here e), s)
            | none =>
              match result with
              | .error f => (.error (.adapter identity here f), s)
              | .ok built =>
                let start : Except BuildError (List (String × Tree α) × Document) × Session :=
                  (.ok ([], working), s)
                let step := fun (acc : Except BuildError (List (String × Tree α) × Document) × Session)
                    (entry : String × { c : α // A.rank c < A.rank a }) =>
                  match acc with
                  | (.error e, s) => (.error e, s)
                  | (.ok (done, w), s) =>
                    match node A scope entry.2.1 (some (path, built.handDown)) w s with
                    | (.ok (t, w'), s') => (.ok (done ++ [(entry.1, t)], w'), s')
                    | (.error e, s') => (.error e, s')
                match (Keyed.ofList built.children).foldl step start with
                | (.error e, s) => (.error e, s)
                | (.ok (children, w), s) =>
                  (.ok ({ path, relative, identity, adapter := a, kind := built.kind,
                          version := built.version, queue, children }, w), s)
termination_by A.rank a
decreasing_by exact entry.2.2

end Build

/-- Builds the tree rooted at `root` from the desired and current documents,
each node's agent queue holding at most `capacity` changes. -/
def build {α : Type} (A : Adapter α) (root : α) (desired current : Document) (capacity : Nat)
    (s : Session) : Except BuildError (Tree α) × Session :=
  match Build.node A ⟨current, capacity⟩ root none desired s with
  | (.ok (t, _), s) => (.ok t, s)
  | (.error e, s) => (.error e, s)

end Reconcile
