import Reconcile.Tree.Error

/-!
# Rebuilding the current document

The results of a converged tree fold into a new current document, children
before parents, siblings in id order. Every node's agent queue is drained on
the way.

A node holding a state gets its entry at its path written afresh: `kind`,
`version`, and `current` made of its tags and its state's entries, the entries
its children just wrote (taken out of the document by the first segment of
their relative path) and the records of its queued agents. Other keys of the
entry stay. A state must encode to a mapping or null.

A node without a state keeps its previous entry, but its agents' records are
still written, one at a time, each at its own path.

A node whose write fails is reported and the fold goes on; entries it had
already taken out of the document stay taken.
-/

namespace Reconcile

variable {α : Type}

namespace Rebuild

/-- The `current` section of a node: its tags and its state entries. -/
def currentSection (kind version : String) (entries : Mapping) : Document :=
  .object [("kind", .string kind), ("state", .object entries), ("version", .string version)]

/-- Takes `current.state.<segment>` out of a node document. -/
def removeStateEntry (segment : String) : Document → Option Document × Document
  | .object fields =>
    match Keyed.get? "current" fields with
    | some (.object cur) =>
      match Keyed.get? "state" cur with
      | some (.object st) =>
        match Keyed.get? segment st with
        | some entry =>
          (some entry, .object (Keyed.insert "current"
            (.object (Keyed.insert "state" (.object (Keyed.erase segment st)) cur)) fields))
        | none => (none, .object fields)
      | _ => (none, .object fields)
    | _ => (none, .object fields)
  | other => (none, other)

/-- Takes the entry `segment` out of the state of the node at `path`; a
missing node has none. -/
def takeEntry (out : Document) (path : List String) (segment : String) :
    Except NavigateError (Option Document × Document) :=
  match out.modifyAt path .current (fun node => .ok (removeStateEntry segment node)) with
  | .ok r => .ok r
  | .error (.pathNotFound _ _) => .ok (none, out)
  | .error e => .error e

/-- The path of an agent change below its node; it must lie strictly below. -/
def agentRelative (t : Tree α) (change : AgentChange) : Except RebuildError (List String) :=
  if t.path.isPrefixOf change.path && t.path.length < change.path.length then
    .ok (change.path.drop t.path.length)
  else .error (.agentPath t.identity (Path.format t.path) (Path.format change.path))

/-- Writes one agent record straight into the document. -/
def writeAgentRecord (t : Tree α) (tags : RecordTags) (out : Document) (change : AgentChange) :
    Except RebuildError Document :=
  match agentRelative t change with
  | .error e => .error e
  | .ok _ =>
    match out.materialize change.path .current (fun _ => tags.record change.spec change.observed) with
    | .ok (_, out) => .ok out
    | .error e => .error (.navigation t.identity (Path.format change.path) e)

/-- Writes agent records below a node into its fresh state entries, in queue
order. -/
def applyAgentChanges (t : Tree α) (tags : RecordTags) (entries : Mapping) (changes : List AgentChange) :
    Except RebuildError Mapping :=
  let scratch : Document := .object [("current", currentSection t.kind t.version entries)]
  let written : Except RebuildError Document := changes.foldlM (fun scratch change =>
    match agentRelative t change with
    | .error e => .error e
    | .ok relative =>
      match scratch.materialize relative .current (fun _ => tags.record change.spec change.observed) with
      | .ok (_, d) => .ok d
      | .error e => .error (.navigation t.identity (Path.format change.path) e)) scratch
  written.map fun scratch =>
    match (scratch.get? "current").bind (Document.get? "state") with
    | some (.object st) => st
    | _ => []

/-- The entries of a state document: a mapping's, none for null. -/
def stateEntries (t : Tree α) (doc : Document) : Except RebuildError Mapping :=
  match doc with
  | .object m => .ok m
  | .null => .ok []
  | other => .error (.stateShape t.identity (Path.format t.path) other.shapeName)

/-- Moves the entries the children wrote into the node's state entries. -/
def takeChildren (t : Tree α) (entries : Mapping) (out : Document) : Except RebuildError Mapping × Document :=
  t.children.foldl (fun acc child =>
    match acc with
    | (.error e, out) => (.error e, out)
    | (.ok entries, out) =>
      match child.2.relative.head? with
      | none => (.ok entries, out)
      | some seg =>
        match takeEntry out t.path seg with
        | .ok (some entry, out') => (.ok (Keyed.insert seg entry entries), out')
        | .ok (none, out') => (.ok entries, out')
        | .error e => (.error (.navigation t.identity (Path.format t.path) e), out)) (.ok entries, out)

/-- Writes a node holding a state. Answers the new document and the failure,
if any; a failure keeps what was already taken out. -/
def writeNode (t : Tree α) (tags : RecordTags) (changes : List AgentChange) (out : Document) :
    Document × Option RebuildError :=
  match t.state with
  | none => (out, none)
  | some st =>
    match st.encode with
    | .error e => (out, some (.serialize t.identity (Path.format t.path) e))
    | .ok doc =>
      match stateEntries t doc with
      | .error e => (out, some e)
      | .ok entries =>
        match takeChildren t entries out with
        | (.error e, out) => (out, some e)
        | (.ok entries, out) =>
          let withAgents := if changes.isEmpty then .ok entries else applyAgentChanges t tags entries changes
          match withAgents with
          | .error e => (out, some e)
          | .ok entries =>
            let write (m : Mapping) : Mapping :=
              Keyed.insert "current" (currentSection t.kind t.version entries)
                (Keyed.insert "version" (.string t.version) (Keyed.insert "kind" (.string t.kind) m))
            match out.materialize t.path .current write with
            | .ok (_, out') => (out', none)
            | .error e => (out, some (.navigation t.identity (Path.format t.path) e))

/-- Writes the agent records of a node without a state, one at a time. -/
def writeRecords (t : Tree α) (tags : RecordTags) (changes : List AgentChange) (out : Document) :
    Document × List RebuildError :=
  changes.foldl (fun acc change =>
    match writeAgentRecord t tags acc.1 change with
    | .ok out' => (out', acc.2)
    | .error e => (acc.1, acc.2 ++ [e])) (out, [])

mutual
/-- Folds a subtree into the document, answering the tree with drained queues
and the failures in fold order. -/
def fold (tags : RecordTags) : Tree α → Document → Tree α × Document × List RebuildError
  | ⟨path, relative, identity, a, kind, version, state, queue, children⟩, out =>
    match foldAll tags children out with
    | (children, out, failures) =>
      let (changes, queue) := queue.drain
      let t : Tree α := ⟨path, relative, identity, a, kind, version, state, queue, children⟩
      match state with
      | none =>
        let (out, more) := writeRecords t tags changes out
        (t, out, failures ++ more)
      | some _ =>
        let (out, failure) := writeNode t tags changes out
        (t, out, failures ++ failure.toList)
/-- Folds sibling subtrees in order. -/
def foldAll (tags : RecordTags) : List (String × Tree α) → Document →
    List (String × Tree α) × Document × List RebuildError
  | [], out => ([], out, [])
  | (id, c) :: rest, out =>
    match fold tags c out with
    | (c, out, first) =>
      match foldAll tags rest out with
      | (rest, out, later) => ((id, c) :: rest, out, first ++ later)
end

end Rebuild

/-- The outcome of a rebuild. -/
structure Rebuilt (α : Type) where
  document : Document
  failures : List RebuildError
  /-- The tree, every queue drained and closed. -/
  tree : Tree α

/-- Whether every node was written. -/
def Rebuilt.isClean (r : Rebuilt α) : Bool := r.failures.isEmpty

/-- Folds a tree's results into the next current document. -/
def rebuild (tags : RecordTags) (current : Document) (t : Tree α) : Rebuilt α :=
  match Rebuild.fold tags t current with
  | (t, doc, failures) => ⟨doc, failures, t⟩

end Reconcile
