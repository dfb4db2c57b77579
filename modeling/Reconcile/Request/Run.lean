import Reconcile.Script.Adapter
import Reconcile.Config.Toml

/-!
# The inputs and views of a run

A run of the engine reads a scripted root node, the desired and current
documents, the settings, the state of the cycle's context and the secrets
that seed the store. Its tree is answered as a list of nodes, parent first,
each with its tags, paths, children ids, state and queued agent changes.
For debug output a tree is rendered structurally (`Tree.inspect`): each node
as `AssemblerTree { .. }` with its formatted path, identity, tags, state, the
number of queued agent changes and its children by id.
-/

namespace Reconcile.Tree

variable {α : Type}

/-- The rendering of a node's state slot. -/
def inspectState : Option Payload → String
  | none => "None"
  | some p => "Some(CurrentState(" ++ p.inspect ++ "))"

mutual
/-- The structural rendering of a tree. -/
def inspect : Tree α → String
  | t@⟨path, _, identity, _, kind, version, state, _, cs⟩ =>
    "AssemblerTree \x7b path: " ++ Inspect.quote (Path.format path) ++ ", identity: " ++ Inspect.quote identity ++
      ", kind: " ++ Inspect.quote kind ++ ", version: " ++ Inspect.quote version ++
      ", current_state: " ++ inspectState state ++ ", agent_changes: " ++ toString t.pending ++
      ", children: " ++ String.ofList ['\x7b'] ++ inspectChildren cs ++ String.ofList ['\x7d'] ++ " \x7d"
/-- The children of a node, by id, separated by commas. -/
def inspectChildren : List (String × Tree α) → String
  | [] => ""
  | [(id, c)] => Inspect.quote id ++ ": " ++ inspect c
  | (id, c) :: cs => Inspect.quote id ++ ": " ++ inspect c ++ ", " ++ inspectChildren cs
end

end Reconcile.Tree

namespace Reconcile.Request

/-- What a run of the engine starts from. -/
structure RunInput where
  root : Script
  desired : Document
  current : Document
  config : ReconcileConfig
  /-- The context was cancelled before the run. -/
  cancelled : Bool
  /-- The context's deadline has passed. -/
  expired : Bool
  secrets : SecretStore

/-- Where the settings of a request come from. -/
inductive SettingsSource where
  | toml (text : String)
  | document (d : Document)
  | defaults
  deriving Repr, Inhabited

/-- Finds the settings of a request: TOML text under `config_toml`, a
document under `config`, or neither. A `config_toml` that is there must be
text, even null is not; a null `config` is no document. -/
def settingsSource (req : Document) : Except Document SettingsSource :=
  match req.get? "config_toml", req.get? "config" with
  | some (.string text), _ => .ok (.toml text)
  | some _, _ => refuse "config_toml must be a string"
  | none, some .null | none, none => .ok .defaults
  | none, some d => .ok (.document d)

/-- Reads settings from where they come: TOML text is read and validated, a
document decoded only, and no source gives the defaults. -/
def SettingsSource.read (verbose : Bool) : SettingsSource → Except Document ReconcileConfig
  | .toml text => (ReconcileConfig.ofToml text).mapError fun e => errorObject verbose e.diagnostic
  | .document d => (ReconcileConfig.decode d).mapError fun e => errorObject verbose e.diagnostic
  | .defaults => .ok {}

/-- Reads the settings of a request. -/
def configOf (verbose : Bool) (req : Document) : Except Document ReconcileConfig := do
  (← settingsSource req).read verbose

/-- Reads the state of the context: cancelled, then expired; a context that is
not named by a string is neither. -/
def contextOf : Document → Except Document (Bool × Bool)
  | .string "none" => .ok (false, false)
  | .string "cancelled" => .ok (true, false)
  | .string "expired" => .ok (false, true)
  | .string other => refuse ("unknown ctx " ++ other)
  | _ => .ok (false, false)

/-- The ways a request runs the engine. They read their inputs in different
orders, and not all of them have a context or honour a read-only store. -/
inductive RunKind where
  /-- A whole cycle: the settings, the context, the secrets, then the root. -/
  | cycle
  /-- A build alone: the settings, the root, then the secrets; no context. -/
  | build
  /-- A build followed by chosen phases: the settings, the context, the
  root, then the secrets, in a store that is never read-only. -/
  | phases
  deriving DecidableEq, Repr, Inhabited

/-- Reads the secret store of a run, read-only when the request asks and the
run honours it. -/
def storeOf (req : Document) (honourBackend : Bool) : Except Document SecretStore := do
  let entries ← secretEntries req "secrets"
  .ok { SecretStore.ofList entries with
        readOnly := honourBackend && field req "secrets_backend" = .string "read_only" }

/-- Reads the inputs of a run in the order its kind checks them. -/
def runInput (req : Document) (config : Document → Except Document ReconcileConfig) (kind : RunKind) :
    Except Document RunInput := do
  let config ← config req
  let (cancelled, expired) ← if kind = .build then .ok (false, false) else contextOf (field req "ctx")
  let (root, secrets) ← if kind = .cycle then do
      let secrets ← storeOf req true
      let root ← Script.ofDocument (field req "root")
      .ok (root, secrets)
    else do
      let root ← Script.ofDocument (field req "root")
      let secrets ← storeOf req (kind = .build)
      .ok (root, secrets)
  .ok { root, desired := field req "desired", current := field req "current", config, cancelled, expired, secrets }

/-- The session a run starts with. -/
def RunInput.session (input : RunInput) : Session :=
  { secrets := input.secrets, cancelled := input.cancelled }

/-- The view of a node's state slot. -/
def stateView (verbose : Bool) : Option Payload → Document
  | none => .object [("present", .bool false)]
  | some p =>
    match p.encode with
    | .ok d => .object [("present", .bool true), ("value", d)]
    | .error e => .object [("present", .bool true), ("value", errorObject verbose e.diagnostic)]

/-- The view of one node. -/
def nodeView {α : Type} (verbose : Bool) (t : Tree α) : Document :=
  .object [("children", stringList (t.children.map Prod.fst)), ("identity", .string t.identity),
    ("kind", .string t.kind), ("path", stringList t.path), ("pending_agent_changes", Document.nat t.pending),
    ("relative", stringList t.relative), ("state", stateView verbose t.state), ("version", .string t.version)]

/-- The view of a tree: its nodes parent first, their number, and how many
hold a state. -/
def treeView {α : Type} (verbose : Bool) (t : Tree α) : Document :=
  .object [("converged", Document.nat t.converged), ("node_count", Document.nat t.nodeCount),
    ("nodes", .array (t.listed.map (nodeView verbose)))]

/-- Log lines in the order the answer shows them: sorted when siblings run
in parallel, since their order is then not fixed. -/
def logLines (config : ReconcileConfig) (lines : List String) : Document :=
  stringList (if config.parallelSiblings then lines.mergeSort (fun a b => decide (a ≤ b)) else lines)

/-- The answer entries a request asks for about a finished tree: the
identities of chosen nodes and the tree's structural rendering. -/
def treeExtras (req : Document) (t : Tree Script) : Except Document Mapping := do
  let chosen ← match field req "descendants" with
    | .array items => do
      let paths ← items.mapM (strings "descendants")
      let found := paths.map fun
        | [id] => t.child id
        | ids => t.descendant ids
      .ok [("descendants", .array (found.map fun
        | some n => .string n.identity
        | none => .null))]
    | _ => .ok []
  let rendered := if flag req "tree_debug" then [("tree_debug", .string t.inspect)] else []
  .ok (chosen ++ rendered)

end Reconcile.Request
