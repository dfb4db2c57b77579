import Reconcile.Request.Run
import Reconcile.Cycle

/-!
# Settings requests

A `config` request reads settings and answers them with their TOML text,
their document, whether they are valid, and whether a reconciler accepts
them.

A `config_file` request runs actions on a fresh, empty store: writing text,
making directories, saving settings, and loading them back as settings or
as a reconciler. Every path must be relative and must not step up with
`..`; otherwise the whole request is refused, as it is when an action's
settings are given in a form that cannot be read. Actions are checked as
they run, so the first action that cannot run names the refusal. Each action
answers in turn, with errors in place; a failed write or directory says only
which action failed.
-/

namespace Reconcile.Request

/-- The answer entries that show settings. -/
def configEntries (verbose : Bool) (c : ReconcileConfig) : Mapping :=
  [("agent_queue_capacity", Document.nat c.agentQueueCapacity),
   ("agent_record", .object [("kind", .string c.agentRecord.kind), ("version", .string c.agentRecord.version)]),
   ("as_document", c.toDocument),
   ("parallel_siblings", .bool c.parallelSiblings),
   ("toml", match c.toToml with
     | .ok text => .string text
     | .error e => errorObject verbose e.diagnostic)]

/-- Reads settings and shows them. -/
def config (verbose : Bool) (req : Document) : Answer := do
  let c ← configOf verbose req
  .ok (Document.ofEntries (configEntries verbose c ++
    [("reconciler", match Reconciler.create c with
       | .ok r => .object [("capacity", Document.nat r.config.agentQueueCapacity)]
       | .error e => errorObject verbose e.diagnostic),
     ("valid", match c.validate with
       | .ok () => .bool true
       | .error e => errorObject verbose e.diagnostic)]))

/-- Whether a path stays inside the store: relative, and never stepping up. -/
def staysInside (path : String) : Bool :=
  !path.startsWith "/" && !(path.splitOn "/").any (· = "..")

/-- The path of an action; none given is the empty path. -/
def actionPath (action : Document) : String :=
  match field action "path" with
  | .string p => p
  | _ => ""

/-- Runs one action on the store at a path inside it; only settings that
cannot be read refuse the whole request. -/
def runFileAction (verbose : Bool) (store : FileStore) (path : String) (action : Document) :
    Except Document (Document × FileStore) :=
  let shownConfig := fun (c : ReconcileConfig) => Document.ofEntries (configEntries verbose c)
  match field action "do" with
  | .string "write_text" =>
    let text := match field action "text" with
      | .string t => t
      | _ => ""
    match store.write path text with
    | .ok s => .ok (.string "ok", s)
    | .error _ => .ok (refusal "write_text failed", store)
  | .string "mkdir" =>
    match store.makeDirectoriesAt path with
    | (s, .ok ()) => .ok (.string "ok", s)
    | (s, .error _) => .ok (refusal "mkdir failed", s)
  | .string "save" => do
    let source ← settingsSource action
    match source.read verbose with
    | .error e => .ok (e, store)
    | .ok c =>
      match c.save store path with
      | (s, .ok ()) => .ok (.object [("saved", .string ((s.read path).toOption.getD ""))], s)
      | (s, .error e) => .ok (errorObject verbose e.diagnostic, s)
  | .string "load" =>
    match ReconcileConfig.load store path with
    | .ok c => .ok (shownConfig c, store)
    | .error e => .ok (errorObject verbose e.diagnostic, store)
  | .string "reconciler_load" =>
    match Reconciler.load store path with
    | .ok r => .ok (shownConfig r.config, store)
    | .error e => .ok (errorObject verbose e.diagnostic, store)
  | other => .ok (refusal ("unknown config_file action " ++ shown other), store)

/-- Runs one action on the store; a path outside the store refuses the whole
request before the action runs. -/
def fileAction (verbose : Bool) (store : FileStore) (action : Document) :
    Except Document (Document × FileStore) :=
  let path := actionPath action
  if staysInside path then runFileAction verbose store path action
  else refuse "paths must be relative and stay inside the scratch directory"

/-- Runs actions in turn on one store. -/
def fileActions (verbose : Bool) : FileStore → List Document → Except Document (List Document)
  | _, [] => .ok []
  | store, a :: rest => do
    let (answer, store) ← fileAction verbose store a
    let answers ← fileActions verbose store rest
    .ok (answer :: answers)

/-- Runs a list of actions on a fresh store. -/
def configFile (verbose : Bool) (req : Document) : Answer :=
  (fileActions verbose {} (items req "actions")).map Document.array

end Reconcile.Request
