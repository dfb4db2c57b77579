import Reconcile.Request.Run
import Reconcile.Cycle

/-!
# Running the engine on request

`cycle` runs one reconcile cycle over a scripted tree, `build` only builds
it, `phases` builds it and then runs convergence, rebuild, cancellation and
tree views in the order the request lists them, and `cycles` runs several
cycles, each on the document the previous one wrote.

The log lines are split at the end of the build: what building logged, and
what converging logged after it.
-/

namespace Reconcile.Request

/-- The object of a convergence failure, with its node and cause. -/
def ensureErrorObject (verbose : Bool) (e : EnsureError) : Document :=
  errorWith verbose e.diagnostic [("is_cancelled", .bool e.isCancelled), ("path", .string e.path)]

/-- The answer of a failed build: the error and what building logged. -/
def buildFailure (verbose : Bool) (e : BuildError) (log : List String) (extra : Mapping) : Document :=
  errorWith verbose e.diagnostic ([("build_log", stringList log)] ++ extra)

/-- Reads the settings of a cycle, which must also pass as a reconciler's. -/
def cycleConfigOf (verbose : Bool) (req : Document) : Except Document ReconcileConfig := do
  let c ← configOf verbose req
  match Reconciler.create c with
  | .ok r => .ok r.config
  | .error e => .error (errorObject verbose e.diagnostic)

/-- The answer of one cycle over a scripted tree. -/
def cycleAnswer (verbose : Bool) (req : Document) (input : RunInput) : Except Document Document := do
  let r ← match Reconciler.create input.config with
    | .ok r => .ok r
    | .error e => .error (errorObject verbose e.diagnostic)
  let start := input.session
  match build Script.adapter input.root input.desired input.current r.config.agentQueueCapacity start with
  | (.error e, s) => .error (buildFailure verbose e s.log [])
  | (.ok tree, built) =>
    let (c, s) := r.complete Script.adapter input.expired tree input.current built
    let result := match c.result with
      | .ok _ => .string "ok"
      | .error (.ensure e) => ensureErrorObject verbose e
      | .error (.rebuild e) => errorObject verbose e.diagnostic
    let extras ← treeExtras req c.tree
    .ok (Document.ofEntries ([
      ("build_log", stringList built.log),
      ("document", c.document),
      ("ensure_error", match c.ensureError with
        | some e => ensureErrorObject verbose e
        | none => .null),
      ("ensure_log", logLines r.config (s.log.drop built.log.length)),
      ("is_converged", .bool c.isConverged),
      ("rebuild_failures", .array (c.rebuildFailures.map fun e => errorObject verbose e.diagnostic)),
      ("result", result),
      ("secrets_len", Document.nat s.secrets.size),
      ("tree", treeView verbose c.tree)] ++ extras))

/-- Runs one cycle. -/
def cycle (verbose : Bool) (req : Document) : Answer := do
  let input ← runInput req (cycleConfigOf verbose) .cycle
  cycleAnswer verbose req input

/-- Only builds the tree. -/
def buildOnly (verbose : Bool) (req : Document) : Answer := do
  let input ← runInput req (configOf verbose) .build
  match build Script.adapter input.root input.desired input.current input.config.agentQueueCapacity input.session with
  | (.error e, s) => .error (buildFailure verbose e s.log [("secrets_len", Document.nat s.secrets.size)])
  | (.ok tree, s) =>
    let extras ← treeExtras req tree
    .ok (Document.ofEntries ([("build_log", stringList s.log), ("secrets_len", Document.nat s.secrets.size),
      ("tree", treeView verbose tree)] ++ extras))

/-- Where a sequence of phases stands. -/
structure PhaseState where
  tree : Tree Script
  session : Session
  /-- How many log lines the last convergence had seen. -/
  seen : Nat
  /-- The document the next rebuild starts from. -/
  document : Document

/-- Runs one phase and answers it. -/
def phase (verbose : Bool) (input : RunInput) (st : PhaseState) : Document → PhaseState × Document
  | .string "ensure" =>
    let (tree, outcome, s) := ensure Script.adapter input.expired st.tree st.session
    let error := match outcome with
      | .error e => ensureErrorObject verbose e
      | .ok () => .null
    ({ st with tree, session := s, seen := s.log.length },
      .object [("converged", Document.nat tree.converged), ("ensure_log", logLines input.config (s.log.drop st.seen)),
        ("error", error)])
  | .string "rebuild" =>
    let r := rebuild input.config.agentRecord st.document st.tree
    ({ st with tree := r.tree, document := r.document },
      .object [("document", r.document), ("failures", .array (r.failures.map fun e => errorObject verbose e.diagnostic)),
        ("is_clean", .bool r.isClean)])
  | .string "cancel" => ({ st with session := { st.session with cancelled := true } }, .string "ok")
  | .string "tree" => (st, treeView verbose st.tree)
  | other => (st, refusal ("unknown phase " ++ shown other))

/-- Runs phases in order, answering each. -/
def phasesFrom (verbose : Bool) (input : RunInput) : PhaseState → List Document → List Document
  | _, [] => []
  | st, step :: rest =>
    let (st, out) := phase verbose input st step
    out :: phasesFrom verbose input st rest

/-- Builds the tree, then runs the listed phases. -/
def phases (verbose : Bool) (req : Document) : Answer := do
  let input ← runInput req (configOf verbose) .phases
  let steps := items req "steps"
  match build Script.adapter input.root input.desired input.current input.config.agentQueueCapacity input.session with
  | (.error e, s) => .error (buildFailure verbose e s.log [])
  | (.ok tree, s) =>
    let first := Document.object [("build_log", stringList s.log), ("tree", treeView verbose tree)]
    .ok (.array (first :: phasesFrom verbose input ⟨tree, s, s.log.length, input.current⟩ steps))

/-- Sets the value at a path of raw keys: missing or non-mapping hops become
mappings, and the empty path replaces the whole document. -/
def setRaw (value : Document) : List String → Document → Document
  | [], _ => value
  | k :: rest, doc =>
    let fields := match doc with
      | .object fs => fs
      | _ => []
    .object (Keyed.insert k (setRaw value rest ((Keyed.get? k fields).getD .null)) fields)

/-- Reads the edits of a step's current document. -/
def editsOf (step : Document) : Except Document (List (List String × Document)) :=
  (items step "edit_current").mapM fun e => do
    let keys ← strings "keys" (field e "keys")
    .ok (keys, field e "value")

/-- Runs the cycles of a request in order; each step may replace the root and
the desired document, and starts from the document the last cycle wrote. A
step is read as a cycle request of its own, with the carried root, desired and
current documents, so a step that cannot run answers its error in its place. -/
def cyclesFrom (verbose : Bool) :
    List Document → Document → Document → Document → Except Document (List Document)
  | [], _, _, _ => .ok []
  | step :: rest, root, desired, current => do
    let root := (step.get? "root").getD root
    let desired := (step.get? "desired").getD desired
    let edits ← editsOf step
    let current := edits.foldl (fun doc e => setRaw e.2 e.1 doc) current
    let own := match step with
      | .object fs => fs
      | _ => []
    let stepReq := Document.object
      (Keyed.insert "root" root (Keyed.insert "desired" desired (Keyed.insert "current" current own)))
    let answer := do
      let input ← runInput stepReq (cycleConfigOf verbose) .cycle
      cycleAnswer verbose stepReq input
    let (out, current) := match answer with
      | .ok out => (out, (out.get? "document").getD current)
      | .error e => (e, current)
    let outs ← cyclesFrom verbose rest root desired current
    .ok (out :: outs)

/-- Runs several cycles. -/
def cycles (verbose : Bool) (req : Document) : Answer := do
  let outs ← cyclesFrom verbose (items req "steps") (field req "root") (field req "desired") (field req "current")
  .ok (.array outs)

end Reconcile.Request
