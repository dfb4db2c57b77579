import Reconcile.Script.Basic
import Reconcile.Tree.Basic
import Reconcile.Document.Header

/-!
# The scripted adapter

Each step of a scripted node is the one its document writes down. Building logs
`build:<name>`, the node's desired document and what its parent handed down;
then it writes its secret, refuses if told to, reads its header if told to,
and declares its agents in order. Converging logs the ids of the converged
children, then cancels, reads its secret, fails, or reports its state.
-/

namespace Reconcile

namespace Script

/-- The identity of a node of a type that names none of its own. -/
def plainIdentity : String := "orbiter_oracle_driver::Plain"

/-- A value with a mapping keyed by pairs, which has no document form. -/
def pairKeyed : Payload := .unencodable "BadState(\x7b(1, 2): 3\x7d)" "key must be a string"

/-- The name a node reports. -/
def identity (s : Script) : String := if s.plain then plainIdentity else s.name

/-- Where a node sits below its parent, logged when the node debugs. -/
def placement (s : Script) (session : Session) : Placement × Session :=
  let session :=
    if s.debug then
      session.note ("debug_context:" ++ s.name ++ ":BuildContext \x7b path: " ++ Inspect.quoteList s.path ++
        ", rewrite: " ++ toString s.rewrite.isSome ++ " \x7d")
    else session
  (⟨s.path, s.rewrite⟩, session)

/-- Declares one agent; a failure is logged and skipped when `ignore` holds. -/
def declareAgent (s : Script) (agents : AgentAccessor) (ignore : Bool) (a : AgentScript)
    (session : Session) (q : AgentQueue) : Except Fault Unit × Session × AgentQueue :=
  let refused (e : AgentError) (session : Session) (q : AgentQueue) :=
    if ignore || a.ignoreErrors then
      (.ok (), session.note ("agent_error:" ++ s.name ++ ":" ++ e.diagnostic.kind ++ ":" ++ e.message), q)
    else (.error (Fault.ofDiagnostic e.diagnostic), session, q)
  match agents.agent a.path with
  | .error e => refused e session q
  | .ok h =>
    let session := session.note ("agent:" ++ s.name ++ ":" ++ "/".intercalate h.path ++ ":" ++ h.observed.json)
    let spec := if a.badSpec then pairKeyed else .document a.spec
    match h.declare spec q with
    | (q, .error e) => refused e session q
    | (q, .ok ()) => (.ok (), session, q)

/-- Declares the node's agents in order, stopping at the first failure that is
not skipped. -/
def declareAgents (s : Script) (agents : AgentAccessor) (ignore : Bool) :
    List AgentScript → Session → AgentQueue → Except Fault Unit × Session × AgentQueue
  | [], session, q => (.ok (), session, q)
  | a :: rest, session, q =>
    match declareAgent s agents ignore a session q with
    | (.ok (), session, q) => declareAgents s agents ignore rest session q
    | failed => failed

/-- The built value's rendering in a debug line. -/
def builtLine (s : Script) (kind version : String) : String :=
  "debug_built:" ++ s.name ++ ":Built \x7b kind: " ++ Inspect.quote kind ++ ", version: " ++
    Inspect.quote version ++ ", config: " ++ toString s.handDown.isSome ++ ", children: " ++
    Inspect.quoteList (Keyed.keys (Keyed.ofList (s.children.map fun c => (c.id, ())))) ++ " \x7d"

/-- The children a node builds, each smaller than the node. -/
def builtChildren (s : Script) : List (String × { c : Script // c.weight < s.weight }) :=
  s.children.attach.map fun ⟨c, h⟩ => (c.id, ⟨c, weight_lt_of_mem_children h⟩)

/-- Builds a node by its script. -/
def build (s : Script) (input : BuildInput) (session : Session) (q : AgentQueue) :
    Except Fault (Built { c : Script // c.weight < s.weight }) × Session × AgentQueue :=
  let session := session.note ("build:" ++ s.name)
  let session := session.note ("desired:" ++ s.name ++ ":" ++ input.desired.json)
  let session := match input.handedDown with
    | some v => session.note ("config:" ++ s.name ++ ":" ++ v.json)
    | none => session
  let written : Except Fault Session := match s.writeSecret with
    | some key =>
      match session.secrets.write key s.secretValue with
      | .ok store => .ok { session with secrets := store }
      | .error e => .error (Fault.ofDiagnostic e.diagnostic)
    | none => .ok session
  match written with
  | .error f => (.error f, session, q)
  | .ok session =>
    match s.failBuild with
    | some message =>
      -- agents declared on the way to a failure leave no lines in the log
      let q := if s.agentsBeforeFail then (declareAgents s input.agents true s.agents session q).2.2 else q
      (.error (Fault.ofMessage message), session, q)
    | none =>
      let header : Except Fault Unit :=
        if s.decodeHeader then
          match Header.decode input.desired with
          | .error e => .error (Fault.ofDiagnostic e.diagnostic)
          | .ok _ => .ok ()
        else .ok ()
      match header with
      | .error f => (.error f, session, q)
      | .ok () =>
        match declareAgents s input.agents false s.agents session q with
        | (.error f, session, q) => (.error f, session, q)
        | (.ok (), session, q) =>
          let tags := if s.kindFromDesired then Header.of input.desired else ⟨s.kind, s.version⟩
          let session := if s.debug then session.note (builtLine s tags.kind tags.version) else session
          (.ok { kind := tags.kind, version := tags.version, handDown := s.handDown,
                 children := builtChildren s }, session, q)

/-- The state a node reports: its scripted state, with its children's states
and the length of the secret it read added to an object. -/
def report (s : Script) (children : List (String × Payload)) (secretLength : Option Nat) : Document :=
  match s.state with
  | .object fields =>
    let fields :=
      if s.reportChildren then
        Keyed.insert "children" (.object (children.map fun c => (c.1, c.2.asDocument?.getD .null))) fields
      else fields
    let fields := match secretLength with
      | some n => Keyed.insert "secret_len" (Document.nat n) fields
      | none => fields
    .object fields
  | other => other

/-- Converges a node by its script. -/
def ensure (s : Script) (children : List (String × Payload)) (session : Session) :
    Except EnsureFailure Payload × Session :=
  let session := session.note ("ensure:" ++ s.name ++ ":[" ++ ",".intercalate (children.map Prod.fst) ++ "]")
  let session := if s.cancel then { session with cancelled := true } else session
  let read : Except EnsureFailure (Option Nat) := match s.readSecret with
    | some key =>
      match session.secrets.read key with
      | .ok value => .ok (some value.length)
      | .error e => .error { fault := Fault.ofDiagnostic e.diagnostic }
    | none => .ok none
  match read with
  | .error f => (.error f, session)
  | .ok secretLength =>
    match s.fail with
    | some message => (.error { leftover := s.leftover.map .document, fault := Fault.ofMessage message }, session)
    | none =>
      if s.badState then (.ok pairKeyed, session)
      else (.ok (.document (report s children secretLength)), session)

end Script

/-- Scripted nodes as an adapter: a child's rank is its weight, which is below
its parent's. -/
def Script.adapter : Adapter Script where
  identity := Script.identity
  rank := Script.weight
  placement := Script.placement
  build := Script.build
  ensure := Script.ensure

end Reconcile
