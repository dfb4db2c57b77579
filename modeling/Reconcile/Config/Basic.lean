import Reconcile.Agent.Queue
import Reconcile.Text.Unprintable

/-!
# Reconcile settings

Three settings govern a cycle: whether sibling subtrees converge in parallel,
how many agent changes one node may queue during a build, and the tags of the
agent records written into the current document. A capacity of zero and a
blank tag are refused by `validate`.

A settings document is decoded the way a typed reader with defaults does:
from a mapping by key (other keys ignored), or from a sequence by position.
-/

namespace Reconcile

/-- The settings of a reconciler. -/
structure ReconcileConfig where
  parallelSiblings : Bool := false
  agentQueueCapacity : Nat := 1000
  agentRecord : RecordTags := {}
  deriving DecidableEq, Repr, Inhabited

/-- Why settings cannot be read, written or used. -/
inductive ConfigError where
  | read (path osError : String)
  | parse (message : String)
  | write (path osError : String)
  | serialize (message : String)
  | invalid (message : String)
  deriving DecidableEq, Repr, Inhabited

namespace ConfigError

/-- The message of a settings error. -/
def message : ConfigError → String
  | .read path _ => "failed to read reconcile config: " ++ path
  | .parse m => "failed to parse reconcile config: " ++ m
  | .write path _ => "failed to write reconcile config: " ++ path
  | .serialize m => "failed to serialize reconcile config: " ++ m
  | .invalid m => "invalid reconcile config: " ++ m

/-- How a settings error presents itself. -/
def diagnostic : ConfigError → Diagnostic
  | e@(.read _ os) =>
    { kind := "ConfigError::Read", code := "orbiter::config::read", message := e.message
      help := some "Ensure the config file exists and is readable.", sources := [os] }
  | e@(.parse _) =>
    { kind := "ConfigError::Parse", code := "orbiter::config::parse", message := e.message
      help := some "Check the TOML syntax and the key names of the reconcile config.", sources := [] }
  | e@(.write _ os) =>
    { kind := "ConfigError::Write", code := "orbiter::config::write", message := e.message
      help := some "Ensure you have write permissions to the config directory.", sources := [os] }
  | e@(.serialize _) =>
    { kind := "ConfigError::Serialize", code := "orbiter::config::serialize", message := e.message
      help := none, sources := [] }
  | e@(.invalid _) =>
    { kind := "ConfigError::Invalid", code := "orbiter::config::invalid", message := e.message
      help := some ("`agent_queue_capacity` must be greater than zero and the agent record " ++
        "`kind` and `version` must not be empty.")
      sources := [] }

end ConfigError

namespace ReconcileConfig

/-- Refuses a zero capacity and blank record tags. -/
def validate (c : ReconcileConfig) : Except ConfigError Unit :=
  if c.agentQueueCapacity = 0 then .error (.invalid "agent_queue_capacity must be greater than zero")
  else if Text.isBlankText c.agentRecord.kind || Text.isBlankText c.agentRecord.version then
    .error (.invalid "agent record kind and version must not be empty")
  else .ok ()

/-- The settings as a document. -/
def toDocument (c : ReconcileConfig) : Document :=
  .object [("agent_queue_capacity", .nat c.agentQueueCapacity),
    ("agent_record", .object [("kind", .string c.agentRecord.kind), ("version", .string c.agentRecord.version)]),
    ("parallel_siblings", .bool c.parallelSiblings)]

/-- The type name decoding errors give for settings. -/
def typeName : String := "orbiter::config::ReconcileConfig"

/-- Decodes a boolean setting. -/
def decodeBool : Document → Except String Bool
  | .bool b => .ok b
  | other => .error (DecodeReason.invalidType (Unexpected.ofDocument other).describe "a boolean")

/-- Decodes a count that fits 64 bits unsigned. -/
def decodeCount : Document → Except String Nat
  | .number (.int i) =>
    if i < 0 then .error (DecodeReason.invalidValue (Unexpected.int i).describe "usize") else .ok i.toNat
  | other => .error (DecodeReason.invalidType (Unexpected.ofDocument other).describe "usize")

/-- Decodes a string field of the record tags. -/
def decodeText : Document → Except String String
  | .string s => .ok s
  | other => .error (DecodeReason.invalidType (Unexpected.ofDocument other).describe "a string")

/-- Decodes record tags, both fields required. -/
def decodeTags : Document → Except String RecordTags
  | .object fields => do
    let kind ← match Keyed.get? "kind" fields with
      | some v => (decodeText v).map some
      | none => .ok none
    let version ← match Keyed.get? "version" fields with
      | some v => (decodeText v).map some
      | none => .ok none
    match kind, version with
    | some k, some v => .ok ⟨k, v⟩
    | none, _ => .error (DecodeReason.missingField "kind")
    | _, none => .error (DecodeReason.missingField "version")
  | .array items => do
    let kind ← match items[0]? with
      | some v => decodeText v
      | none => .error (DecodeReason.invalidLength 0 "struct AgentRecordTags with 2 elements")
    let version ← match items[1]? with
      | some v => decodeText v
      | none => .error (DecodeReason.invalidLength 1 "struct AgentRecordTags with 2 elements")
    if items.length > 2 then .error (DecodeReason.invalidLength items.length "fewer elements in array")
    else .ok ⟨kind, version⟩
  | other => .error (DecodeReason.invalidType (Unexpected.ofDocument other).describe "struct AgentRecordTags")

/-- Decodes settings from a document; missing settings take their defaults. -/
def decodeReason : Document → Except String ReconcileConfig
  | .object fields => do
    -- keys are visited in increasing order, as the mapping holds them
    let capacity ← match Keyed.get? "agent_queue_capacity" fields with
      | some v => decodeCount v
      | none => .ok 1000
    let tags ← match Keyed.get? "agent_record" fields with
      | some v => decodeTags v
      | none => .ok {}
    let parallel ← match Keyed.get? "parallel_siblings" fields with
      | some v => decodeBool v
      | none => .ok false
    .ok ⟨parallel, capacity, tags⟩
  | .array items => do
    let parallel ← match items[0]? with
      | some v => decodeBool v
      | none => .ok false
    let capacity ← match items[1]? with
      | some v => decodeCount v
      | none => .ok 1000
    let tags ← match items[2]? with
      | some v => decodeTags v
      | none => .ok {}
    if items.length > 3 then .error (DecodeReason.invalidLength items.length "fewer elements in array")
    else .ok ⟨parallel, capacity, tags⟩
  | other => .error (DecodeReason.invalidType (Unexpected.ofDocument other).describe "struct ReconcileConfig")

/-- Decodes settings from a document. -/
def decode (doc : Document) : Except DocumentError ReconcileConfig :=
  (decodeReason doc).mapError (DocumentError.decode typeName)

end ReconcileConfig

end Reconcile
