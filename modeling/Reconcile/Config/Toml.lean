import Reconcile.Config.Basic
import Reconcile.Toml.Report
import Reconcile.Toml.Writer

/-!
# Settings as TOML

Settings are written as TOML: the two plain settings first, then the record
tags as the table `[agent_record]`. TOML integers are 64-bit signed, so a
capacity above 2^63 - 1 cannot be written.

Reading TOML settings decodes the document's root table by key, in the order
the keys were written; unknown keys are ignored and missing settings take
their defaults. A value of the wrong kind is reported at its span in the
source; a table missing a field at the table's span. Read settings are then
validated.
-/

namespace Reconcile

namespace Toml

/-- What a TOML value is, as a decoder reports it. -/
def Node.unexpected : Node → Unexpected
  | .string _ s => .str s
  | .integer _ n => .int n
  | .float _ b => .float b
  | .boolean _ b => .bool b
  | .datetime _ => .map
  | .array _ _ | .tables _ _ => .seq
  | .inlineTable _ _ | .table _ _ => .map

/-- A value that does not decode: why, and where it is. -/
structure Mismatch where
  reason : String
  span : Option Span
  deriving DecidableEq, Repr, Inhabited

/-- The text of a decoding failure, with the source line when it has a span. -/
def Mismatch.text (source : String) (m : Mismatch) : String :=
  match m.span with
  | some s => report source s m.reason
  | none => m.reason ++ "\n"

/-- A value of the wrong kind, reported at its span or else at its key's. -/
def wrongType (expected : String) (v : Node) (fallback : Option Span) : Mismatch :=
  ⟨DecodeReason.invalidType v.unexpected.describePlain expected, v.span?.orElse fun _ => fallback⟩

/-- Decodes a boolean. -/
def decodeBool (fallback : Option Span) : Node → Except Mismatch Bool
  | .boolean _ b => .ok b
  | v => .error (wrongType "a boolean" v fallback)

/-- Decodes a count. -/
def decodeCount (fallback : Option Span) : Node → Except Mismatch Nat
  | .integer s n =>
    if n < 0 then .error ⟨DecodeReason.invalidValue (Unexpected.int n).describePlain "usize", some s⟩
    else .ok n.toNat
  | v => .error (wrongType "usize" v fallback)

/-- Decodes a string. -/
def decodeText (fallback : Option Span) : Node → Except Mismatch String
  | .string _ s => .ok s
  | v => .error (wrongType "a string" v fallback)

/-- Decodes record tags from a table by key, or from an array by position. -/
def decodeTags (fallback : Option Span) : Node → Except Mismatch RecordTags
  | .table info es | .inlineTable info es => do
    let found ← es.foldlM (fun (acc : Option String × Option String) e =>
      if e.1.name = "kind" then (decodeText (some e.1.span) e.2).map fun k => (some k, acc.2)
      else if e.1.name = "version" then (decodeText (some e.1.span) e.2).map fun v => (acc.1, some v)
      else .ok acc) (none, none)
    let here := info.span.orElse fun _ => fallback
    match found with
    | (some k, some v) => .ok ⟨k, v⟩
    | (none, _) => .error ⟨DecodeReason.missingField "kind", here⟩
    | (_, none) => .error ⟨DecodeReason.missingField "version", here⟩
  | v@(.array _ items) | v@(.tables _ items) => do
    let here := v.span?.orElse fun _ => fallback
    let expected := "struct AgentRecordTags with 2 elements"
    let kind ← match items[0]? with
      | some item => decodeText here item
      | none => .error ⟨DecodeReason.invalidLength 0 expected, here⟩
    let version ← match items[1]? with
      | some item => decodeText here item
      | none => .error ⟨DecodeReason.invalidLength 1 expected, here⟩
    .ok ⟨kind, version⟩
  | v => .error (wrongType "struct AgentRecordTags" v fallback)

/-- Decodes settings from a document's root table. -/
def decodeConfig (root : Entries) : Except Mismatch ReconcileConfig :=
  root.foldlM (fun (c : ReconcileConfig) e =>
    let fallback := some e.1.span
    if e.1.name = "parallel_siblings" then (decodeBool fallback e.2).map fun b => { c with parallelSiblings := b }
    else if e.1.name = "agent_queue_capacity" then
      (decodeCount fallback e.2).map fun n => { c with agentQueueCapacity := n }
    else if e.1.name = "agent_record" then (decodeTags fallback e.2).map fun t => { c with agentRecord := t }
    else .ok c) {}

end Toml

namespace ReconcileConfig

/-- Reads settings from TOML text and validates them. -/
def ofToml (text : String) : Except ConfigError ReconcileConfig :=
  match Toml.read text with
  | .error e => .error (.parse (e.text text))
  | .ok root =>
    match Toml.decodeConfig root with
    | .error m => .error (.parse (m.text text))
    | .ok c =>
      match c.validate with
      | .ok () => .ok c
      | .error e => .error e

/-- Writes settings as TOML. -/
def toToml (c : ReconcileConfig) : Except ConfigError String :=
  if c.agentQueueCapacity > Toml.intMax.toNat then .error (.serialize "out-of-range value for u64 type")
  else .ok ("parallel_siblings = " ++ toString c.parallelSiblings ++ "\nagent_queue_capacity = " ++
    toString c.agentQueueCapacity ++ "\n\n[agent_record]\nkind = " ++ Toml.quote c.agentRecord.kind ++
    "\nversion = " ++ Toml.quote c.agentRecord.version ++ "\n")

end ReconcileConfig

end Reconcile
