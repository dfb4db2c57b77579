import Reconcile.Request.Basic
import Reconcile.Document.Header
import Reconcile.Agent.Queue
import Reconcile.Yaml.Load
import Reconcile.Yaml.Emitter

/-!
# Answering document requests

`navigate` runs one of the four ways of following a path through a document,
`format_path` prints a path, `header` reads a node document's header in both
ways, and `record` builds an agent record. `yaml_parse` reads the document in
`text`; `yaml_dump` writes `doc` as YAML and reads the text back.
-/

namespace Reconcile.Request

/-- The mode a request names; desired when it names none by a string. -/
def modeField (req : Document) : Except Document Mode :=
  match field req "mode" with
  | .string "desired" => .ok .desired
  | .string "current" => .ok .current
  | .string other => refuse ("unknown mode " ++ other)
  | _ => .ok .desired

/-- Answers a `navigate` request. -/
def navigate (verbose : Bool) (req : Document) : Answer := do
  let path ← pathField req
  let mode ← modeField req
  let doc := field req "doc"
  let failed (e : NavigateError) : Answer := .error (errorObject verbose e.diagnostic)
  -- a way named by no string is the plain one
  let way := match field req "fn" with
    | .string w => w
    | _ => "navigate"
  match way with
  | "navigate" =>
    match doc.navigate path mode with
    | .ok v => .ok v
    | .error e => failed e
  | "lookup" =>
    match doc.lookup path mode with
    | .ok (some v) => .ok (.object [("found", .bool true), ("value", v)])
    | .ok none => .ok (.object [("found", .bool false), ("value", .null)])
    | .error e => failed e
  | "navigate_mut" =>
    let result := if has req "set" then doc.replaceAt path mode (field req "set")
      else doc.modifyAt path mode fun v => .ok (v, v)
    match result with
    | .ok (found, after) => .ok (.object [("document", after), ("found", found)])
    | .error e => failed e
  | "materialize" =>
    -- only an object has entries to insert
    let entries := match field req "insert" with
      | .object fs => fs
      | _ => []
    let add (m : Mapping) : Mapping := entries.foldl (fun acc e => Keyed.insert e.1 e.2 acc) m
    match doc.materialize path mode add with
    | .ok (m, after) => .ok (.object [("document", after), ("mapping", .object m)])
    | .error e => failed e
  | other => refuse ("unknown fn " ++ other)

/-- Answers a `format_path` request. -/
def formatPath (req : Document) : Answer := do
  let path ← pathField req
  .ok (.object [("formatted", .string (Path.format path)), ("owned", stringList path)])

/-- Answers a `header` request. -/
def header (verbose : Bool) (req : Document) : Answer := do
  let doc := field req "doc"
  let h := Header.of doc
  let decoded := match Header.decode doc with
    | .ok d => d.toDocument
    | .error e => errorObject verbose e.diagnostic
  let spec := match doc.specOf with
    | some m => Document.object m
    | none => .null
  let base : Mapping := [("decoded", decoded), ("kind", .string h.kind), ("shape", .string doc.shapeName),
    ("spec", spec), ("version", .string h.version)]
  if has req "expect" then
    let expect := field req "expect"
    let str (k : String) : String := ((expect.get? k).bind Document.asString?).getD ""
    let same := h == ⟨str "kind", str "version"⟩
    .ok (Document.ofEntries (("matches_expected", .bool same) :: base))
  else .ok (.object base)

/-- Answers a `record` request. -/
def record (req : Document) : Answer := do
  let kind := optString req "kind"
  let version := optString req "version"
  let tags : RecordTags := { kind := kind.getD ({} : RecordTags).kind, version := version.getD ({} : RecordTags).version }
  .ok (.object (tags.record (field req "spec") (field req "current")))

/-- The document a YAML text holds. -/
def yamlParse (verbose : Bool) (req : Document) : Answer :=
  match field req "text" with
  | .string text =>
    match Document.ofYaml text with
    | .ok d => .ok d
    | .error e => .error (errorObject verbose e.diagnostic)
  | _ => refuse "text must be a string"

/-- A document as YAML text, and what reading the text back gives. -/
def yamlDump (verbose : Bool) (req : Document) : Answer :=
  let text := (field req "doc").toYaml
  let reparsed := match Document.ofYaml text with
    | .ok d => d
    | .error e => errorObject verbose e.diagnostic
  .ok (.object [("reparsed", reparsed), ("text", .string text)])

end Reconcile.Request
