import Reconcile.Document.Error

/-!
# Document headers

Every node document carries a `kind` and a `version`; older documents spell
the version `apiVersion`. `Header.of` reads them leniently, `Header.decode`
strictly, the way a typed reader with defaults for both fields does.
-/

namespace Reconcile

/-- The kind and version of a node document. -/
structure Header where
  kind : String
  version : String
  deriving DecidableEq, Repr, Inhabited

namespace Header

/-- The type name decoding errors give for headers. -/
def typeName : String := "orbiter::document::DocumentHeader"

/-- The header read leniently: a missing or non-string value is empty, and
`version` is preferred to `apiVersion` whenever it is present. -/
def of (doc : Document) : Header :=
  let str (d : Option Document) : String := ((d.bind Document.asString?)).getD ""
  { kind := str (doc.get? "kind")
    version := match doc.get? "version" with
      | some v => str (some v)
      | none => str (doc.get? "apiVersion") }

/-- A string field, or the reason it is not one. -/
def decodeString (d : Document) : Except String String :=
  match d with
  | .string s => .ok s
  | other => .error (DecodeReason.invalidType (Unexpected.ofDocument other).describe "a string")

/-- Decodes mapping entries in order into a header: `kind`, and `version`
under either spelling, each at most once; other keys are ignored. -/
def decodeFields : Mapping → Option String → Option String → Except String Header
  | [], kind, version => .ok ⟨kind.getD "", version.getD ""⟩
  | (k, v) :: rest, kind, version =>
    if k = "kind" then
      if kind.isSome then .error (DecodeReason.duplicateField "kind")
      else match decodeString v with
        | .ok s => decodeFields rest (some s) version
        | .error e => .error e
    else if k = "version" ∨ k = "apiVersion" then
      if version.isSome then .error (DecodeReason.duplicateField "version")
      else match decodeString v with
        | .ok s => decodeFields rest kind (some s)
        | .error e => .error e
    else decodeFields rest kind version

/-- Decodes a header from a sequence of at most two strings, `kind` first. -/
def decodeItems (items : List Document) : Except String Header :=
  let field (d : Option Document) : Except String String :=
    match d with
    | some v => decodeString v
    | none => .ok ""
  match field items[0]?, field items[1]? with
  | .error e, _ => .error e
  | .ok _, .error e => .error e
  | .ok kind, .ok version =>
    if items.length > 2 then .error (DecodeReason.invalidLength items.length "fewer elements in array")
    else .ok ⟨kind, version⟩

/-- The header decoded strictly. -/
def decode (doc : Document) : Except DocumentError Header :=
  let result := match doc with
    | .object fields => decodeFields fields none none
    | .array items => decodeItems items
    | other => .error (DecodeReason.invalidType (Unexpected.ofDocument other).describe "struct DocumentHeader")
  result.mapError (DocumentError.decode typeName)

/-- The header as a document. -/
def toDocument (h : Header) : Document :=
  .object [("kind", .string h.kind), ("version", .string h.version)]

end Header

namespace Document

/-- The `spec` mapping of a node document, if it has one. -/
def specOf (doc : Document) : Option Mapping :=
  (doc.get? "spec").bind Document.asMapping?

end Document

end Reconcile
