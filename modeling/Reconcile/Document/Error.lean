import Reconcile.Diagnostic
import Reconcile.Document.Inspect
import Reconcile.Document.Path

/-!
# Document errors

Errors of navigation, of converting values to and from documents, and of
reading YAML, each with its message, code and hint.

A decoding error names what it found (`Unexpected`) and what it expected.
The same found value is worded in two dialects: the one of errors raised while
decoding a document, which calls null `null` and writes floats in their
shortest text, and the plain one of other readers, which calls it `unit value`
and writes floats positionally with a decimal point.
-/

namespace Reconcile

/-- What a decoder found where it expected something else. -/
inductive Unexpected where
  | bool (value : Bool)
  | int (value : Int)
  | float (bits : UInt64)
  | str (value : String)
  | unit
  | seq
  | map
  deriving DecidableEq, Repr, Inhabited

namespace Unexpected

/-- What a document is, as a decoder reports it. -/
def ofDocument : Document → Unexpected
  | .null => .unit
  | .bool b => .bool b
  | .number (.int i) => .int i
  | .number (.float bits) => .float bits
  | .string s => .str s
  | .array _ => .seq
  | .object _ => .map

/-- A float written positionally, with a decimal point; infinities and NaN
by name. -/
def positional (bits : UInt64) : String :=
  let sign := if Binary64.negative bits then "-" else ""
  if !Binary64.isFinite bits then (if Binary64.fraction bits ≠ 0 then "NaN" else sign ++ "inf")
  else if Binary64.isZero bits then sign ++ "0.0"
  else
    let (c, p) := Shortest.ofBits bits
    let ds := Nat.toDigits 10 c
    let len : Int := ds.length
    if 0 ≤ p then sign ++ String.ofList ds ++ FloatText.zeros p.toNat ++ ".0"
    else if len + p > 0 then
      sign ++ String.ofList (ds.take (len + p).toNat) ++ "." ++ String.ofList (ds.drop (len + p).toNat)
    else sign ++ "0." ++ FloatText.zeros (-(len + p)).toNat ++ String.ofList ds

/-- The wording in errors raised while decoding a document. -/
def describe : Unexpected → String
  | .bool b => "boolean `" ++ toString b ++ "`"
  | .int i => "integer `" ++ toString i ++ "`"
  | .float bits => "floating point `" ++ FloatText.json.write bits ++ "`"
  | .str s => "string " ++ Inspect.quote s
  | .unit => "null"
  | .seq => "sequence"
  | .map => "map"

/-- The plain wording of other readers. -/
def describePlain : Unexpected → String
  | .float bits => "floating point `" ++ positional bits ++ "`"
  | .unit => "unit value"
  | other => describe other

end Unexpected

-- The reasons a decoder gives.
namespace DecodeReason

/-- A value of the wrong type. -/
def invalidType (found expected : String) : String :=
  "invalid type: " ++ found ++ ", expected " ++ expected

/-- A value of the right type out of the accepted range. -/
def invalidValue (found expected : String) : String :=
  "invalid value: " ++ found ++ ", expected " ++ expected

/-- A sequence of the wrong length. -/
def invalidLength (len : Nat) (expected : String) : String :=
  "invalid length " ++ toString len ++ ", expected " ++ expected

/-- A field given twice. -/
def duplicateField (name : String) : String := "duplicate field `" ++ name ++ "`"

/-- A required field not given. -/
def missingField (name : String) : String := "missing field `" ++ name ++ "`"

end DecodeReason

namespace NavigateError

/-- The message of a navigation error. -/
def message : NavigateError → String
  | .pathNotFound location key => "path not found: no \"" ++ key ++ "\" at " ++ location
  | .shapeMismatch location found =>
    "shape mismatch at " ++ location ++ ": expected a mapping, found " ++ found

/-- How a navigation error presents itself. -/
def diagnostic : NavigateError → Diagnostic
  | e@(.pathNotFound _ _) =>
    { kind := "NavigateError::PathNotFound"
      code := "orbiter::navigate::path_not_found"
      message := e.message
      help := some ("The document does not contain the nested section an assembler asked for. " ++
        "Desired documents nest children under `spec.<id>`, current documents under " ++
        "`current.state.<id>`. Check the assembler's path against the document.")
      sources := [] }
  | e@(.shapeMismatch _ _) =>
    { kind := "NavigateError::ShapeMismatch"
      code := "orbiter::navigate::shape_mismatch"
      message := e.message
      help := some ("Every hop of a resource path must be a string-keyed mapping. " ++
        "A scalar or sequence sits where a nested resource document was expected.")
      sources := [] }

end NavigateError

/-- Why a value cannot be turned into a document, a document into a value, or
text into a document. -/
inductive DocumentError where
  /-- A value with no document form, for the given reason. -/
  | encode (reason : String)
  /-- A document that does not fit the type named `target`. -/
  | decode (target reason : String)
  /-- YAML text that cannot be read, or a document that cannot be written as YAML. -/
  | yaml (reason : String)
  deriving DecidableEq, Repr, Inhabited

namespace DocumentError

/-- The message of a document error. -/
def message : DocumentError → String
  | .encode reason => "failed to convert value to a document: " ++ reason
  | .decode target reason => "failed to decode document into " ++ target ++ ": " ++ reason
  | .yaml reason => "YAML error: " ++ reason

/-- How a document error presents itself. -/
def diagnostic : DocumentError → Diagnostic
  | e@(.encode reason) =>
    { kind := "DocumentError::Encode", code := "orbiter::document::encode", message := e.message
      help := some ("The value could not be represented as a generic document. " ++
        "Maps must have string keys and floats must be finite.")
      sources := [reason] }
  | e@(.decode _ reason) =>
    { kind := "DocumentError::Decode", code := "orbiter::document::decode", message := e.message
      help := some ("The document does not match the shape of the requested type. " ++
        "Compare the desired spec with the adapter's configuration struct.")
      sources := [reason] }
  | e@(.yaml reason) =>
    { kind := "DocumentError::Yaml", code := "orbiter::document::yaml", message := e.message
      help := some "The YAML text is malformed or uses non-string mapping keys."
      sources := [reason] }

end DocumentError

/-- A value handed to the engine by an adapter, as a state or an agent spec:
a document, or a value with no document form, shown as `shown` and refused
for `reason`. -/
inductive Payload where
  | document (d : Document)
  | unencodable (shown reason : String)
  deriving DecidableEq, Repr, Inhabited

namespace Payload

/-- The document form of a payload. -/
def encode : Payload → Except DocumentError Document
  | .document d => .ok d
  | .unencodable _ reason => .error (.encode reason)

/-- The document a payload is, if it is one. -/
def asDocument? : Payload → Option Document
  | .document d => some d
  | .unencodable _ _ => none

/-- The structural rendering of a payload. -/
def inspect : Payload → String
  | .document d => d.inspect
  | .unencodable shown _ => shown

end Payload

end Reconcile
