import Reconcile.Number.Binary64
import Reconcile.Toml.Writer

/-!
# TOML documents

A TOML document is a table of keys and values. Values are strings, 64-bit
integers, floats, booleans, date-times, arrays and inline tables; a table
also holds tables opened by headers and arrays of tables. Every value keeps
the byte span of its text, and every key its name and span, so that errors
can point into the source.

A table created on the way to a deeper one (by `[a.b]` or by the dotted key
`a.b = 1`) is implicit: a header may still open it later, unless a dotted
key created it.
-/

namespace Reconcile.Toml

/-- A range of byte offsets into the source. -/
structure Span where
  start : Nat
  stop : Nat
  deriving DecidableEq, Repr, Inhabited

/-- A key as read: its name and where it was written. -/
structure Key where
  name : String
  span : Span
  deriving DecidableEq, Repr, Inhabited

/-- How a table came to be. -/
structure TableInfo where
  span : Option Span := none
  /-- Created on the way to a deeper table. -/
  implicit : Bool := false
  /-- Created by a dotted key. -/
  dotted : Bool := false
  deriving DecidableEq, Repr, Inhabited

/-- A value of a TOML document. -/
inductive Node where
  | string (span : Span) (value : String)
  | integer (span : Span) (value : Int)
  | float (span : Span) (bits : UInt64)
  | boolean (span : Span) (value : Bool)
  | datetime (span : Span)
  | array (span : Span) (items : List Node)
  | inlineTable (info : TableInfo) (entries : List (Key × Node))
  | table (info : TableInfo) (entries : List (Key × Node))
  | tables (span : Option Span) (items : List Node)
  deriving Repr, Inhabited

/-- The entries of a table, in the order they were first written. -/
abbrev Entries := List (Key × Node)

namespace Node

/-- The span of a node's text, if it has one. -/
def span? : Node → Option Span
  | .string s _ | .integer s _ | .float s _ | .boolean s _ | .datetime s | .array s _ => some s
  | .inlineTable info _ | .table info _ => info.span
  | .tables s _ => s

/-- What a value is called when a dotted key cannot extend it. -/
def typeName : Node → String
  | .string _ _ => "string"
  | .integer _ _ => "integer"
  | .float _ _ => "float"
  | .boolean _ _ => "boolean"
  | .datetime _ => "datetime"
  | .array _ _ => "array"
  | .inlineTable _ _ => "inline table"
  | .table _ _ => "table"
  | .tables _ _ => "array of tables"

end Node

namespace Entries

/-- The value under a name. -/
def find? (es : Entries) (name : String) : Option Node :=
  (List.find? (fun e => e.1.name = name) es).map Prod.snd

/-- Sets the value under a key's name, in place if the name is there and at
the end otherwise. -/
def put (es : Entries) (key : Key) (node : Node) : Entries :=
  if es.any (fun e => e.1.name = key.name) then
    es.map fun e => if e.1.name = key.name then (e.1, node) else e
  else es ++ [(key, node)]

/-- Removes a name. -/
def remove (es : Entries) (name : String) : Entries := es.filter fun e => e.1.name ≠ name

end Entries

/-- Why a document's keys and tables do not fit together. -/
inductive Clash where
  /-- A key defined twice, with the table it was found in, if known. -/
  | duplicateKey (key : String) (table : Option (List String))
  /-- A dotted key runs into a value that is not a table. -/
  | extendWrongType (key : List String) (actual : String)
  | outOfRange
  deriving DecidableEq, Repr, Inhabited

namespace Clash

/-- The message of a clash. -/
def message : Clash → String
  | .duplicateKey key (some []) => "duplicate key `" ++ key ++ "` in document root"
  | .duplicateKey key (some table) => "duplicate key `" ++ key ++ "` in table `" ++ ".".intercalate table ++ "`"
  | .duplicateKey key none => "duplicate key `" ++ key ++ "`"
  | .extendWrongType key actual =>
    "dotted key `" ++ ".".intercalate key ++ "` attempted to extend non-table type (" ++ actual ++ ")"
  | .outOfRange => "value is out of range"

/-- A table header that names a table twice: the `i`-th key of `path`,
written as TOML would write it, in the table its predecessors name. -/
def duplicateAt (path : List Key) (i : Nat) : Clash :=
  .duplicateKey ((path[i]?.map (quoteKey ∘ Key.name)).getD "") (some ((path.take i).map Key.name))

end Clash

/-- A note a reader attaches to a failure: what it was reading, or what it
expected instead. -/
inductive Note where
  | reading (what : String)
  | expected (what : String)
  deriving DecidableEq, Repr, Inhabited

/-- A failure to read a document: where it happened, the notes gathered on
the way out, and the underlying cause. A committed failure stops every
alternative; one that is not lets an enclosing reader try another way. -/
structure Failure where
  pos : Nat
  notes : List Note := []
  cause : Option String := none
  committed : Bool := false
  deriving DecidableEq, Repr, Inhabited

namespace Failure

/-- Adds a note. -/
def note (f : Failure) (n : Note) : Failure := { f with notes := f.notes ++ [n] }

/-- Adds notes in order. -/
def addNotes (f : Failure) (ns : List Note) : Failure := { f with notes := f.notes ++ ns }

/-- Commits a failure. -/
def commit (f : Failure) : Failure := { f with committed := true }

/-- The message: the first thing being read, everything expected, and the
cause, on lines of their own. -/
def message (f : Failure) : String :=
  let reading := f.notes.findSome? fun
    | .reading w => some w
    | .expected _ => none
  let expected := f.notes.filterMap fun
    | .expected w => some w
    | .reading _ => none
  let lines := (reading.map ("invalid " ++ ·)).toList ++
    (if expected.isEmpty then [] else ["expected " ++ ", ".intercalate expected]) ++ f.cause.toList
  "\n".intercalate lines

end Failure

-- The wording of what a reader expected.
namespace Expect

/-- A newline. -/
def newline : Note := .expected "newline"

/-- A character. -/
def char (c : Char) : Note :=
  if c = '`' then .expected "'`'" else .expected ("`" ++ String.ofList [c] ++ "`")

/-- A literal text. -/
def text (s : String) : Note := .expected ("`" ++ s ++ "`")

/-- A description. -/
def described (s : String) : Note := .expected s

end Expect

end Reconcile.Toml
