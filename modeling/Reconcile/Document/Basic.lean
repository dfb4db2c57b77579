import Reconcile.Document.Keyed

/-!
# Documents

A document is a tree of null, booleans, numbers, strings, sequences and
string-keyed mappings. Desired and current states of every resource are
documents of one self-similar schema: a desired node nests its children under
`spec.<id>`, a current node under `current.state.<id>`.

Mappings are keyed lists (`Reconcile.Keyed`): keys in increasing order, one
entry per key.
-/

namespace Reconcile

/-- A number of a document: an integer that fits in 64 bits, signed or
unsigned, or a finite binary64 float given by its bit pattern. -/
inductive Number where
  | int (value : Int)
  | float (bits : UInt64)
  deriving DecidableEq, Repr, Inhabited

/-- A generic state document. -/
inductive Document where
  | null
  | bool (value : Bool)
  | number (value : Number)
  | string (value : String)
  | array (items : List Document)
  | object (fields : List (String × Document))
  deriving Repr, Inhabited

/-- The entries of a document mapping, in increasing key order. -/
abbrev Mapping := List (String × Document)

namespace Document

mutual
/-- Decides equality of documents. -/
def decEq : (a b : Document) → Decidable (a = b)
  | .null, .null => isTrue rfl
  | .bool x, .bool y =>
    if h : x = y then isTrue (h ▸ rfl) else isFalse (by intro e; cases e; exact h rfl)
  | .number x, .number y =>
    if h : x = y then isTrue (h ▸ rfl) else isFalse (by intro e; cases e; exact h rfl)
  | .string x, .string y =>
    if h : x = y then isTrue (h ▸ rfl) else isFalse (by intro e; cases e; exact h rfl)
  | .array xs, .array ys =>
    match decEqItems xs ys with
    | isTrue h => isTrue (h ▸ rfl)
    | isFalse h => isFalse (by intro e; cases e; exact h rfl)
  | .object xs, .object ys =>
    match decEqFields xs ys with
    | isTrue h => isTrue (h ▸ rfl)
    | isFalse h => isFalse (by intro e; cases e; exact h rfl)
  | .null, .bool _ | .null, .number _ | .null, .string _ | .null, .array _
  | .null, .object _ => isFalse (by intro e; cases e)
  | .bool _, .null | .bool _, .number _ | .bool _, .string _ | .bool _, .array _
  | .bool _, .object _ => isFalse (by intro e; cases e)
  | .number _, .null | .number _, .bool _ | .number _, .string _ | .number _, .array _
  | .number _, .object _ => isFalse (by intro e; cases e)
  | .string _, .null | .string _, .bool _ | .string _, .number _ | .string _, .array _
  | .string _, .object _ => isFalse (by intro e; cases e)
  | .array _, .null | .array _, .bool _ | .array _, .number _ | .array _, .string _
  | .array _, .object _ => isFalse (by intro e; cases e)
  | .object _, .null | .object _, .bool _ | .object _, .number _ | .object _, .string _
  | .object _, .array _ => isFalse (by intro e; cases e)
/-- Decides equality of document sequences. -/
def decEqItems : (a b : List Document) → Decidable (a = b)
  | [], [] => isTrue rfl
  | [], _ :: _ => isFalse (by intro e; cases e)
  | _ :: _, [] => isFalse (by intro e; cases e)
  | x :: xs, y :: ys =>
    match decEq x y, decEqItems xs ys with
    | isTrue h1, isTrue h2 => isTrue (h1 ▸ h2 ▸ rfl)
    | isFalse h, _ => isFalse (by intro e; cases e; exact h rfl)
    | _, isFalse h => isFalse (by intro e; cases e; exact h rfl)
/-- Decides equality of mapping entries. -/
def decEqFields : (a b : List (String × Document)) → Decidable (a = b)
  | [], [] => isTrue rfl
  | [], _ :: _ => isFalse (by intro e; cases e)
  | _ :: _, [] => isFalse (by intro e; cases e)
  | (k, x) :: xs, (l, y) :: ys =>
    if hk : k = l then
      match decEq x y, decEqFields xs ys with
      | isTrue h1, isTrue h2 => isTrue (hk ▸ h1 ▸ h2 ▸ rfl)
      | isFalse h, _ => isFalse (by intro e; cases e; exact h rfl)
      | _, isFalse h => isFalse (by intro e; cases e; exact h rfl)
    else isFalse (by intro e; cases e; exact hk rfl)
end

instance : DecidableEq Document := decEq

/-- The empty mapping. -/
def empty : Document := .object []

/-- Whether the document is null. -/
def isNull : Document → Bool
  | .null => true
  | _ => false

/-- The name of the document's shape, as diagnostics print it. -/
def shapeName : Document → String
  | .null => "null"
  | .bool _ => "boolean"
  | .number _ => "number"
  | .string _ => "string"
  | .array _ => "sequence"
  | .object _ => "mapping"

/-- The value under `key` of a mapping; nothing for any other shape. -/
def get? (key : String) : Document → Option Document
  | .object fields => Keyed.get? key fields
  | _ => none

/-- The entries of a mapping. -/
def asMapping? : Document → Option Mapping
  | .object fields => some fields
  | _ => none

/-- The text of a string document. -/
def asString? : Document → Option String
  | .string s => some s
  | _ => none

/-- A mapping document built from entries in any order; a later entry for a
key wins. -/
def ofEntries (entries : List (String × Document)) : Document :=
  .object (Keyed.ofList entries)

/-- A string document. -/
def text (s : String) : Document := .string s

/-- A number document holding a natural number. -/
def nat (n : Nat) : Document := .number (.int n)

@[simp] theorem shapeName_object (fields : Mapping) : (Document.object fields).shapeName = "mapping" :=
  rfl

@[simp] theorem get?_object (key : String) (fields : Mapping) :
    (Document.object fields).get? key = Keyed.get? key fields := rfl

end Document

end Reconcile
