import Reconcile.Document.Error

/-!
# Requests and answers

A request is a document naming an operation and its inputs; its answer is a
document. A successful answer is `{"ok": value}`. A library error is written as
an object with its kind, code and message, and, when the request asks for
`diagnostics`, its hint, its causes and two empty slots (`url`, `severity`).
A request that cannot be carried out as given is refused: `BadInput` with a
message and nothing else.

Inputs follow one convention: a missing field reads as null, and a missing
path or list as empty.
-/

namespace Reconcile.Request

/-- The answer to a request, before it is wrapped: a value, or a complete
error object. -/
abbrev Answer := Except Document Document

/-- The field `key` of a request, null when missing. -/
def field (req : Document) (key : String) : Document := (req.get? key).getD .null

/-- Whether the request has the field `key`. -/
def has (req : Document) (key : String) : Bool := (req.get? key).isSome

/-- The object of a refused request. -/
def refusal (message : String) : Document :=
  .object [("error", .string "BadInput"), ("message", .string message)]

/-- Refuses the request with `message`. -/
def refuse {α : Type} (message : String) : Except Document α := .error (refusal message)

/-- The object of a library error; `verbose` adds hint, causes and the empty
slots. -/
def errorObject (verbose : Bool) (d : Diagnostic) : Document :=
  let base : Mapping := [("code", .string d.code), ("error", .string d.kind), ("message", .string d.message)]
  if verbose then
    Document.ofEntries (base ++
      [("help", match d.help with
          | some h => .string h
          | none => .null),
       ("severity", .null), ("sources", .array (d.sources.map Document.string)), ("url", .null)])
  else .object base

/-- A library error object with extra entries. -/
def errorWith (verbose : Bool) (d : Diagnostic) (extra : Mapping) : Document :=
  match errorObject verbose d with
  | .object fields => .object (extra.foldl (fun acc e => Keyed.insert e.1 e.2 acc) fields)
  | other => other

/-- Reads a list of strings; null is the empty list. -/
def strings (what : String) : Document → Except Document (List String)
  | .null => .ok []
  | .array items =>
    items.foldr (fun item acc => match item, acc with
      | .string s, .ok xs => .ok (s :: xs)
      | _, .error e => .error e
      | _, _ => .error (refusal (what ++ " must be a list of strings"))) (.ok [])
  | _ => refuse (what ++ " must be a list of strings")

/-- Reads a path field. -/
def pathField (req : Document) (key : String := "path") : Except Document (List String) :=
  strings "path" (field req key)

/-- The text of a name field: a string as it is; anything else names
nothing and is empty. -/
def shown : Document → String
  | .string s => s
  | _ => ""

/-- The items of a list field; anything but a list has none. -/
def items (req : Document) (key : String) : List Document :=
  match field req key with
  | .array xs => xs
  | _ => []

/-- The entries of an object field; anything but an object has none. -/
def members (req : Document) (key : String) : Mapping :=
  match field req key with
  | .object fs => fs
  | _ => []

/-- Reads a string field; anything but a string is no string. -/
def optString (req : Document) (key : String) : Option String :=
  match field req key with
  | .string s => some s
  | _ => none

/-- Reads a count field: an integer from zero to the largest 64-bit word;
anything else is no count. -/
def optCount (req : Document) (key : String) : Option Nat :=
  match field req key with
  | .number (.int n) => if 0 ≤ n ∧ n < Int.ofNat (Nat.pow 2 64) then some n.toNat else none
  | _ => none

/-- Reads a boolean flag: missing, null or false is off. -/
def flag (req : Document) (key : String) : Bool :=
  match field req key with
  | .bool true => true
  | _ => false

/-- A list of answers as a sequence document. -/
def list (xs : List Document) : Document := .array xs

/-- A string list as a sequence document. -/
def stringList (xs : List String) : Document := .array (xs.map Document.string)

/-- Reads bytes: a string stands for its UTF-8 encoding, a list holds the byte
values; nothing else holds bytes. -/
def bytes : Document → Except Document (List UInt8)
  | .string s => .ok s.toUTF8.toList
  | .array items =>
    items.foldr (fun item acc => match item, acc with
      | .number (.int n), .ok xs =>
        if 0 ≤ n ∧ n < 256 then .ok (n.toNat.toUInt8 :: xs) else refuse "bytes must be integers 0..=255"
      | _, .error e => .error e
      | _, _ => refuse "bytes must be integers 0..=255") (.ok [])
  | _ => refuse "value must be a string or a byte list"

/-- Reads secrets by name from an object field. -/
def secretEntries (req : Document) (key : String) : Except Document (List (String × List UInt8)) :=
  (members req key).mapM fun e => do
    let b ← bytes e.2
    .ok (e.1, b)

end Reconcile.Request
