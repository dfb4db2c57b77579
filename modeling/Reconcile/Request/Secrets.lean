import Reconcile.Request.Basic
import Reconcile.Secrets

/-!
# Secret store requests

A `secrets` request seeds a store and runs a list of reads, writes, deletes
and size queries on it, answering each in turn. A read answers the bytes and
their text when they are valid UTF-8.
-/

namespace Reconcile.Request

/-- The answer to a successful read. -/
def secretView (value : List UInt8) : Document :=
  .object [("bytes", .array (value.map fun b => Document.nat b.toNat)),
    ("utf8", match String.fromUTF8? (ByteArray.mk value.toArray) with
      | some text => .string text
      | none => .null)]

/-- Runs one operation on a store and answers it. -/
def secretStep (verbose : Bool) (store : SecretStore) (op : Document) :
    Except Document (SecretStore × Document) := do
  let name := shown (field op "name")
  let failed (e : SecretsError) := errorObject verbose e.diagnostic
  match field op "op" with
  | .string "read" =>
    match store.read name with
    | .ok value => .ok (store, secretView value)
    | .error e => .ok (store, failed e)
  | .string "write" =>
    let value ← match field op "value" with
      | .null => .ok []
      | v => bytes v
    match store.write name value with
    | .ok store => .ok (store, .string "ok")
    | .error e => .ok (store, failed e)
  | .string "delete" =>
    match store.delete name with
    | .ok store => .ok (store, .string "ok")
    | .error e => .ok (store, failed e)
  | .string "len" => .ok (store, Document.nat store.size)
  | .string "is_empty" => .ok (store, .bool (store.size == 0))
  | other => .ok (store, refusal ("unknown secrets op " ++ shown other))

/-- Runs operations in order on a store, answering each. -/
def secretSteps (verbose : Bool) : SecretStore → List Document → Except Document (List Document)
  | _, [] => .ok []
  | store, op :: rest => do
    let (store, out) ← secretStep verbose store op
    let outs ← secretSteps verbose store rest
    .ok (out :: outs)

/-- Runs a list of operations on a seeded store. -/
def secrets (verbose : Bool) (req : Document) : Answer := do
  let entries ← secretEntries req "entries"
  let outs ← secretSteps verbose (SecretStore.ofList entries) (items req "ops")
  .ok (.array outs)

end Reconcile.Request
