import Reconcile.Diagnostic
import Reconcile.Document.Keyed

/-!
# Secret stores

Adapters share one store of named secrets, each a string of bytes. Reading or
deleting a name that is not there fails; writing replaces. A read-only store
passes reads through and refuses every change.
-/

namespace Reconcile

/-- Why a secret operation fails. -/
inductive SecretsError where
  | notFound (name : String)
  | backend (name message : String)
  deriving DecidableEq, Repr, Inhabited

namespace SecretsError

/-- The message of a secrets error. -/
def message : SecretsError → String
  | .notFound name => "secret not found: " ++ name
  | .backend name msg => "secret store failed for " ++ name ++ ": " ++ msg

/-- How a secrets error presents itself. -/
def diagnostic : SecretsError → Diagnostic
  | e@(.notFound _) =>
    { kind := "SecretsError::NotFound", code := "orbiter::secrets::not_found", message := e.message
      help := some "Write the secret before an assembler that needs it converges.", sources := [] }
  | e@(.backend _ _) =>
    { kind := "SecretsError::Backend", code := "orbiter::secrets::backend", message := e.message
      help := some "The backing store rejected the operation. Check its availability and permissions."
      sources := [] }

end SecretsError

/-- A store of named secrets. -/
structure SecretStore where
  entries : List (String × List UInt8) := []
  readOnly : Bool := false
  deriving DecidableEq, Repr, Inhabited

namespace SecretStore

/-- A writable store holding the given secrets; a later entry for a name wins. -/
def ofList (entries : List (String × List UInt8)) : SecretStore := { entries := Keyed.ofList entries }

/-- The bytes of a secret. -/
def read (s : SecretStore) (name : String) : Except SecretsError (List UInt8) :=
  match Keyed.get? name s.entries with
  | some v => .ok v
  | none => .error (.notFound name)

/-- Stores a secret, replacing an earlier one of that name. -/
def write (s : SecretStore) (name : String) (value : List UInt8) : Except SecretsError SecretStore :=
  if s.readOnly then .error (.backend name "store is read-only")
  else .ok { s with entries := Keyed.insert name value s.entries }

/-- Removes a secret. -/
def delete (s : SecretStore) (name : String) : Except SecretsError SecretStore :=
  if s.readOnly then .error (.backend name "store is read-only")
  else if Keyed.contains name s.entries then .ok { s with entries := Keyed.erase name s.entries }
  else .error (.notFound name)

/-- The number of secrets held. -/
def size (s : SecretStore) : Nat := s.entries.length

/-- A secret reads back as written. -/
theorem read_write (s s' : SecretStore) (name : String) (value : List UInt8)
    (h : s.write name value = .ok s') : s'.read name = .ok value := by
  unfold write at h
  split at h
  · cases h
  · cases h
    simp [read]

end SecretStore

end Reconcile
