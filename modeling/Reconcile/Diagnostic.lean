/-!
# Diagnostics

Every error of the library presents itself the same way: a kind that names
it, a diagnostic code, a one-line message that already includes the messages
of its causes, an optional hint, and the chain of cause messages.

A `Fault` is what an adapter reports when it cannot build or converge: a
message and the messages of the causes behind it.
-/

namespace Reconcile

/-- How an error presents itself. -/
structure Diagnostic where
  /-- The family and case of the error, such as `NavigateError::ShapeMismatch`. -/
  kind : String
  /-- The diagnostic code. -/
  code : String
  /-- The message, causes included. -/
  message : String
  /-- A hint on what to do about it. -/
  help : Option String
  /-- The messages of the causes, outermost first. -/
  sources : List String
  deriving DecidableEq, Repr, Inhabited

/-- An adapter's error: its message and its causes' messages. -/
structure Fault where
  message : String
  causes : List String := []
  deriving DecidableEq, Repr, Inhabited

namespace Fault

/-- A fault with no cause behind it. -/
def ofMessage (message : String) : Fault := ⟨message, []⟩

/-- A fault carrying an error of the library, whose causes come along. -/
def ofDiagnostic (d : Diagnostic) : Fault := ⟨d.message, d.sources⟩

/-- The fault's message followed by its causes': what an error wrapping it
lists as sources. -/
def chain (f : Fault) : List String := f.message :: f.causes

end Fault

end Reconcile
