import Reconcile.Tree.Basic

/-!
# Errors of the three phases

Building stops at the first node that cannot be placed, navigated to, or
built. Convergence reports the first failing node in id order, or the node
found cancelled. Rebuilding records one error per node whose state cannot be
written.
-/

namespace Reconcile

/-- Why a build stops. -/
inductive BuildError where
  /-- The node's `document` (desired or current) cannot be navigated to. -/
  | navigation (assembler path document : String) (cause : NavigateError)
  /-- The adapter refused to build. -/
  | adapter (assembler path : String) (cause : Fault)
  /-- The node declared more agent changes than its queue holds. -/
  | agent (assembler path : String) (cause : AgentError)
  deriving DecidableEq, Repr, Inhabited

namespace BuildError

/-- The message of a build error. -/
def message : BuildError → String
  | .navigation a p d cause => "navigating to " ++ a ++ "'s " ++ d ++ " document at " ++ p ++ " failed: " ++ cause.message
  | .adapter a p cause => "building assembler " ++ a ++ " at " ++ p ++ " failed: " ++ cause.message
  | .agent a p cause =>
    "assembler " ++ a ++ " at " ++ p ++ " declared more agent changes than its queue holds: " ++ cause.message

/-- How a build error presents itself. -/
def diagnostic : BuildError → Diagnostic
  | e@(.navigation _ _ _ cause) =>
    { kind := "BuildError::Navigation", code := "orbiter::build::navigation", message := e.message
      help := some ("The document has no resource where the assembler expects one, or a section " ++
        "has the wrong shape. This will not heal by retrying; correct the document.")
      sources := cause.message :: cause.diagnostic.sources }
  | e@(.adapter _ _ cause) =>
    { kind := "BuildError::Adapter", code := "orbiter::build::adapter", message := e.message
      help := some ("The adapter rejected its desired configuration or could not resolve a " ++
        "dependency. Check the inner cause; transient lookups may succeed next cycle.")
      sources := cause.chain }
  | e@(.agent _ _ cause) =>
    { kind := "BuildError::Agent", code := "orbiter::build::agent", message := e.message
      help := some ("The build overflowed its agent change queue, whether or not the adapter handled " ++
        "the error. Raise `agent_queue_capacity` or declare fewer agents per assembler.")
      sources := cause.message :: cause.diagnostic.sources }

end BuildError

/-- Why convergence stops at a node. -/
inductive EnsureError where
  | adapter (assembler path : String) (cause : Fault)
  | cancelled (assembler path : String)
  deriving DecidableEq, Repr, Inhabited

namespace EnsureError

/-- The message of an ensure error. -/
def message : EnsureError → String
  | .adapter a p cause => "ensuring assembler " ++ a ++ " at " ++ p ++ " failed: " ++ cause.message
  | .cancelled a p => "ensuring assembler " ++ a ++ " at " ++ p ++ " was cancelled"

/-- The path of the node the error names. -/
def path : EnsureError → String
  | .adapter _ p _ => p
  | .cancelled _ p => p

/-- Whether the error is a cancellation. -/
def isCancelled : EnsureError → Bool
  | .cancelled _ _ => true
  | .adapter _ _ _ => false

/-- How an ensure error presents itself. -/
def diagnostic : EnsureError → Diagnostic
  | e@(.adapter _ _ cause) =>
    { kind := "EnsureError::Adapter", code := "orbiter::ensure::adapter", message := e.message
      help := some ("The adapter could not converge its resource, typically because of an " ++
        "infrastructure or network failure. The next cycle retries it.")
      sources := cause.chain }
  | e@(.cancelled _ _) =>
    { kind := "EnsureError::Cancelled", code := "orbiter::ensure::cancelled", message := e.message
      help := some "The cycle's context was cancelled or ran past its deadline before this node converged."
      sources := [] }

end EnsureError

/-- Why a node's state cannot be written. -/
inductive RebuildError where
  | navigation (assembler path : String) (cause : NavigateError)
  | serialize (assembler path : String) (cause : DocumentError)
  | stateShape (assembler path found : String)
  | agentPath (assembler path agent : String)
  deriving DecidableEq, Repr, Inhabited

namespace RebuildError

/-- The message of a rebuild error. -/
def message : RebuildError → String
  | .navigation a p cause => "navigating to " ++ a ++ "'s current state at " ++ p ++ " failed: " ++ cause.message
  | .serialize a p cause => "serializing " ++ a ++ "'s current state at " ++ p ++ " failed: " ++ cause.message
  | .stateShape a p found => a ++ "'s current state at " ++ p ++ " serialized to a " ++ found ++ ", expected a mapping"
  | .agentPath a p agent => "agent change " ++ agent ++ " does not lie below " ++ a ++ " at " ++ p

/-- How a rebuild error presents itself. -/
def diagnostic : RebuildError → Diagnostic
  | e@(.navigation _ _ cause) =>
    { kind := "RebuildError::Navigation", code := "orbiter::rebuild::navigation", message := e.message
      help := some ("The current document has a non-mapping value where a resource or agent " ++
        "section must be written. The persisted document is inconsistent.")
      sources := cause.message :: cause.diagnostic.sources }
  | e@(.serialize _ _ cause) =>
    { kind := "RebuildError::Serialize", code := "orbiter::rebuild::serialize", message := e.message
      help := some "The adapter's state type cannot be represented as a document."
      sources := cause.message :: cause.diagnostic.sources }
  | e@(.stateShape _ _ _) =>
    { kind := "RebuildError::StateShape", code := "orbiter::rebuild::state_shape", message := e.message
      help := some ("A node's state must be a mapping so its children and agents can be nested " ++
        "inside it. Wrap scalar state in a struct.")
      sources := [] }
  | e@(.agentPath _ _ _) =>
    { kind := "RebuildError::AgentPath", code := "orbiter::rebuild::agent_path", message := e.message
      help := some "Agent changes must address a strict descendant of the node that queued them."
      sources := [] }

end RebuildError

end Reconcile
