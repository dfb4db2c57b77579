import Reconcile.Document.Basic

/-!
# Resource paths

A resource path is a list of child ids. In a desired document each id is
reached through `spec.<id>`, in a current document through
`current.state.<id>`; the empty path is the document itself.

A path becomes a *route*: the keys to follow, one after the other, each with
the position that an error there names (`Route.ofPath`). Strict navigation,
lookup, in-place modification and materialization all walk a route:

* `navigate` requires every key to hold a non-null value;
* `lookup` is `navigate` with a missing key read as absence;
* `modifyAt` changes the value at the end of the route;
* `materialize` turns null and missing hops into mappings on the way and
  hands back the mapping at the end.
-/

namespace Reconcile

/-- Which half of the document schema a path descends through. -/
inductive Mode where
  | desired
  | current
  deriving DecidableEq, Repr, Inhabited

/-- The schema keys crossed before each path segment. -/
def Mode.hops : Mode → List String
  | .desired => ["spec"]
  | .current => ["current", "state"]

namespace Path

/-- A path as logs print it: ids joined by `/`, and `<root>` when empty. -/
def format : List String → String
  | [] => "<root>"
  | p => "/".intercalate p

/-- The position of `key` reached below the ids `before`. -/
def place (before : List String) (key : String) : String :=
  if before.isEmpty then key else format before ++ "/" ++ key

end Path

/-- Why a route cannot be followed. -/
inductive NavigateError where
  /-- No non-null value under `key`, at `location`. -/
  | pathNotFound (location key : String)
  /-- A value of shape `found` where a mapping was needed. -/
  | shapeMismatch (location found : String)
  deriving DecidableEq, Repr, Inhabited

/-- One key of a route with the position an error there names. -/
structure Hop where
  key : String
  location : String
  deriving DecidableEq, Repr, Inhabited

/-- The keys to follow for a path. -/
abbrev Route := List Hop

namespace Route

/-- The route of the ids `path` walked below the ids `before`. -/
def below (mode : Mode) (before : List String) : List String → Route
  | [] => []
  | seg :: rest =>
    (mode.hops ++ [seg]).map (fun key => ⟨key, Path.place before key⟩) ++ below mode (before ++ [seg]) rest

/-- The route of a path from the document root. -/
def ofPath (mode : Mode) (path : List String) : Route := below mode [] path

end Route

namespace Document

/-- The non-null value under a hop's key. -/
def step (hop : Hop) : Document → Except NavigateError Document
  | .object fields =>
    match Keyed.get? hop.key fields with
    | some v => if v.isNull then .error (.pathNotFound hop.location hop.key) else .ok v
    | none => .error (.pathNotFound hop.location hop.key)
  | .null => .error (.pathNotFound hop.location hop.key)
  | other => .error (.shapeMismatch hop.location other.shapeName)

/-- Follows a route strictly. -/
def follow : Route → Document → Except NavigateError Document
  | [], doc => .ok doc
  | hop :: rest, doc =>
    match step hop doc with
    | .ok next => follow rest next
    | .error e => .error e

/-- The value at `path`; every hop must hold a non-null value. -/
def navigate (doc : Document) (path : List String) (mode : Mode) : Except NavigateError Document :=
  follow (Route.ofPath mode path) doc

/-- The value at `path`, or nothing when a hop is missing; a shape mismatch is
still an error. -/
def lookup (doc : Document) (path : List String) (mode : Mode) : Except NavigateError (Option Document) :=
  match navigate doc path mode with
  | .ok v => .ok (some v)
  | .error (.pathNotFound _ _) => .ok none
  | .error e => .error e

/-- Changes the value at the end of a route with `f`, which also returns an
answer; the hops must hold non-null values, as for `follow`. -/
def modifyAlong {α : Type} (f : Document → Except NavigateError (α × Document)) :
    Route → Document → Except NavigateError (α × Document)
  | [], doc => f doc
  | hop :: rest, doc =>
    match doc with
    | .object fields =>
      match Keyed.get? hop.key fields with
      | some v =>
        if v.isNull then .error (.pathNotFound hop.location hop.key)
        else match modifyAlong f rest v with
          | .ok (a, v') => .ok (a, .object (Keyed.insert hop.key v' fields))
          | .error e => .error e
      | none => .error (.pathNotFound hop.location hop.key)
    | .null => .error (.pathNotFound hop.location hop.key)
    | other => .error (.shapeMismatch hop.location other.shapeName)

/-- Changes the value at `path`, strictly navigated. -/
def modifyAt {α : Type} (doc : Document) (path : List String) (mode : Mode)
    (f : Document → Except NavigateError (α × Document)) : Except NavigateError (α × Document) :=
  modifyAlong f (Route.ofPath mode path) doc

/-- Replaces the value at `path` by `v`, answering the value it replaced. -/
def replaceAt (doc : Document) (path : List String) (mode : Mode) (v : Document) :
    Except NavigateError (Document × Document) :=
  modifyAt doc path mode fun old => .ok (old, v)

/-- The entries of a mapping, an empty mapping standing for null; any other
shape is a mismatch at `location`. -/
def mappingAt (location : String) : Document → Except NavigateError Mapping
  | .object fields => .ok fields
  | .null => .ok []
  | other => .error (.shapeMismatch location other.shapeName)

/-- Walks a route creating missing hops: each cursor must be a mapping or
null (which becomes a mapping), a missing key starts out null. At the end the
mapping there (checked at `final`) is changed by `f`. Answers the changed
mapping and the new document. -/
def materializeAlong (final : String) (f : Mapping → Mapping) :
    Route → Document → Except NavigateError (Mapping × Document)
  | [], doc =>
    match mappingAt final doc with
    | .ok m => let m' := f m; .ok (m', .object m')
    | .error e => .error e
  | hop :: rest, doc =>
    match mappingAt hop.location doc with
    | .error e => .error e
    | .ok fields =>
      match materializeAlong final f rest ((Keyed.get? hop.key fields).getD .null) with
      | .ok (m, child) => .ok (m, .object (Keyed.insert hop.key child fields))
      | .error e => .error e

/-- Materializes `path` and changes the mapping there with `f`. -/
def materialize (doc : Document) (path : List String) (mode : Mode) (f : Mapping → Mapping := id) :
    Except NavigateError (Mapping × Document) :=
  materializeAlong (Path.format path) f (Route.ofPath mode path) doc

end Document

end Reconcile
