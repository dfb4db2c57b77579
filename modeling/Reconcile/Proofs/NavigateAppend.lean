import Reconcile.Proofs.Position

/-!
# Navigating along a path continued by another

Strict navigation along `p ++ q` is navigation along `p`, then along `q` from
the value found there (`navigate_append_eq`). An error on the way keeps its
kind, its key and the shape it found. One met below `p` names its position
from the root: `p` as logs print it, a `/`, and the position below
(`NavigateError.under`). The empty path names nothing, so below it an error
names its position as it was.

A lenient lookup along `p ++ q` finds nothing exactly when the lookup along
`p` finds nothing, or the one along `q` below what it found does
(`lookup_append_eq`).
-/

namespace Reconcile

section MapError

variable {ε ε' β : Type} (f : ε → ε')

@[simp] theorem mapError_ok (b : β) : (Except.ok b : Except ε β).mapError f = .ok b := rfl

@[simp] theorem mapError_error (e : ε) : (Except.error e : Except ε β).mapError f = .error (f e) := rfl

end MapError

namespace Path

theorem format_of_ne_nil {p : List String} (nonempty : p ≠ []) : format p = "/".intercalate p := by
  cases p with
  | nil => exact absurd rfl nonempty
  | cons seg rest => rfl

/-- A position named below two paths, one after the other, is named below
their concatenation. -/
theorem place_append (p q : List String) (key : String) : place (p ++ q) key = place p (place q key) := by
  by_cases hp : p = []
  · subst hp
    simp [place]
  by_cases hq : q = []
  · subst hq
    simp [place]
  have joined : format (p ++ q) = format p ++ "/" ++ format q := by
    rw [format_of_ne_nil (List.append_ne_nil_of_left_ne_nil hp q), format_of_ne_nil hp, format_of_ne_nil hq,
      String.intercalate_append_of_ne_nil hp hq]
  simp [place, hp, hq, joined, String.append_assoc]

end Path

namespace NavigateError

/-- An error met below the ids `p`, seen from the root: the same kind of
error at the same key or with the same shape found, its position named below
`p`. -/
def under (p : List String) : NavigateError → NavigateError
  | .pathNotFound location key => .pathNotFound (Path.place p location) key
  | .shapeMismatch location found => .shapeMismatch (Path.place p location) found

@[simp] theorem under_pathNotFound (p : List String) (location key : String) :
    (NavigateError.pathNotFound location key).under p = .pathNotFound (Path.place p location) key := rfl

@[simp] theorem under_shapeMismatch (p : List String) (location found : String) :
    (NavigateError.shapeMismatch location found).under p = .shapeMismatch (Path.place p location) found := rfl

theorem under_location {p : List String} (nonempty : p ≠ []) (location : String) :
    Path.place p location = Path.format p ++ "/" ++ location := by
  simp [Path.place, nonempty]

end NavigateError

/-- A hop of a route walked below the ids `p`: the same key, its position
named below `p`. -/
def Hop.under (p : List String) (hop : Hop) : Hop := ⟨hop.key, Path.place p hop.location⟩

theorem Route.below_under (mode : Mode) (p : List String) :
    ∀ (before q : List String), Route.below mode (p ++ before) q = (Route.below mode before q).map (Hop.under p)
  | _, [] => rfl
  | before, seg :: rest => by
    have later := Route.below_under mode p (before ++ [seg]) rest
    simp [Route.below, later, Hop.under, Path.place_append]

namespace Document

theorem step_under (p : List String) (hop : Hop) (d : Document) :
    step (hop.under p) d = (step hop d).mapError (NavigateError.under p) := by
  cases d with
  | object fields =>
    cases found : Keyed.get? hop.key fields with
    | none => simp [step, Hop.under, found]
    | some v => cases nullV : v.isNull <;> simp [step, Hop.under, found, nullV]
  | null => simp [step, Hop.under]
  | _ => simp [step, Hop.under]

/-- Following a route named below `p` finds what the route finds, its error
named below `p`. -/
theorem follow_under (p : List String) :
    ∀ (route : Route) (d : Document), follow (route.map (Hop.under p)) d = (follow route d).mapError (NavigateError.under p)
  | [], _ => rfl
  | hop :: rest, d => by
    rw [List.map_cons, follow, follow, step_under]
    cases step hop d with
    | ok next => exact follow_under p rest next
    | error e => rfl

/-- Navigating along `p ++ q` navigates along `p`, then along `q` from what it
found; an error below `p` is named below `p`. -/
theorem navigate_append_eq (d : Document) (p q : List String) (mode : Mode) :
    d.navigate (p ++ q) mode = (d.navigate p mode).bind fun v => (v.navigate q mode).mapError (NavigateError.under p) := by
  have below : Route.below mode p q = (Route.below mode [] q).map (Hop.under p) := by
    simpa using Route.below_under mode p [] q
  rw [navigate, Route.ofPath, Route.below_append, follow_append, List.nil_append, below]
  congr 1
  funext v
  exact follow_under p _ v

/-- Looking up along `p ++ q` looks up along `p`, then along `q` below what
it found; nothing found along `p` is nothing found. -/
theorem lookup_append_eq (d : Document) (p q : List String) (mode : Mode) :
    d.lookup (p ++ q) mode =
      (d.lookup p mode).bind fun found => found.elim (.ok none) fun v => (v.lookup q mode).mapError (NavigateError.under p) := by
  unfold lookup
  rw [navigate_append_eq]
  cases d.navigate p mode with
  | ok v =>
    simp only [Except.bind, Option.elim]
    cases v.navigate q mode with
    | ok w => rfl
    | error e => cases e <;> rfl
  | error e => cases e <;> rfl

/-- Navigation composes over path concatenation: it succeeds along `p ++ q`
exactly when it succeeds along `p` and then along `q` from what it found,
with the same result; it fails with the error of the first part that fails,
an error below `p` keeping its kind, key and shape and naming its position
below `p`. So a lookup along `p ++ q` finds nothing exactly when the one
along `p` does, or the one along `q` below what it found. -/
theorem navigate_compose (d : Document) (p q : List String) (mode : Mode) :
    (∀ w, d.navigate (p ++ q) mode = .ok w ↔ ∃ v, d.navigate p mode = .ok v ∧ v.navigate q mode = .ok w) ∧
    (∀ e, d.navigate p mode = .error e → d.navigate (p ++ q) mode = .error e) ∧
    (∀ v e, d.navigate p mode = .ok v → v.navigate q mode = .error e →
      d.navigate (p ++ q) mode = .error (e.under p)) ∧
    (d.lookup (p ++ q) mode = .ok none ↔
      d.lookup p mode = .ok none ∨ ∃ v, d.lookup p mode = .ok (some v) ∧ v.lookup q mode = .ok none) := by
  have whole := navigate_append_eq d p q mode
  have below : ∀ v, d.navigate p mode = .ok v →
      d.navigate (p ++ q) mode = (v.navigate q mode).mapError (NavigateError.under p) := by
    intro v found
    rw [whole, found]
    rfl
  refine ⟨fun w => ?_, fun e failed => by rw [whole, failed]; rfl,
    fun v e found failed => by rw [below v found, failed]; rfl, ?_⟩
  · cases found : d.navigate p mode with
    | ok v =>
      rw [below v found]
      cases hq : v.navigate q mode <;> simp [hq]
    | error e => simp [whole, found, Except.bind]
  · rw [lookup_append_eq]
    cases d.lookup p mode with
    | ok found =>
      cases found with
      | none => simp [Except.bind]
      | some v => cases hq : v.lookup q mode <;> simp [hq, Except.bind]
    | error e => simp [Except.bind]

end Document

end Reconcile
