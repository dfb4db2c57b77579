import Reconcile.Proofs.Normal

/-!
# Materializing a path, the write-mode lookup

Materializing walks the route of a path as a lenient lookup does, and where
the lookup finds a missing or null hop it puts a mapping there and goes on
(`materialize_counterpart`):

* where the lookup meets a value that is not a mapping on the way,
  materializing fails with the same shape mismatch; where the lookup finds a
  value that is neither null nor a mapping, it fails with a mismatch naming
  the whole path. A failed materialization answers no document, so the
  caller's stays as it was;
* where the lookup finds a mapping, materializing answers it and, in a
  normal document, changes nothing;
* where the lookup finds nothing, materializing answers an empty mapping
  there, and the new document differs from the old one only where null or
  missing hops on the route became mappings.

Materializing twice is materializing once (`materializeAlong_again`), and a
change made through the mapping it answers lands at the path alone:
materializing with the change is materializing, then setting the changed
mapping at the path (`materializeAlong_change`).
-/

namespace Reconcile

namespace Document

section Along

variable {final : String} {f : Mapping → Mapping}

@[simp] theorem mappingAt_object (location : String) (fields : Mapping) :
    mappingAt location (.object fields) = .ok fields := rfl

theorem materializeAlong_null : ∀ route : Route, ∃ r, materializeAlong final f route .null = .ok r
  | [] => ⟨_, rfl⟩
  | hop :: rest => by
    obtain ⟨r, below⟩ : ∃ r, materializeAlong final f rest .null = .ok r := materializeAlong_null rest
    simp [materializeAlong, mappingAt, below]

/-- Where strict navigation meets a value that is not a mapping, so does
materializing, with the same mismatch. -/
theorem materializeAlong_mismatch {location found : String} :
    ∀ (route : Route) (d : Document), follow route d = .error (.shapeMismatch location found) →
      materializeAlong final f route d = .error (.shapeMismatch location found)
  | [], d, failed => by cases failed
  | hop :: rest, d, failed => by
    cases d with
    | object fields =>
      cases present : Keyed.get? hop.key fields with
      | none => simp [follow, step, present] at failed
      | some v =>
        cases nullV : v.isNull
        · -- the hop holds a value, and the mismatch lies further on
          have further : follow rest v = .error (.shapeMismatch location found) := by
            simpa [follow, step, present, nullV] using failed
          simp [materializeAlong, mappingAt, present, materializeAlong_mismatch rest v further]
        · simp [follow, step, present, nullV] at failed
    | null => simp [follow, step] at failed
    | bool _ | number _ | string _ | array _ =>
      simp only [follow, step] at failed
      cases failed
      rfl

/-- Where strict navigation finds a hop missing or null, materializing goes
through: from there on every hop is created. -/
theorem materializeAlong_missing {location key : String} :
    ∀ (route : Route) (d : Document), follow route d = .error (.pathNotFound location key) →
      ∃ r, materializeAlong final f route d = .ok r
  | [], d, failed => by cases failed
  | hop :: rest, d, failed => by
    -- where the hop holds nothing or null, every hop below it is created
    have created : ∀ fields, mappingAt hop.location d = .ok fields → (Keyed.get? hop.key fields).getD .null = .null →
        ∃ r, materializeAlong final f (hop :: rest) d = .ok r := by
      intro fields mapping child
      obtain ⟨r, below⟩ : ∃ r, materializeAlong final f rest .null = .ok r := materializeAlong_null rest
      simp [materializeAlong, mapping, child, below]
    cases d with
    | object fields =>
      cases present : Keyed.get? hop.key fields with
      | none => exact created fields rfl (by simp [present])
      | some v =>
        cases nullV : v.isNull
        · have further : follow rest v = .error (.pathNotFound location key) := by
            simpa [follow, step, present, nullV] using failed
          obtain ⟨r, below⟩ := materializeAlong_missing rest v further
          simp [materializeAlong, mappingAt, present, below]
        · exact created fields rfl (by cases v <;> simp_all [isNull])
    | null => exact created [] rfl rfl
    | bool _ | number _ | string _ | array _ => simp [follow, step] at failed

/-- Where strict navigation finds a value, materializing changes the mapping
it finds there, or fails at the end if it is not one, and sets the changed
mapping at the route's end. -/
theorem materializeAlong_found {v : Document} :
    ∀ (route : Route) (d : Document), follow route d = .ok v →
      materializeAlong final f route d =
        (mappingAt final v).map fun m => (f m, d.setAt (route.map Hop.key) (.object (f m)))
  | [], d, found => by
    rw [follow, Except.ok.injEq] at found
    subst found
    simp only [materializeAlong, List.map_nil, setAt_nil]
    cases mappingAt final d <;> rfl
  | hop :: rest, d, found => by
    cases d with
    | object fields =>
      cases present : Keyed.get? hop.key fields with
      | none => simp [follow, step, present] at found
      | some w =>
        cases nullW : w.isNull
        · have further : follow rest w = .ok v := by simpa [follow, step, present, nullW] using found
          simp only [materializeAlong, mappingAt_object, present, Option.getD_some, materializeAlong_found rest w further,
            List.map_cons, setAt_object_cons]
          cases mappingAt final v <;> rfl
        · simp [follow, step, present, nullW] at found
    | null => simp [follow, step] at found
    | bool _ | number _ | string _ | array _ => simp [follow, step] at found

/-- Materializing with a change is materializing, then setting the changed
mapping at the route's end. -/
theorem materializeAlong_change :
    ∀ (route : Route) (d : Document),
      materializeAlong final f route d =
        (materializeAlong final id route d).map fun r => (f r.1, r.2.setAt (route.map Hop.key) (.object (f r.1)))
  | [], d => by
    simp only [materializeAlong, List.map_nil, setAt_nil]
    cases mappingAt final d <;> rfl
  | hop :: rest, d => by
    simp only [materializeAlong, List.map_cons]
    cases mappingAt hop.location d with
    | error e => rfl
    | ok fields =>
      simp only [materializeAlong_change rest]
      cases materializeAlong final id rest ((Keyed.get? hop.key fields).getD .null) with
      | error e => rfl
      | ok r => simp [Except.map]

/-- Materializing again, with a change that a second application leaves as it
is, finds what the first materialization left and leaves it. -/
theorem materializeAlong_again (settled : ∀ m, f (f m) = f m) :
    ∀ (route : Route) (d : Document) {m : Mapping} {d' : Document},
      materializeAlong final f route d = .ok (m, d') → materializeAlong final f route d' = .ok (m, d')
  | [], d, m, d', made => by
    cases hd : mappingAt final d with
    | error e => simp [materializeAlong, hd] at made
    | ok m₀ =>
      simp only [materializeAlong, hd, Except.ok.injEq, Prod.mk.injEq] at made
      obtain ⟨rfl, rfl⟩ := made
      simp [materializeAlong, mappingAt, settled]
  | hop :: rest, d, m, d', made => by
    cases hd : mappingAt hop.location d with
    | error e => simp [materializeAlong, hd] at made
    | ok fields =>
      cases below : materializeAlong final f rest ((Keyed.get? hop.key fields).getD .null) with
      | error e => simp [materializeAlong, hd, below] at made
      | ok r =>
        obtain ⟨m', child⟩ := r
        simp only [materializeAlong, hd, below, Except.ok.injEq, Prod.mk.injEq] at made
        obtain ⟨rfl, rfl⟩ := made
        simp [materializeAlong, mappingAt, materializeAlong_again settled rest _ below]

end Along

/-! ## Materializing a path -/

section Path

variable {d : Document} {path : List String} {mode : Mode}

theorem ofPath_keys : (Route.ofPath mode path).map Hop.key = mode.keysOf path := below_keys mode [] path

theorem lookup_eq_error {e : NavigateError} (failed : d.lookup path mode = .error e) :
    d.navigate path mode = .error e ∧ ∃ location found, e = .shapeMismatch location found := by
  unfold lookup at failed
  cases navigated : d.navigate path mode with
  | ok v => simp [navigated] at failed
  | error e' =>
    cases e' with
    | pathNotFound l k => simp [navigated] at failed
    | shapeMismatch l s =>
      simp only [navigated, Except.error.injEq] at failed
      exact ⟨congrArg Except.error failed, l, s, failed.symm⟩

theorem valueAt_of_navigate_error {e : NavigateError} (failed : d.navigate path mode = .error e) :
    d.valueAt (mode.keysOf path) = none ∨ d.valueAt (mode.keysOf path) = some .null := by
  cases at_ : d.valueAt (mode.keysOf path) with
  | none => exact .inl rfl
  | some v =>
    by_cases isNull : v = .null
    · exact .inr (isNull ▸ rfl)
    · have found : d.navigate path mode = .ok v := navigate_eq_ok_iff.mpr ⟨at_, .inr isNull⟩
      rw [found] at failed
      cases failed

theorem valueAt_prefix_object {ks r : List String} {v : Document} (nonempty : r ≠ [])
    (at_ : d.valueAt (ks ++ r) = some v) : ∃ fields, d.valueAt ks = some (.object fields) := by
  rw [valueAt_append] at at_
  obtain ⟨k, r', rfl⟩ := List.exists_cons_of_ne_nil nonempty
  cases above : d.valueAt ks with
  | none => simp [above] at at_
  | some w =>
    cases w with
    | object fields => exact ⟨fields, rfl⟩
    | _ => simp [above, valueAt] at at_

theorem Grows.open_of_object {o : Option Document} {fields : Mapping} (grows : Grows o (some (.object fields))) :
    Open o := by
  rcases grows with same | ⟨empty, -⟩
  · match o, same with
    | some (.object _), _ => trivial
  · rcases empty with rfl | rfl <;> trivial

theorem mappingAt_of_not_open {location : String} {v : Document} (closed : ¬ Open (some v)) :
    mappingAt location v = .error (.shapeMismatch location v.shapeName) := by
  cases v <;> simp_all [Open, mappingAt]

/-- Materializing again, with a change that a second application leaves as it
is, finds what the first materialization left and leaves it. -/
theorem materialize_again {f : Mapping → Mapping} {m : Mapping} {d' : Document}
    (made : d.materialize path mode f = .ok (m, d')) (settled : ∀ m, f (f m) = f m) :
    d'.materialize path mode f = .ok (m, d') :=
  materializeAlong_again settled _ d made

theorem materialize_mismatch {f : Mapping → Mapping} {location found : String}
    (failed : d.navigate path mode = .error (.shapeMismatch location found)) :
    d.materialize path mode f = .error (.shapeMismatch location found) :=
  materializeAlong_mismatch _ d failed

theorem materialize_closed {f : Mapping → Mapping} {v : Document} (found : d.navigate path mode = .ok v)
    (closed : ¬ Open (some v)) :
    d.materialize path mode f = .error (.shapeMismatch (Path.format path) v.shapeName) := by
  rw [materialize, materializeAlong_found _ d found, mappingAt_of_not_open closed]
  rfl

/-- Where the path's position holds nothing or null and materializing goes
through, it leaves an empty mapping there, and mappings where the route held
nothing or null; every position off the route keeps its value. -/
theorem materialize_created
    (empty : d.valueAt (mode.keysOf path) = none ∨ d.valueAt (mode.keysOf path) = some .null)
    (goes : ∃ r, d.materialize path mode = .ok r) :
    ∃ d', d.materialize path mode = .ok ([], d') ∧
      (∀ ks, ¬ ks <+: mode.keysOf path → d'.valueAt ks = d.valueAt ks) ∧
      (∀ ks, ks <+: mode.keysOf path → Open (d.valueAt ks) ∧ ∃ fields, d'.valueAt ks = some (.object fields)) ∧
      d'.navigate path mode = .ok (.object []) := by
  obtain ⟨⟨m, d'⟩, made⟩ := goes
  have spec := materialize_spec made
  have noEntries : m = [] := by
    rw [spec.entries]
    rcases empty with at_ | at_ <;> simp [at_, entriesOf]
  subst noEntries
  refine ⟨d', made, fun ks notOnRoute => ?_, fun ks onRoute => ?_, navigate_eq_ok_iff.mpr ⟨spec.target, .inr (by simp)⟩⟩
  · rcases below_or_above_or_apart ks (mode.keysOf path) with ⟨r, rfl⟩ | ⟨onRoute, -⟩ | apart
    · -- below the path's end: the new mapping there is empty, and the old value was nothing or null
      obtain ⟨k, r', rfl⟩ := List.exists_cons_of_ne_nil fun (r_nil : r = []) => notOnRoute (by simp [r_nil])
      rw [valueAt_append, valueAt_append, spec.target]
      rcases empty with at_ | at_ <;> simp [at_]
    · exact absurd onRoute notOnRoute
    · exact spec.touches.apart ks (by simpa using apart)
  · by_cases atEnd : ks = mode.keysOf path
    · subst atEnd
      exact ⟨spec.open_before, [], spec.target⟩
    · -- strictly above the end, the value grew, and it reaches the end, so it is a mapping
      obtain ⟨r, rest⟩ := onRoute
      have moreKeys : r ≠ [] := by
        rintro rfl
        simp at rest
        exact atEnd rest
      have reaches : d'.valueAt (ks ++ r) = some (.object []) := rest ▸ spec.target
      obtain ⟨fields, at_⟩ := valueAt_prefix_object moreKeys reaches
      have notBelow : ∀ w ∈ [mode.keysOf path], ¬ w <+: ks := by
        intro w mem below
        rw [List.mem_singleton.mp mem, ← rest] at below
        exact moreKeys (List.eq_nil_of_length_eq_zero (by simpa using below.length_le))
      have grows := spec.touches.route ks ⟨_, List.mem_singleton_self _, ⟨r, rest⟩⟩ notBelow
      rw [at_] at grows
      exact ⟨grows.open_of_object, fields, at_⟩

end Path

/-- Materializing is the write-mode counterpart of the lenient lookup.
Where the lookup meets a value that is not a mapping on the way, it fails
alike; where it finds a value that is neither null nor a mapping, it fails
with a mismatch naming the whole path. Where the lookup finds a mapping, in a
normal document it answers that mapping and changes nothing. Where the
lookup finds nothing, or the empty path meets null, it answers an empty
mapping: the new document keeps every position off the route, holds a
mapping at every position on it, each of them a mapping, null or nothing
before, and navigating the path finds the empty mapping. Materializing again
changes nothing, and a change through the answered mapping is a change of
the value at the path alone. -/
theorem materialize_counterpart (d : Document) (path : List String) (mode : Mode) :
    (∀ e, d.lookup path mode = .error e → d.materialize path mode = .error e) ∧
    (∀ v, d.lookup path mode = .ok (some v) → ¬ Open (some v) →
      d.materialize path mode = .error (.shapeMismatch (Path.format path) v.shapeName)) ∧
    (∀ m, d.Normal → d.lookup path mode = .ok (some (.object m)) → d.materialize path mode = .ok (m, d)) ∧
    ((d.lookup path mode = .ok none ∨ (path = [] ∧ d = .null)) →
      ∃ d', d.materialize path mode = .ok ([], d') ∧
        (∀ ks, ¬ ks <+: mode.keysOf path → d'.valueAt ks = d.valueAt ks) ∧
        (∀ ks, ks <+: mode.keysOf path → Open (d.valueAt ks) ∧ ∃ fields, d'.valueAt ks = some (.object fields)) ∧
        d'.navigate path mode = .ok (.object [])) ∧
    (∀ m d', d.materialize path mode = .ok (m, d') →
      d'.materialize path mode = .ok (m, d') ∧
      ∀ f, d.materialize path mode f = .ok (f m, d'.setAt (mode.keysOf path) (.object (f m)))) := by
  refine ⟨fun e failed => ?_, fun v found closed => materialize_closed (lookup_eq_some.mp found) closed,
    fun m normal found => ?_, fun missing => ?_, fun m d' made => ⟨materialize_again made fun _ => rfl, fun f => ?_⟩⟩
  · obtain ⟨navigated, location, shape, rfl⟩ := lookup_eq_error failed
    exact materialize_mismatch navigated
  · have at_ := (navigate_eq_ok_iff.mp (lookup_eq_some.mp found)).1
    rw [materialize_found at_, id, setAt_self normal at_]
  · rcases missing with missing | ⟨rfl, rfl⟩
    · obtain ⟨location, key, navigated⟩ := lookup_eq_none.mp missing
      exact materialize_created (valueAt_of_navigate_error navigated) (materializeAlong_missing _ d navigated)
    · exact materialize_created (.inr rfl) ⟨_, rfl⟩
  · rw [materialize, materializeAlong_change, ← materialize, made, ofPath_keys]
    rfl

end Document

end Reconcile
