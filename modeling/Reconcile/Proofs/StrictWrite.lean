import Reconcile.Proofs.Materialize

/-!
# Writing through strict navigation

Strict in-place access (`Document.modifyAt`) walks the route of a path as
strict navigation does, over the same hops and with the same rule for null.
So it fails exactly where navigation fails, with the same error, and
otherwise acts on the value navigation finds and sets the changed value at
the path's position (`Document.modifyAt_eq`).

It is a lens onto that value. After `v` is written, navigation finds `v`
(`Document.navigate_setAt`), except that null below a non-empty path reads as
the path's last id missing (`Document.navigate_setAt_null`), and every
position apart from the path's keeps its value (`Document.modifyAt_lens`).
-/

namespace Reconcile

namespace Document

section Along

variable {β : Type} {f : Document → Except NavigateError (β × Document)}

/-- A strict change along a route follows it as strict navigation does: it
fails with navigation's error, or hands the change the value found and sets
the changed value at the route's end. -/
theorem modifyAlong_eq : ∀ (route : Route) (d : Document),
    modifyAlong f route d =
      (follow route d).bind fun w => (f w).map fun r => (r.1, d.setAt (route.map Hop.key) r.2)
  | [], d => by
    simp only [modifyAlong, follow, List.map_nil, setAt_nil, Except.bind]
    cases f d <;> rfl
  | hop :: rest, d => by
    cases d with
    | object fields =>
      cases found : Keyed.get? hop.key fields with
      | none => simp [modifyAlong, follow, step, found, Except.bind]
      | some w =>
        cases nullW : w.isNull
        · -- the hop holds a value: the change goes on below it, and the mapping takes the result back
          simp only [modifyAlong, follow, step, found, nullW, Bool.false_eq_true, if_false, modifyAlong_eq rest w,
            List.map_cons, setAt_object_cons, Option.getD_some]
          cases follow rest w with
          | error e => rfl
          | ok v =>
            simp only [Except.bind]
            cases f v <;> rfl
        · simp [modifyAlong, follow, step, found, nullW, Except.bind]
    | null => simp [modifyAlong, follow, step, Except.bind]
    | _ => simp [modifyAlong, follow, step, Except.bind]

end Along

/-- A route whose end holds null fails at its last hop, where it finds
nothing. -/
theorem follow_snoc_null {d : Document} {route : Route} {hop : Hop}
    (at_ : d.valueAt (route.map Hop.key ++ [hop.key]) = some .null) :
    follow (route ++ [hop]) d = .error (.pathNotFound hop.location hop.key) := by
  obtain ⟨fields, above⟩ := valueAt_prefix_object (List.cons_ne_nil hop.key []) at_
  have reached : follow route d = .ok (.object fields) := (follow_eq_ok_iff route d).mpr ⟨above, .inr (by simp)⟩
  have last : Keyed.get? hop.key fields = some .null := by
    simpa [valueAt_append, above] using at_
  rw [follow_append, reached]
  simp [follow, step, last, isNull, Except.bind]

theorem ofPath_snoc (mode : Mode) (pre : List String) (seg : String) :
    Route.ofPath mode (pre ++ [seg]) =
      (Route.ofPath mode pre ++ mode.hops.map fun key => ⟨key, Path.place pre key⟩) ++
        [⟨seg, Path.place pre seg⟩] := by
  simp [Route.ofPath, Route.below_append, Route.below]

section Path

variable {d : Document} {path : List String} {mode : Mode}

theorem modifyAt_eq {β : Type} (f : Document → Except NavigateError (β × Document)) :
    d.modifyAt path mode f =
      (d.navigate path mode).bind fun w => (f w).map fun r => (r.1, d.setAt (mode.keysOf path) r.2) := by
  rw [modifyAt, modifyAlong_eq, ofPath_keys]
  rfl

theorem replaceAt_eq (v : Document) :
    d.replaceAt path mode v = (d.navigate path mode).map fun w => (w, d.setAt (mode.keysOf path) v) := by
  rw [replaceAt, modifyAt_eq]
  cases d.navigate path mode <;> rfl

theorem navigate_setAt {w : Document} (found : d.navigate path mode = .ok w) (v : Document)
    (shown : path = [] ∨ v ≠ .null) : (d.setAt (mode.keysOf path) v).navigate path mode = .ok v :=
  navigate_eq_ok_iff.mpr ⟨valueAt_setAt (navigate_eq_ok_iff.mp found).1 v, shown⟩

/-- Where navigation finds a value below a non-empty path, navigation after
setting null there reports the path's last id missing, named below the ids
before it. -/
theorem navigate_setAt_null {pre : List String} {seg : String} {w : Document}
    (found : d.navigate (pre ++ [seg]) mode = .ok w) :
    (d.setAt (mode.keysOf (pre ++ [seg])) .null).navigate (pre ++ [seg]) mode =
      .error (.pathNotFound (Path.place pre seg) seg) := by
  have cleared := valueAt_setAt (navigate_eq_ok_iff.mp found).1 .null
  rw [navigate, ofPath_snoc]
  apply follow_snoc_null
  simpa [ofPath_keys, Mode.keysOf_append, Mode.keysOf_cons, Function.comp_def] using cleared

end Path

/-- Strict in-place access is strict navigation made writable, and a lens
onto the value navigation finds. Any change through it fails with
navigation's error, or acts on the value navigation finds and sets the
changed value at the path's position. Writing `v` through it fails exactly
when navigation fails, with the same error. Otherwise it answers the value
navigation finds; navigation at the same path then finds `v`, unless `v` is
null below a non-empty path, where it reports the path's last id missing;
and every position apart from the path's keeps its value. -/
theorem modifyAt_lens (d : Document) (path : List String) (mode : Mode) (v : Document) :
    (∀ {β : Type} (f : Document → Except NavigateError (β × Document)),
      d.modifyAt path mode f =
        (d.navigate path mode).bind fun w => (f w).map fun r => (r.1, d.setAt (mode.keysOf path) r.2)) ∧
    (∀ e, d.replaceAt path mode v = .error e ↔ d.navigate path mode = .error e) ∧
    ∀ w d', d.replaceAt path mode v = .ok (w, d') →
      d.navigate path mode = .ok w ∧
      ((path = [] ∨ v ≠ .null) → d'.navigate path mode = .ok v) ∧
      (∀ pre seg, path = pre ++ [seg] → v = .null →
        d'.navigate path mode = .error (.pathNotFound (Path.place pre seg) seg)) ∧
      ∀ ks, Apart ks (mode.keysOf path) → d'.valueAt ks = d.valueAt ks := by
  refine ⟨fun f => modifyAt_eq f, fun e => ?_, fun w d' written => ?_⟩
  · rw [replaceAt_eq]
    cases d.navigate path mode <;> simp [Except.map]
  · obtain ⟨_, _, -, modified⟩ := modifyAt_spec written
    have found : d.navigate path mode = .ok w ∧ d' = d.setAt (mode.keysOf path) v := by
      rw [replaceAt_eq] at written
      cases navigated : d.navigate path mode <;> simp_all [Except.map]
    obtain ⟨found, rfl⟩ := found
    refine ⟨found, navigate_setAt found v, fun pre seg split null => ?_, modified.apart⟩
    subst split null
    exact navigate_setAt_null found

end Document

end Reconcile
