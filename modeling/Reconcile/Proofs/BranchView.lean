import Reconcile.Proofs.Materialize
import Reconcile.Tree.Build

/-!
# The view of a document along a position

A node reads the desired document only along its own path: the mappings on
the way, each through one entry, and the whole value at the end. `along K d`
is what `d` shows along the keys `K`: on the way, each mapping with only its
entry under the next key; at the end, the whole value. Documents that look
alike along the keys of a path are navigated alike there (`navigate_along`).

A strict change at a position apart from `K` leaves the view along `K` as it
was (`modifyAlong_along_apart`). A strict change at a position on the way to
`K`, or at or below it, turns documents that look alike along `K` into
outcomes that look alike (`modifyAlong_respects`), provided the change at its
end does so for what lies below it. A spec edit on the way does so when it
decides each key's entry by that key's entry alone (`KeyWise`), so a node's
view sees the edits of the nodes on its own branch and no other
(`applyEdit_along`, `applyEdit_along_apart`).
-/

namespace Reconcile

namespace Document

/-- What `d` shows along the keys `K`: on the way, each mapping with only its
entry under the next key; at the end, the whole value. -/
def along : List String → Document → Document
  | [], d => d
  | k :: ks, .object fields => .object ((Keyed.get? k fields).elim [] fun v => [(k, along ks v)])
  | _ :: _, d => d

@[simp] theorem along_nil (d : Document) : along [] d = d := by
  cases d <;> rfl

@[simp] theorem along_cons_object (k : String) (ks : List String) (fields : Mapping) :
    along (k :: ks) (.object fields) = .object ((Keyed.get? k fields).elim [] fun v => [(k, along ks v)]) := rfl

theorem along_object_eq {k : String} {ks : List String} {F₁ F₂ : Mapping} :
    along (k :: ks) (.object F₁) = along (k :: ks) (.object F₂) ↔
      (Keyed.get? k F₁).map (along ks) = (Keyed.get? k F₂).map (along ks) := by
  simp only [along_cons_object, Document.object.injEq]
  cases Keyed.get? k F₁ <;> cases Keyed.get? k F₂ <;> simp

/-- Documents that look alike along `k :: ks` are both mappings whose entries
under `k` look alike along `ks`, or one and the same other value. -/
theorem along_cons_eq {k : String} {ks : List String} {d₁ d₂ : Document}
    (same : along (k :: ks) d₁ = along (k :: ks) d₂) :
    (∃ F₁ F₂, d₁ = .object F₁ ∧ d₂ = .object F₂ ∧ (Keyed.get? k F₁).map (along ks) = (Keyed.get? k F₂).map (along ks)) ∨
      d₁ = d₂ := by
  cases d₁ with
  | object F₁ =>
    cases d₂ with
    | object F₂ => exact .inl ⟨F₁, F₂, rfl, rfl, along_object_eq.mp same⟩
    | _ => simp [along] at same
  | _ => cases d₂ <;> simp_all [along]

theorem map_along_eq {ks : List String} {o₁ o₂ : Option Document} (same : o₁.map (along ks) = o₂.map (along ks)) :
    (o₁ = none ∧ o₂ = none) ∨ ∃ v₁ v₂, o₁ = some v₁ ∧ o₂ = some v₂ ∧ along ks v₁ = along ks v₂ := by
  cases o₁ <;> cases o₂ <;> simp_all

theorem isNull_of_along : ∀ {ks : List String} {d₁ d₂ : Document}, along ks d₁ = along ks d₂ → d₁.isNull = d₂.isNull
  | [], _, _, same => by rw [along_nil, along_nil] at same; rw [same]
  | _ :: _, _, _, same => by
    rcases along_cons_eq same with ⟨F₁, F₂, rfl, rfl, -⟩ | rfl
    · rfl
    · rfl

theorem along_insert_self (k : String) (ks : List String) (v : Document) (fields : Mapping) :
    along (k :: ks) (.object (Keyed.insert k v fields)) = .object [(k, along ks v)] := by
  simp

/-! ## Navigating along a view -/

/-- Strict navigation along a route finds the same in documents that look
alike along its keys. -/
theorem follow_along : ∀ (route : Route) {d₁ d₂ : Document}, along (route.map Hop.key) d₁ = along (route.map Hop.key) d₂ →
    follow route d₁ = follow route d₂
  | [], d₁, d₂, same => by rw [List.map_nil, along_nil, along_nil] at same; rw [same]
  | hop :: rest, d₁, d₂, same => by
    rw [List.map_cons] at same
    rcases along_cons_eq same with ⟨F₁, F₂, rfl, rfl, entries⟩ | rfl
    · rcases map_along_eq entries with ⟨missing₁, missing₂⟩ | ⟨v₁, v₂, found₁, found₂, below⟩
      · simp [follow, step, missing₁, missing₂]
      · -- the entries are null together, and strict navigation goes on below them alike
        have nulls := isNull_of_along below
        cases null₁ : v₁.isNull
        · simp [follow, step, found₁, found₂, ← nulls, null₁, follow_along rest below]
        · simp [follow, step, found₁, found₂, ← nulls, null₁]
    · rfl

theorem navigate_along {d₁ d₂ : Document} {path : List String} {mode : Mode}
    (same : along (mode.keysOf path) d₁ = along (mode.keysOf path) d₂) : d₁.navigate path mode = d₂.navigate path mode :=
  follow_along _ (by rwa [ofPath_keys])

/-! ## Changes apart from the view -/

/-- A strict change at a position apart from `K` leaves the view along `K`. -/
theorem modifyAlong_along_apart {β : Type} {f : Document → Except NavigateError (β × Document)} :
    ∀ (route : Route) (K : List String), Apart (route.map Hop.key) K →
      ∀ {d : Document} {b : β} {d' : Document}, modifyAlong f route d = .ok (b, d') → along K d' = along K d
  | [], _, apart, _, _, _, _ => absurd List.nil_prefix apart.1
  | _ :: _, [], apart, _, _, _, _ => absurd List.nil_prefix apart.2
  | hop :: rest, k :: ks, apart, d, b, d', changed => by
    cases d with
    | object fields =>
      cases found : Keyed.get? hop.key fields with
      | none => simp [modifyAlong, found] at changed
      | some v =>
        cases null : v.isNull
        · cases below : modifyAlong f rest v with
          | error e => simp [modifyAlong, found, null, below] at changed
          | ok r =>
            obtain ⟨b', v'⟩ := r
            simp only [modifyAlong, found, null, below, Bool.false_eq_true, if_false, Except.ok.injEq,
              Prod.mk.injEq] at changed
            obtain ⟨-, rfl⟩ := changed
            by_cases same : hop.key = k
            · -- the change goes down the view's key, and below it the positions are still apart
              subst same
              rw [List.map_cons, Apart.cons_iff] at apart
              rw [along_insert_self, along_cons_object, found, modifyAlong_along_apart rest ks apart below]
              rfl
            · simp [Keyed.get?_insert_of_ne _ _ (Ne.symm same)]
        · simp [modifyAlong, found, null] at changed
    | _ => simp [modifyAlong] at changed

/-! ## Changes on the way to the view -/

/-- Two outcomes of a change that look alike along `K`: the same failure, or
documents that look alike along `K`. -/
def AlikeAlong (K : List String) : Except NavigateError Document → Except NavigateError Document → Prop
  | .error e₁, .error e₂ => e₁ = e₂
  | .ok d₁, .ok d₂ => along K d₁ = along K d₂
  | _, _ => False

theorem AlikeAlong.refl (K : List String) : ∀ r : Except NavigateError Document, AlikeAlong K r r
  | .error _ => rfl
  | .ok _ => rfl

/-- A change that turns documents looking alike along `K` into outcomes that
look alike along `K`. -/
def Respects {β : Type} (K : List String) (g : Document → Except NavigateError (β × Document)) : Prop :=
  ∀ d₁ d₂, along K d₁ = along K d₂ → AlikeAlong K ((g d₁).map Prod.snd) ((g d₂).map Prod.snd)

theorem respects_nil {β : Type} (g : Document → Except NavigateError (β × Document)) : Respects [] g := by
  intro d₁ d₂ same
  rw [along_nil, along_nil] at same
  subst same
  exact AlikeAlong.refl _ _

/-- A strict change along a route on the way to `K`, or at or below it,
respects the view along `K` when its change at the end respects what the
view shows below the route. -/
theorem modifyAlong_respects {β : Type} {f : Document → Except NavigateError (β × Document)} :
    ∀ (route : Route) (K : List String), (route.map Hop.key <+: K ∨ K <+: route.map Hop.key) →
      Respects (K.drop route.length) f → Respects K (modifyAlong f route)
  | [], K, _, atEnd => atEnd
  | _ :: _, [], _, _ => respects_nil _
  | hop :: rest, k :: ks, onWay, atEnd => by
    have key : hop.key = k := by
      rcases onWay with pre | pre <;> exact (List.cons_prefix_cons.mp pre).1.symm ▸ rfl
    have onWay' : rest.map Hop.key <+: ks ∨ ks <+: rest.map Hop.key := by
      rcases onWay with pre | pre
      · exact .inl (List.cons_prefix_cons.mp pre).2
      · exact .inr (List.cons_prefix_cons.mp pre).2
    have below := modifyAlong_respects rest ks onWay' (by simpa using atEnd)
    subst key
    intro d₁ d₂ same
    rcases along_cons_eq same with ⟨F₁, F₂, rfl, rfl, entries⟩ | rfl
    · rcases map_along_eq entries with ⟨missing₁, missing₂⟩ | ⟨v₁, v₂, found₁, found₂, alike⟩
      · simp [modifyAlong, missing₁, missing₂, AlikeAlong, Except.map]
      · have nulls := isNull_of_along alike
        cases null₁ : v₁.isNull
        · -- the changes below end alike, and each mapping takes its changed entry back under the key
          have inner := below v₁ v₂ alike
          cases changed₁ : modifyAlong f rest v₁ <;> cases changed₂ : modifyAlong f rest v₂ <;>
            simp_all [modifyAlong, AlikeAlong, Except.map]
        · simp [modifyAlong, found₁, found₂, ← nulls, null₁, AlikeAlong, Except.map]
    · exact AlikeAlong.refl _ _

/-- A change of a mapping that decides each key's entry by that key's entry
alone, as far as any path below the key shows: mappings whose entries under a
key look alike along some keys are changed into mappings whose entries there
look alike along them. Setting, defaulting or removing a key is such a
change, and so is a change made inside one key's entry; copying one key's
entry to another is not. -/
def KeyWise (f : Mapping → Mapping) : Prop :=
  ∀ (ks : List String) (k : String) (m₁ m₂ : Mapping),
    (Keyed.get? k m₁).map (along ks) = (Keyed.get? k m₂).map (along ks) →
      (Keyed.get? k (f m₁)).map (along ks) = (Keyed.get? k (f m₂)).map (along ks)

/-- A spec edit that decides each key by its own entry respects the view of
every node below the edited one. -/
theorem editSpec_respects {f : Mapping → Mapping} (keyWise : KeyWise f) (path : List String) (k : String)
    (ks : List String) : Respects ("spec" :: k :: ks) (Build.editSpec f path) := by
  intro d₁ d₂ same
  rcases along_cons_eq same with ⟨F₁, F₂, rfl, rfl, specs⟩ | rfl
  · rcases map_along_eq specs with ⟨missing₁, missing₂⟩ | ⟨x₁, x₂, found₁, found₂, alike⟩
    · simp [Build.editSpec, missing₁, missing₂, AlikeAlong, Except.map]
    · rcases along_cons_eq alike with ⟨m₁, m₂, rfl, rfl, entries⟩ | rfl
      · -- both specs are mappings: the edit decides the entry under `k` by its old entry
        have edited := along_object_eq.mpr (keyWise ks k m₁ m₂ entries)
        simp [Build.editSpec, found₁, found₂, AlikeAlong, Except.map, edited]
      · cases x₁ <;> simp [Build.editSpec, found₁, found₂, AlikeAlong, Except.map]
  · exact AlikeAlong.refl _ _

end Document

namespace Build

open Document

/-- A spec edit at a path on the branch of `q`, a prefix or an extension of
it, turns working copies that look alike along `q` into outcomes that look
alike, when the edit decides each key's entry by that key's entry alone. -/
theorem applyEdit_along {f : Mapping → Mapping} (keyWise : KeyWise f) {p q : List String} (onBranch : p <+: q ∨ q <+: p)
    {w₁ w₂ : Document} (same : along (Mode.desired.keysOf q) w₁ = along (Mode.desired.keysOf q) w₂) :
    AlikeAlong (Mode.desired.keysOf q) (applyEdit w₁ p (some f)) (applyEdit w₂ p (some f)) := by
  have keys : (Route.ofPath .desired p).map Hop.key = Mode.desired.keysOf p := ofPath_keys
  have length : (Route.ofPath .desired p).length = (Mode.desired.keysOf p).length := by
    rw [← keys, List.length_map]
  have atEnd : Respects ((Mode.desired.keysOf q).drop (Route.ofPath .desired p).length) (editSpec f p) := by
    rw [length]
    rcases onBranch with ⟨r, rfl⟩ | ⟨r, rfl⟩
    · cases r with
      | nil => simpa using respects_nil _
      | cons seg r =>
        rw [Mode.keysOf_append, List.drop_left, Mode.keysOf_cons]
        exact editSpec_respects keyWise p seg _
    · rw [Mode.keysOf_append, List.drop_eq_nil_of_le (by simp)]
      exact respects_nil _
  have onWay : (Route.ofPath .desired p).map Hop.key <+: Mode.desired.keysOf q ∨
      Mode.desired.keysOf q <+: (Route.ofPath .desired p).map Hop.key := by
    rw [keys]
    exact onBranch.imp Mode.keysOf_prefix Mode.keysOf_prefix
  exact modifyAlong_respects _ _ onWay atEnd w₁ w₂ same

/-- A spec edit at a path apart from `q` leaves the view along `q`. -/
theorem applyEdit_along_apart {p q : List String} (apart : Apart p q) {w w' : Document}
    {edit : Option (Mapping → Mapping)} (edited : applyEdit w p edit = .ok w') :
    along (Mode.desired.keysOf q) w' = along (Mode.desired.keysOf q) w := by
  cases edit with
  | none =>
    simp only [applyEdit, Except.ok.injEq] at edited
    rw [edited]
  | some f =>
    simp only [applyEdit, modifyAt] at edited
    cases changed : modifyAlong (editSpec f p) (Route.ofPath .desired p) w with
    | error e => simp [changed, Except.map] at edited
    | ok r =>
      simp only [changed, Except.map, Except.ok.injEq] at edited
      subst edited
      exact modifyAlong_along_apart _ _ (by rw [ofPath_keys]; exact apart.keysOf) changed

end Build

end Reconcile
