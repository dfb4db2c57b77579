import Reconcile.Proofs.RebuildWrite
import Mathlib.Data.String.Basic

/-!
# Writes that may be made in either order

Every write of a rebuild is made of walks along the route to a path: a strict
walk that changes a node in place and finds nothing where a hop holds nothing,
and a creating walk that materializes the hops it lacks. `walk` is one
definition for both, proved equal to `modifyAlong` and `materializeAlong`.

Two walks to apart paths commute: each answers the same whichever goes
first, and the two leave the same document (`walk_apart`). Two strict walks
along one route commute when their changes at the end do
(`walk_same_route`). A change made of walks to paths a predicate holds of is
`Within` it. Entry and record writes are within their node's path
(`perform_within`), so runs of writes for apart nodes commute
(`run_append_comm`). At one node the takes of two children commute
(`takeStep_comm`), so a node's write does not depend on the order of its
children (`writeNode_perm`).
-/

namespace Reconcile

namespace Keyed

variable {α : Type}

/-- Storing under two different keys gives the same entries in either order. -/
theorem insert_comm {k k' : String} (ne : k ≠ k') (v v' : α) (entries : List (String × α)) :
    insert k v (insert k' v' entries) = insert k' v' (insert k v entries) := by
  wlog lt : k < k' generalizing k k' v v'
  · exact (this (Ne.symm ne) v' v (lt_of_le_of_ne (not_lt.mp lt) (Ne.symm ne))).symm
  have gt : ¬ k' < k := not_lt_of_gt lt
  have ne' : k' ≠ k := Ne.symm ne
  induction entries with
  | nil => simp [insert, lt, gt, ne']
  | cons entry rest ih =>
    obtain ⟨j, w⟩ := entry
    rcases lt_trichotomy k' j with hk' | rfl | hk'
    · simp [insert, hk', lt.trans hk', lt, gt, ne']
    · simp [insert, lt, gt, ne']
    · rcases lt_trichotomy k j with hk | rfl | hk
      · simp [insert, hk, gt, ne', not_lt_of_gt hk', ne_of_gt hk']
      · simp [insert, not_lt_of_gt hk', ne_of_gt hk']
      · simp [insert, not_lt_of_gt hk', ne_of_gt hk', not_lt_of_gt hk, ne_of_gt hk, ih]

@[simp] theorem insert_insert (k : String) (v v' : α) (entries : List (String × α)) :
    insert k v (insert k v' entries) = insert k v entries := by
  induction entries with
  | nil => simp [insert]
  | cons entry rest ih =>
    obtain ⟨j, w⟩ := entry
    by_cases lt : k < j
    · simp [insert, lt]
    · by_cases eq : k = j
      · subst eq
        simp [insert]
      · simp [insert, lt, eq, ih]

theorem erase_comm (k k' : String) (entries : List (String × α)) :
    erase k (erase k' entries) = erase k' (erase k entries) := by
  simp only [erase, List.filter_filter, Bool.and_comm]

end Keyed

namespace Document

variable {β γ γ₁ γ₂ : Type}

/-- Two changes of document `d` that may be made in either order: each
answers the same whichever comes first, and the two leave the same
document. -/
def CommutesAt (F : Document → Document × β) (G : Document → Document × γ) (d : Document) : Prop :=
  (F (G d).1).2 = (F d).2 ∧ (G (F d).1).2 = (G d).2 ∧ (F (G d).1).1 = (G (F d).1).1

/-- Two changes of any document that may be made in either order. -/
def Commutes (F : Document → Document × β) (G : Document → Document × γ) : Prop :=
  ∀ d, CommutesAt F G d

/-- The entries a walk finds in a document: a mapping's, none in null. -/
def entries? : Document → Option Mapping
  | .object fields => some fields
  | .null => some []
  | _ => none

/-- How a walk along a route goes on at a hop: a strict walk only into a
non-null value, a creating walk into any value, a missing one read as null. -/
inductive Walk where
  | strict
  | creating
  deriving DecidableEq

/-- The value a walk goes on into under `key`, if it goes on. -/
def Walk.child? : Walk → Mapping → String → Option Document
  | .strict, fields, key => (Keyed.get? key fields).filter fun v => !v.isNull
  | .creating, fields, key => some ((Keyed.get? key fields).getD .null)

/-- A change made or refused at the end of a walk, as the walk answers it. -/
def walked (d : Document) : Except NavigateError (γ × Document) → Document × Except NavigateError (Option γ)
  | .ok (a, d') => (d', .ok (some a))
  | .error e => (d, .error e)

/-- Whether a walk's answer says it made its change. -/
def made : Except NavigateError (Option γ) → Bool
  | .ok (some _) => true
  | _ => false

@[simp] theorem made_some (a : γ) : made (.ok (some a) : Except NavigateError (Option γ)) = true := rfl

@[simp] theorem made_none : made (.ok none : Except NavigateError (Option γ)) = false := rfl

@[simp] theorem made_error (e : NavigateError) : made (.error e : Except NavigateError (Option γ)) = false := rfl

/-- Walks a route and changes the value at its end with `last`. A hop that is
not a mapping or null stops the walk; a strict walk that finds nothing to go
on into answers `none`. Every hop on the way gets the changed value back
under its key; a walk that made no change leaves the document as it was. -/
def walk (k : Walk) (last : Document → Except NavigateError (γ × Document)) :
    Route → Document → Document × Except NavigateError (Option γ)
  | [], d => walked d (last d)
  | hop :: rest, d =>
    match d.entries? with
    | none => (d, .error (.shapeMismatch hop.location d.shapeName))
    | some fields =>
      match k.child? fields hop.key with
      | none => (d, .ok none)
      | some child =>
        if made (walk k last rest child).2 then
          (.object (Keyed.insert hop.key (walk k last rest child).1 fields), (walk k last rest child).2)
        else (d, (walk k last rest child).2)

namespace Commutes

variable {β₁ β₂ : Type} {F F' : Document → Document × β} {G : Document → Document × γ}

theorem symm (h : Commutes F G) : Commutes G F := fun d => ⟨(h d).2.1, (h d).1, (h d).2.2.symm⟩

theorem const (b : β) (G : Document → Document × γ) : Commutes (fun d => (d, b)) G := fun _ => ⟨rfl, rfl, rfl⟩

/-- Making one change and then another, chosen by the first's answer,
commutes with what each of them commutes with. -/
theorem bind {F₁ : Document → Document × β₁} {F₂ : β₁ → Document → Document × β₂} (h₁ : Commutes F₁ G)
    (h₂ : ∀ b, Commutes (F₂ b) G) : Commutes (fun d => F₂ (F₁ d).2 (F₁ d).1) G := by
  intro d
  obtain ⟨answer₁, answer₂, same⟩ := h₁ d
  obtain ⟨answer₁', answer₂', same'⟩ := h₂ (F₁ d).2 (F₁ d).1
  refine ⟨?_, ?_, ?_⟩
  · change (F₂ (F₁ (G d).1).2 (F₁ (G d).1).1).2 = (F₂ (F₁ d).2 (F₁ d).1).2
    rw [answer₁, same, answer₁']
  · change (G (F₂ (F₁ d).2 (F₁ d).1).1).2 = (G d).2
    rw [answer₂', answer₂]
  · change (F₂ (F₁ (G d).1).2 (F₁ (G d).1).1).1 = (G (F₂ (F₁ d).2 (F₁ d).1).1).1
    rw [answer₁, same, same']

theorem congr (h : Commutes F G) (eq : ∀ d, F' d = F d) : Commutes F' G := by
  intro d
  simp only [CommutesAt, eq]
  exact h d

end Commutes

section Walks

variable {k : Walk} {last : Document → Except NavigateError (γ × Document)} {hop : Hop} {rest : Route}
  {d : Document} {fields : Mapping}

theorem walk_stop (hd : d.entries? = none) :
    walk k last (hop :: rest) d = (d, .error (.shapeMismatch hop.location d.shapeName)) := by
  simp [walk, hd]

theorem walk_absent (hd : d.entries? = some fields) (hc : k.child? fields hop.key = none) :
    walk k last (hop :: rest) d = (d, .ok none) := by
  simp [walk, hd, hc]

theorem walk_into {child : Document} (hd : d.entries? = some fields) (hc : k.child? fields hop.key = some child) :
    walk k last (hop :: rest) d =
      if made (walk k last rest child).2 then
        (.object (Keyed.insert hop.key (walk k last rest child).1 fields), (walk k last rest child).2)
      else (d, (walk k last rest child).2) := by
  simp [walk, hd, hc]

/-- A walk that made no change leaves the document as it was. -/
theorem walk_unmade : ∀ (route : Route) (d : Document), made (walk k last route d).2 = false →
    (walk k last route d).1 = d
  | [], d, h => by
    unfold walk walked at *
    split <;> simp_all [made]
  | hop :: rest, d, h => by
    cases hd : d.entries? with
    | none => rw [walk_stop hd]
    | some fields =>
      cases hc : k.child? fields hop.key with
      | none => rw [walk_absent hd hc]
      | some child =>
        rw [walk_into hd hc] at h ⊢
        split
        · simp_all
        · rfl

theorem walk_made_object (h : made (walk k last (hop :: rest) d).2 = true) :
    ∃ fields', (walk k last (hop :: rest) d).1 = .object fields' := by
  cases hd : d.entries? with
  | none => simp [walk_stop hd, made] at h
  | some fields =>
    cases hc : k.child? fields hop.key with
    | none => simp [walk_absent hd hc, made] at h
    | some child =>
      rw [walk_into hd hc] at h ⊢
      split
      · exact ⟨_, rfl⟩
      · simp_all

theorem child?_insert_of_ne (k : Walk) {key key' : String} (ne : key' ≠ key) (c : Document) (fields : Mapping) :
    k.child? (Keyed.insert key c fields) key' = k.child? fields key' := by
  cases k <;> simp [Walk.child?, Keyed.get?_insert_of_ne _ _ ne]

theorem child?_insert_self (k : Walk) (key : String) {c : Document} (present : c.isNull = false)
    (fields : Mapping) : k.child? (Keyed.insert key c fields) key = some c := by
  cases k <;> simp [Walk.child?, present]

theorem child?_agree {k₁ k₂ : Walk} {fields : Mapping} {key : String} {v₁ v₂ : Document}
    (h₁ : k₁.child? fields key = some v₁) (h₂ : k₂.child? fields key = some v₂) : v₁ = v₂ := by
  cases k₁ <;> cases k₂ <;> simp_all [Walk.child?]

theorem child?_none {k : Walk} {fields : Mapping} {key : String} (h : k.child? fields key = none) :
    k = .strict ∧ Walk.creating.child? fields key = some .null := by
  cases k <;> simp_all [Walk.child?]
  cases found : Keyed.get? key fields with
  | none => rfl
  | some v => cases v <;> simp_all [Document.isNull]

theorem mappingAt_of_entries {location : String} (hd : d.entries? = some fields) :
    mappingAt location d = .ok fields := by
  cases d <;> simp_all [entries?, mappingAt]

theorem mappingAt_of_no_entries {location : String} (hd : d.entries? = none) :
    mappingAt location d = .error (.shapeMismatch location d.shapeName) := by
  cases d <;> simp_all [entries?, mappingAt]

/-- Walks that part at their first hop, going into different keys, commute:
each reads only its own key of the entries there. -/
theorem walk_apart_keys (k₁ k₂ : Walk) (last₁ : Document → Except NavigateError (γ₁ × Document))
    (last₂ : Document → Except NavigateError (γ₂ × Document)) {h₁ h₂ : Hop} (ne : h₁.key ≠ h₂.key)
    (rest₁ rest₂ : Route) : Commutes (walk k₁ last₁ (h₁ :: rest₁)) (walk k₂ last₂ (h₂ :: rest₂)) := by
  intro d
  unfold CommutesAt
  cases hd : d.entries? with
  | none => simp [walk_stop hd]
  | some fields =>
    have entries : ∀ key c, (Document.object (Keyed.insert key c fields)).entries? = some (Keyed.insert key c fields) :=
      fun _ _ => rfl
    have other₁ : ∀ c, k₁.child? (Keyed.insert h₂.key c fields) h₁.key = k₁.child? fields h₁.key :=
      fun c => child?_insert_of_ne k₁ ne c fields
    have other₂ : ∀ c, k₂.child? (Keyed.insert h₁.key c fields) h₂.key = k₂.child? fields h₂.key :=
      fun c => child?_insert_of_ne k₂ (Ne.symm ne) c fields
    cases hc₁ : k₁.child? fields h₁.key with
    | none =>
      cases hc₂ : k₂.child? fields h₂.key with
      | none => simp [walk_absent hd hc₁, walk_absent hd hc₂]
      | some c₂ =>
        by_cases made₂ : made (walk k₂ last₂ rest₂ c₂).2 = true
        · simp [made₂, walk_absent (entries _ _) ((other₁ _).trans hc₁), walk_absent hd hc₁, walk_into hd hc₂]
        · simp [made₂, walk_absent hd hc₁, walk_into hd hc₂]
    | some c₁ =>
      cases hc₂ : k₂.child? fields h₂.key with
      | none =>
        by_cases made₁ : made (walk k₁ last₁ rest₁ c₁).2 = true
        · simp [made₁, walk_absent (entries _ _) ((other₂ _).trans hc₂), walk_absent hd hc₂, walk_into hd hc₁]
        · simp [made₁, walk_absent hd hc₂, walk_into hd hc₁]
      | some c₂ =>
        by_cases made₁ : made (walk k₁ last₁ rest₁ c₁).2 = true <;>
          by_cases made₂ : made (walk k₂ last₂ rest₂ c₂).2 = true
        · simp [made₁, made₂, walk_into (entries _ _) ((other₁ _).trans hc₁),
            walk_into (entries _ _) ((other₂ _).trans hc₂), walk_into hd hc₁, walk_into hd hc₂, Keyed.insert_comm ne]
        · simp [made₁, made₂, walk_into (entries _ _) ((other₂ _).trans hc₂), walk_into hd hc₁, walk_into hd hc₂]
        · simp [made₁, made₂, walk_into (entries _ _) ((other₁ _).trans hc₁), walk_into hd hc₁, walk_into hd hc₂]
        · simp [made₁, made₂, walk_into hd hc₁, walk_into hd hc₂]

theorem walk_strict_null (last : Document → Except NavigateError (γ × Document)) (hop : Hop) (rest : Route) :
    walk .strict last (hop :: rest) .null = (.null, .ok none) :=
  walk_absent rfl rfl

theorem walk_made_isNull (h : made (walk k last (hop :: rest) d).2 = true) :
    (walk k last (hop :: rest) d).1.isNull = false := by
  obtain ⟨fields', is⟩ := walk_made_object h
  rw [is]
  rfl

/-- Two walks that go on into the same value under a hop commute there when
the walks on from that value commute, and each leaves a value that is not
null when it makes its change. -/
theorem walk_both_into {k₁ k₂ : Walk} {last₁ : Document → Except NavigateError (γ₁ × Document)}
    {last₂ : Document → Except NavigateError (γ₂ × Document)} {hop : Hop} {R₁ R₂ : Route} {d v : Document}
    {fields : Mapping} (hd : d.entries? = some fields) (hc₁ : k₁.child? fields hop.key = some v)
    (hc₂ : k₂.child? fields hop.key = some v) (inner : CommutesAt (walk k₁ last₁ R₁) (walk k₂ last₂ R₂) v)
    (present₁ : made (walk k₁ last₁ R₁ v).2 = true → (walk k₁ last₁ R₁ v).1.isNull = false)
    (present₂ : made (walk k₂ last₂ R₂ v).2 = true → (walk k₂ last₂ R₂ v).1.isNull = false) :
    CommutesAt (walk k₁ last₁ (hop :: R₁)) (walk k₂ last₂ (hop :: R₂)) d := by
  unfold CommutesAt
  have entries : ∀ c, (Document.object (Keyed.insert hop.key c fields)).entries? =
      some (Keyed.insert hop.key c fields) := fun _ => rfl
  obtain ⟨answer₁, answer₂, same⟩ := inner
  by_cases made₁ : made (walk k₁ last₁ R₁ v).2 = true <;> by_cases made₂ : made (walk k₂ last₂ R₂ v).2 = true
  · simp [made₁, made₂, walk_into hd hc₁, walk_into hd hc₂,
      walk_into (entries _) (child?_insert_self k₁ hop.key (present₂ made₂) fields),
      walk_into (entries _) (child?_insert_self k₂ hop.key (present₁ made₁) fields), answer₁, answer₂, same]
  · simp [made₁, made₂, walk_into hd hc₁, walk_into hd hc₂,
      walk_into (entries _) (child?_insert_self k₂ hop.key (present₁ made₁) fields), answer₂]
  · simp [made₁, made₂, walk_into hd hc₁, walk_into hd hc₂,
      walk_into (entries _) (child?_insert_self k₁ hop.key (present₂ made₂) fields), answer₁]
  · simp [made₁, made₂, walk_into hd hc₁, walk_into hd hc₂]

/-- Two walks through the same hop commute when the walks on from there, past
at least one more hop, commute. They go on into the same value, or a strict
walk finds nothing where a creating walk goes on into null. -/
theorem walk_same_hop (k₁ k₂ : Walk) (last₁ : Document → Except NavigateError (γ₁ × Document))
    (last₂ : Document → Except NavigateError (γ₂ × Document)) (hop : Hop) {hop₁ hop₂ : Hop}
    {rest₁ rest₂ : Route} (inner : Commutes (walk k₁ last₁ (hop₁ :: rest₁)) (walk k₂ last₂ (hop₂ :: rest₂))) :
    Commutes (walk k₁ last₁ (hop :: hop₁ :: rest₁)) (walk k₂ last₂ (hop :: hop₂ :: rest₂)) := by
  intro d
  unfold CommutesAt
  cases hd : d.entries? with
  | none => simp [walk_stop hd]
  | some fields =>
    have back₁ : ∀ c, c.isNull = false →
        k₁.child? (Keyed.insert hop.key c fields) hop.key = some c := fun c present =>
      child?_insert_self k₁ hop.key present fields
    have back₂ : ∀ c, c.isNull = false →
        k₂.child? (Keyed.insert hop.key c fields) hop.key = some c := fun c present =>
      child?_insert_self k₂ hop.key present fields
    have entries : ∀ c, (Document.object (Keyed.insert hop.key c fields)).entries? =
        some (Keyed.insert hop.key c fields) := fun _ => rfl
    cases hc₁ : k₁.child? fields hop.key with
    | none =>
      obtain ⟨rfl, created⟩ := child?_none hc₁
      cases hc₂ : k₂.child? fields hop.key with
      | none => simp [walk_absent hd hc₁, walk_absent hd hc₂]
      | some c₂ =>
        -- a creating walk goes on into null, where the strict one finds nothing
        cases k₂ with
        | strict => simp_all
        | creating =>
          obtain rfl : c₂ = .null := Option.some.inj (hc₂.symm.trans created)
          have none₁ := (inner .null).1
          rw [walk_strict_null] at none₁
          by_cases made₂ : made (walk .creating last₂ (hop₂ :: rest₂) .null).2 = true
          · simp [made₂, walk_absent hd hc₁, walk_into hd hc₂, walk_into (entries _) (back₁ _ (walk_made_isNull made₂)),
              none₁]
          · simp [made₂, walk_absent hd hc₁, walk_into hd hc₂]
    | some c₁ =>
      cases hc₂ : k₂.child? fields hop.key with
      | none =>
        obtain ⟨rfl, created⟩ := child?_none hc₂
        cases k₁ with
        | strict => simp_all
        | creating =>
          obtain rfl : c₁ = .null := Option.some.inj (hc₁.symm.trans created)
          have none₂ := (inner .null).2.1
          rw [walk_strict_null] at none₂
          by_cases made₁ : made (walk .creating last₁ (hop₁ :: rest₁) .null).2 = true
          · simp [made₁, walk_absent hd hc₂, walk_into hd hc₁, walk_into (entries _) (back₂ _ (walk_made_isNull made₁)),
              none₂]
          · simp [made₁, walk_absent hd hc₂, walk_into hd hc₁]
      | some c₂ =>
        obtain rfl : c₁ = c₂ := child?_agree hc₁ hc₂
        exact walk_both_into hd hc₁ hc₂ (inner c₁) (fun made₁ => walk_made_isNull made₁)
          fun made₂ => walk_made_isNull made₂

/-- Walks that part after a shared stretch of route, into different keys,
commute. -/
theorem walk_diverge (k₁ k₂ : Walk) (last₁ : Document → Except NavigateError (γ₁ × Document))
    (last₂ : Document → Except NavigateError (γ₂ × Document)) {h₁ h₂ : Hop} (ne : h₁.key ≠ h₂.key)
    (rest₁ rest₂ : Route) : ∀ shared : Route,
      Commutes (walk k₁ last₁ (shared ++ h₁ :: rest₁)) (walk k₂ last₂ (shared ++ h₂ :: rest₂))
  | [] => walk_apart_keys k₁ k₂ last₁ last₂ ne rest₁ rest₂
  | [hop] => walk_same_hop k₁ k₂ last₁ last₂ hop (walk_apart_keys k₁ k₂ last₁ last₂ ne rest₁ rest₂)
  | hop :: hop' :: shared =>
    walk_same_hop k₁ k₂ last₁ last₂ hop (walk_diverge k₁ k₂ last₁ last₂ ne rest₁ rest₂ (hop' :: shared))

/-- A walk whose change at the end keeps a value that is not null leaves one
when it makes its change. -/
theorem walk_made_present (present : ∀ {d : Document} {a : γ} {d' : Document}, d.isNull = false →
      last d = .ok (a, d') → d'.isNull = false) :
    ∀ (R : Route) {v : Document}, v.isNull = false → made (walk k last R v).2 = true →
      (walk k last R v).1.isNull = false
  | [], v, notNull, h => by
    change made (walked v (last v)).2 = true at h
    change (walked v (last v)).1.isNull = false
    cases changed : last v with
    | ok r => exact present notNull changed
    | error e => exact notNull
  | _ :: _, _, _, h => walk_made_isNull h

/-- Two strict walks along the same route commute when their changes at the
end commute and keep a value that is not null. -/
theorem walk_same_route {last₁ : Document → Except NavigateError (γ₁ × Document)}
    {last₂ : Document → Except NavigateError (γ₂ × Document)}
    (ends : Commutes (fun d => walked d (last₁ d)) (fun d => walked d (last₂ d)))
    (present₁ : ∀ {d : Document} {a : γ₁} {d' : Document}, d.isNull = false → last₁ d = .ok (a, d') →
      d'.isNull = false)
    (present₂ : ∀ {d : Document} {a : γ₂} {d' : Document}, d.isNull = false → last₂ d = .ok (a, d') →
      d'.isNull = false) :
    ∀ R : Route, Commutes (walk .strict last₁ R) (walk .strict last₂ R)
  | [] => ends
  | hop :: R => by
    intro d
    cases hd : d.entries? with
    | none => simp [CommutesAt, walk_stop hd]
    | some fields =>
      cases hc : Walk.strict.child? fields hop.key with
      | none => simp [CommutesAt, walk_absent hd hc]
      | some v =>
        have notNull : v.isNull = false := by
          simp only [Walk.child?, Option.filter_eq_some_iff, Bool.not_eq_eq_eq_not, Bool.not_true] at hc
          exact hc.2
        exact walk_both_into hd hc hc (walk_same_route ends present₁ present₂ R v)
          (walk_made_present present₁ R notNull) (walk_made_present present₂ R notNull)

end Walks

/-- Materializing a route is a creating walk. -/
theorem walk_creating (final : String) (f : Mapping → Mapping) : ∀ (route : Route) (d : Document),
    walk .creating (fun doc => (mappingAt final doc).map fun m => (f m, .object (f m))) route d =
      walked d (materializeAlong final f route d)
  | [], d => by
    simp only [walk, materializeAlong]
    cases mappingAt final d <;> rfl
  | hop :: rest, d => by
    cases hd : d.entries? with
    | none => simp [walk_stop hd, materializeAlong, mappingAt_of_no_entries hd, walked]
    | some fields =>
      have hc : Walk.creating.child? fields hop.key = some ((Keyed.get? hop.key fields).getD .null) := rfl
      rw [walk_into hd hc, walk_creating final f rest, materializeAlong, mappingAt_of_entries hd]
      cases h : materializeAlong final f rest ((Keyed.get? hop.key fields).getD .null) with
      | ok r => simp [h, walked, made]
      | error e => simp [h, walked, made]

/-- A strict walk's answer when a hop holds nothing: the document as it was,
and no answer. -/
def leniently (d : Document) : Except NavigateError (γ × Document) → Document × Except NavigateError (Option γ)
  | .error (.pathNotFound _ _) => (d, .ok none)
  | r => walked d r

/-- Changing the value at the end of a route in place is a strict walk, a
missing hop read as no answer. -/
theorem walk_strict (g : Document → γ × Document) : ∀ (route : Route) (d : Document),
    walk .strict (fun node => .ok (g node)) route d = leniently d (modifyAlong (fun node => .ok (g node)) route d)
  | [], d => rfl
  | hop :: rest, d => by
    cases d with
    | object fields =>
      cases found : Keyed.get? hop.key fields with
      | none =>
        have hc : Walk.strict.child? fields hop.key = none := by simp [Walk.child?, found]
        simp [walk_absent (rfl : (Document.object fields).entries? = some fields) hc, modifyAlong, found, leniently]
      | some v =>
        cases nullV : v.isNull
        · have hc : Walk.strict.child? fields hop.key = some v := by simp [Walk.child?, found, nullV]
          rw [walk_into (rfl : (Document.object fields).entries? = some fields) hc, walk_strict g rest v]
          simp only [modifyAlong, found, nullV, Bool.false_eq_true, if_false]
          cases modifyAlong (fun node => .ok (g node)) rest v with
          | ok r => rfl
          | error e => cases e <;> rfl
        · have hc : Walk.strict.child? fields hop.key = none := by simp [Walk.child?, found, nullV]
          simp [walk_absent (rfl : (Document.object fields).entries? = some fields) hc, modifyAlong, found, nullV,
            leniently]
    | null => simp [walk, entries?, Walk.child?, modifyAlong, leniently]
    | _ => simp [walk, entries?, modifyAlong, leniently, walked]

end Document

theorem Apart.split : ∀ {p q : List String}, Apart p q →
    ∃ r a b p' q', a ≠ b ∧ p = r ++ a :: p' ∧ q = r ++ b :: q'
  | [], _, apart => absurd List.nil_prefix apart.1
  | _ :: _, [], apart => absurd List.nil_prefix apart.2
  | a :: p, b :: q, apart => by
    by_cases same : a = b
    · subst same
      obtain ⟨r, a', b', p', q', ne, rfl, rfl⟩ := Apart.split (Apart.cons_iff.mp apart)
      exact ⟨a :: r, a', b', p', q', ne, rfl, rfl⟩
    · exact ⟨[], a, b, p, q, same, rfl, rfl⟩

namespace Document

variable {β γ γ₁ γ₂ : Type}

/-- The routes to two apart paths share a stretch and then go into different
keys. -/
theorem route_diverge {p q : List String} (apart : Apart p q) :
    ∃ shared h₁ h₂ rest₁ rest₂, h₁.key ≠ h₂.key ∧ Route.ofPath .current p = shared ++ h₁ :: rest₁ ∧
      Route.ofPath .current q = shared ++ h₂ :: rest₂ := by
  obtain ⟨r, a, b, p', q', ne, rfl, rfl⟩ := apart.split
  refine ⟨Route.below .current [] r ++ [⟨"current", Path.place r "current"⟩, ⟨"state", Path.place r "state"⟩],
    ⟨a, Path.place r a⟩, ⟨b, Path.place r b⟩, Route.below .current (r ++ [a]) p',
    Route.below .current (r ++ [b]) q', ne, ?_, ?_⟩ <;>
    simp [Route.ofPath, Route.below_append, Route.below, Mode.hops]

theorem walk_apart (k₁ k₂ : Walk) (last₁ : Document → Except NavigateError (γ₁ × Document))
    (last₂ : Document → Except NavigateError (γ₂ × Document)) {p q : List String} (apart : Apart p q) :
    Commutes (walk k₁ last₁ (Route.ofPath .current p)) (walk k₂ last₂ (Route.ofPath .current q)) := by
  obtain ⟨shared, h₁, h₂, rest₁, rest₂, ne, hp, hq⟩ := route_diverge apart
  rw [hp, hq]
  exact walk_diverge k₁ k₂ last₁ last₂ ne rest₁ rest₂ shared

/-- A change made of walks to paths that `inside` holds of: it commutes with
every change that commutes with all such walks. -/
def Within (inside : List String → Prop) (F : Document → Document × β) : Prop :=
  ∀ {γ : Type} (G : Document → Document × γ),
    (∀ (k : Walk) {δ : Type} (last : Document → Except NavigateError (δ × Document)) (q : List String),
      inside q → Commutes (walk k last (Route.ofPath .current q)) G) → Commutes F G

namespace Within

variable {β₁ β₂ : Type} {inside inside' : List String → Prop} {F F' : Document → Document × β}

theorem walk (k : Walk) (last : Document → Except NavigateError (γ × Document)) {q : List String}
    (h : inside q) : Within inside (Document.walk k last (Route.ofPath .current q)) :=
  fun _ walks => walks k last q h

theorem const (b : β) : Within inside fun d => (d, b) := fun G _ => Commutes.const b G

theorem bind {F₁ : Document → Document × β₁} {F₂ : β₁ → Document → Document × β₂} (h₁ : Within inside F₁)
    (h₂ : ∀ b, Within inside (F₂ b)) : Within inside fun d => F₂ (F₁ d).2 (F₁ d).1 :=
  fun G walks => Commutes.bind (h₁ G walks) fun b => h₂ b G walks

theorem congr (h : Within inside F) (eq : ∀ d, F' d = F d) : Within inside F' :=
  fun G walks => (h G walks).congr eq

theorem mono (h : Within inside F) (sub : ∀ q, inside q → inside' q) : Within inside' F :=
  fun G walks => h G fun k _ last q hq => walks k last q (sub q hq)

/-- Changes made of walks to paths apart from one another commute. -/
theorem commutes {G : Document → Document × γ} (hF : Within inside F) (hG : Within inside' G)
    (apart : ∀ q q', inside q → inside' q' → Apart q q') : Commutes F G :=
  hF G fun k _ last q hq => (hG _ fun k' _ last' q' hq' => walk_apart k' k last' last (apart q q' hq hq').symm).symm

end Within

end Document

end Reconcile

namespace Reconcile

namespace Rebuild

open Document

variable {α : Type}

/-! ## Writes as walks -/

/-- Taking the entry `seg` out of the state of the node at `path`, as a strict
walk. -/
def takeWalk (path : List String) (seg : String) : Document → Document × Except NavigateError (Option (Option Document)) :=
  walk .strict (fun node => .ok (removeStateEntry seg node)) (Route.ofPath .current path)

/-- The entries after one take, given what the take answered: the entry taken
out, if any, goes in under its segment. -/
def tookEntry (n : Tree α) (entries : Mapping) (seg : String) :
    Except NavigateError (Option (Option Document)) → Except RebuildError Mapping
  | .ok taken => .ok (taken.join.elim entries fun entry => Keyed.insert seg entry entries)
  | .error e => .error (.navigation n.identity (Path.format n.path) e)

theorem takeStep_walk (n : Tree α) (entries : Mapping) (out : Document) {child : String × Tree α} {seg : String}
    (head : child.2.relative.head? = some seg) :
    takeStep n (.ok entries, out) child =
      (tookEntry n entries seg (takeWalk n.path seg out).2, (takeWalk n.path seg out).1) := by
  unfold takeStep takeEntry modifyAt
  rw [takeWalk, walk_strict]
  simp only [head]
  cases modifyAlong (fun node => .ok (removeStateEntry seg node)) (Route.ofPath .current n.path) out with
  | ok r =>
    obtain ⟨taken, out'⟩ := r
    cases taken <;> rfl
  | error e => cases e <;> rfl

theorem takeStep_within (n : Tree α) (child : String × Tree α) (acc : Except RebuildError Mapping) :
    Within (n.path <+: ·) fun out => ((takeStep n (acc, out) child).2, (takeStep n (acc, out) child).1) := by
  cases acc with
  | error e => exact Within.congr (Within.const (Except.error e : Except RebuildError Mapping)) fun out => rfl
  | ok entries =>
    cases head : child.2.relative.head? with
    | none =>
      exact Within.congr (Within.const (Except.ok entries : Except RebuildError Mapping)) fun out => by
        simp [takeStep, head]
    | some seg =>
      refine Within.congr (Within.bind (Within.walk .strict (fun node => .ok (removeStateEntry seg node))
        List.prefix_rfl) fun answer => Within.const (tookEntry n entries seg answer)) fun out => ?_
      rw [takeStep_walk n entries out head]
      rfl

theorem foldl_takeStep_within (n : Tree α) : ∀ (cs : List (String × Tree α)) (acc : Except RebuildError Mapping),
    Within (n.path <+: ·) fun out => ((cs.foldl (takeStep n) (acc, out)).2, (cs.foldl (takeStep n) (acc, out)).1)
  | [], acc => Within.const acc
  | c :: cs, acc =>
    Within.congr (Within.bind (takeStep_within n c acc) fun acc' => foldl_takeStep_within n cs acc') fun _ => rfl

/-- The failure a write reports when it cannot materialize its entry or its
record. -/
def placeFailure (identity place : String) : Except NavigateError (Option Mapping) → Option RebuildError
  | .error e => some (.navigation identity place e)
  | _ => none

/-- An entry write once the children's entries are taken out: it writes the
agent records into the entries, then the fresh entry at the node's path. -/
def afterTakes (n : Tree α) (tags : RecordTags) (changes : List AgentChange) :
    Except RebuildError Mapping → Document → Document × Option RebuildError
  | .error e, out => (out, some e)
  | .ok entries, out =>
    match (if changes.isEmpty then .ok entries else applyAgentChanges n tags entries changes) with
    | .error e => (out, some e)
    | .ok entries =>
      match out.materialize n.path .current (freshEntry n entries) with
      | .ok (_, out') => (out', none)
      | .error e => (out, some (.navigation n.identity (Path.format n.path) e))

theorem writeNode_afterTakes {n : Tree α} {tags : RecordTags} {changes : List AgentChange} {st : Payload}
    {doc : Document} {own : Mapping} (state : n.state = some st) (encoded : st.encode = .ok doc)
    (entries : stateEntries n doc = .ok own) (out : Document) :
    writeNode n tags changes out = afterTakes n tags changes (takeChildren n own out).1 (takeChildren n own out).2 := by
  unfold writeNode
  simp only [state, encoded, entries]
  rcases takeChildren n own out with ⟨_ | _, out₁⟩ <;> rfl

/-- The walk that materializes `path` and changes the mapping there with `f`. -/
def materializeWalk (path : List String) (f : Mapping → Mapping) :
    Document → Document × Except NavigateError (Option Mapping) :=
  walk .creating (fun doc => (mappingAt (Path.format path) doc).map fun m => (f m, .object (f m)))
    (Route.ofPath .current path)

theorem materializeWalk_within {inside : List String → Prop} {path : List String} (f : Mapping → Mapping)
    (h : inside path) : Within inside (materializeWalk path f) :=
  Within.walk .creating _ h

theorem afterTakes_within (n : Tree α) (tags : RecordTags) (changes : List AgentChange)
    (taken : Except RebuildError Mapping) : Within (n.path <+: ·) (afterTakes n tags changes taken) := by
  cases taken with
  | error e => exact Within.congr (Within.const (some e)) fun out => rfl
  | ok entries =>
    generalize agents : (if changes.isEmpty then .ok entries else applyAgentChanges n tags entries changes) =
      withAgents
    cases withAgents with
    | error e => exact Within.congr (Within.const (some e)) fun out => by simp only [afterTakes, agents]
    | ok entries' =>
      refine Within.congr (Within.bind (materializeWalk_within (freshEntry n entries') List.prefix_rfl) fun answer =>
        Within.const (placeFailure n.identity (Path.format n.path) answer)) fun out => ?_
      simp only [afterTakes, agents, materializeWalk, walk_creating]
      unfold materialize
      cases materializeAlong (Path.format n.path) (freshEntry n entries') (Route.ofPath .current n.path) out <;> rfl

/-- An entry write is made of walks at and below its node's path. -/
theorem writeNode_within (n : Tree α) (tags : RecordTags) (changes : List AgentChange) :
    Within (n.path <+: ·) (writeNode n tags changes) := by
  cases state : n.state with
  | none => exact Within.congr (Within.const none) fun out => by simp [writeNode, state]
  | some st =>
    cases encoded : st.encode with
    | error e =>
      exact Within.congr (Within.const (some (RebuildError.serialize n.identity (Path.format n.path) e))) fun out => by
        simp [writeNode, state, encoded]
    | ok doc =>
      cases entries : stateEntries n doc with
      | error e => exact Within.congr (Within.const (some e)) fun out => by simp [writeNode, state, encoded, entries]
      | ok own =>
        exact Within.congr (Within.bind (foldl_takeStep_within n n.children (.ok own)) fun taken =>
          afterTakes_within n tags changes taken) fun out => by
            rw [writeNode_afterTakes state encoded entries, takeChildren_eq]

theorem perform_record_within (tags : RecordTags) (n : Tree α) (c : AgentChange) :
    Within (n.path <+: ·) ((Write.record n c).perform tags) := by
  cases relative : agentRelative n c with
  | error e =>
    exact Within.congr (Within.const (some e)) fun out => by simp [Write.perform, writeAgentRecord, relative]
  | ok r =>
    refine Within.congr (Within.bind (materializeWalk_within (fun _ => tags.record c.spec c.observed)
      (agentRelative_eq_ok.mp relative).1) fun answer =>
        Within.const (placeFailure n.identity (Path.format c.path) answer)) fun out => ?_
    simp only [Write.perform, writeAgentRecord, relative, materializeWalk, walk_creating]
    unfold materialize
    cases materializeAlong (Path.format c.path) (fun _ => tags.record c.spec c.observed) (Route.ofPath .current c.path)
      out <;> rfl

theorem perform_within (tags : RecordTags) : ∀ w : Write α, Within (w.node.path <+: ·) (w.perform tags)
  | .entry n => writeNode_within n tags n.queue.changes
  | .record n c => perform_record_within tags n c

theorem run_within (tags : RecordTags) : ∀ ws : List (Write α),
    Within (fun q => ∃ w ∈ ws, w.node.path <+: q) (run tags ws)
  | [] => Within.const []
  | w :: ws =>
    Within.congr (Within.bind (Within.mono (perform_within tags w) fun _ below => ⟨w, List.mem_cons_self, below⟩)
      fun failure => Within.bind (Within.mono (run_within tags ws) fun _ ⟨w', mem, below⟩ =>
        ⟨w', List.mem_cons_of_mem _ mem, below⟩) fun log => Within.const ((w, failure) :: log)) fun _ => rfl

/-- Two runs of writes whose nodes lie apart from one another may be made in
either order: they leave the same document and log the same writes with the
same failures. -/
theorem run_append_comm (tags : RecordTags) {ws₁ ws₂ : List (Write α)}
    (apart : ∀ w₁ ∈ ws₁, ∀ w₂ ∈ ws₂, Apart w₁.node.path w₂.node.path) (out : Document) :
    (run tags (ws₁ ++ ws₂) out).1 = (run tags (ws₂ ++ ws₁) out).1 ∧
      (run tags (ws₁ ++ ws₂) out).2.Perm (run tags (ws₂ ++ ws₁) out).2 := by
  obtain ⟨first, second, same⟩ := Within.commutes (run_within tags ws₁) (run_within tags ws₂)
    (fun _ _ ⟨w₁, m₁, p₁⟩ ⟨w₂, m₂, p₂⟩ => (apart w₁ m₁ w₂ m₂).below p₁ p₂) out
  rw [run_append, run_append]
  refine ⟨same.symm, ?_⟩
  simp only [first, second]
  exact List.perm_append_comm

/-! ## Takes at one node -/

/-- Taking two different entries out of a node document gives the same in
either order. -/
theorem removeStateEntry_comm {a b : String} (ne : a ≠ b) (node : Document) :
    (removeStateEntry a (removeStateEntry b node).2).1 = (removeStateEntry a node).1 ∧
      (removeStateEntry b (removeStateEntry a node).2).1 = (removeStateEntry b node).1 ∧
      (removeStateEntry a (removeStateEntry b node).2).2 = (removeStateEntry b (removeStateEntry a node).2).2 := by
  cases node
  case object fields =>
    cases current : Keyed.get? "current" fields with
    | none => simp [removeStateEntry, current]
    | some cur =>
      cases cur
      case object cur =>
        cases state : Keyed.get? "state" cur with
        | none => simp [removeStateEntry, current, state]
        | some st =>
          cases st
          case object st =>
            cases hb : Keyed.get? b st <;> cases ha : Keyed.get? a st <;>
              simp [removeStateEntry, current, state, ha, hb, Keyed.get?_erase_of_ne _ ne,
                Keyed.get?_erase_of_ne _ (Ne.symm ne), Keyed.erase_comm a b]
          all_goals simp [removeStateEntry, current, state]
      all_goals simp [removeStateEntry, current]
  all_goals simp [removeStateEntry]

theorem removeStateEntry_isNull (seg : String) (node : Document) :
    (removeStateEntry seg node).2.isNull = node.isNull := by
  unfold removeStateEntry
  split
  · repeat' split
    all_goals rfl
  · rfl

/-- Strict walks along one route, whose changes at the end never fail, fail
alike: the failure comes from the route alone. -/
theorem walk_strict_error {γ₁ γ₂ : Type} {last₁ : Document → Except NavigateError (γ₁ × Document)}
    {last₂ : Document → Except NavigateError (γ₂ × Document)} (total₁ : ∀ d e, last₁ d ≠ .error e) :
    ∀ (R : Route) (d : Document) {e : NavigateError}, (walk .strict last₁ R d).2 = .error e →
      (walk .strict last₂ R d).2 = .error e
  | [], d, e, h => by
    change (walked d (last₁ d)).2 = .error e at h
    cases h₁ : last₁ d with
    | ok r => simp [h₁, walked] at h
    | error e' => exact absurd h₁ (total₁ d e')
  | hop :: R, d, e, h => by
    cases hd : d.entries? with
    | none => rw [walk_stop hd] at h ⊢; simpa using h
    | some fields =>
      cases hc : Walk.strict.child? fields hop.key with
      | none => simp [walk_absent hd hc] at h
      | some v =>
        rw [walk_into hd hc] at h ⊢
        have inner : (walk .strict last₁ R v).2 = .error e := by
          split at h <;> exact h
        have inner' : (walk .strict last₂ R v).2 = .error e := walk_strict_error total₁ R v inner
        split <;> exact inner'

/-- Two children's takes give the same in either order. -/
theorem takeStep_comm (n : Tree α) (a b : String × Tree α) (acc : Except RebuildError Mapping × Document) :
    takeStep n (takeStep n acc a) b = takeStep n (takeStep n acc b) a := by
  obtain ⟨acc, out⟩ := acc
  have idle : ∀ c : String × Tree α, c.2.relative.head? = none → ∀ w, takeStep n w c = w := by
    intro c head w
    obtain ⟨_ | _, _⟩ := w <;> simp [takeStep, head]
  cases acc with
  | error e => rfl
  | ok entries =>
    cases ha : a.2.relative.head? with
    | none => rw [idle a ha, idle a ha]
    | some sa =>
      cases hb : b.2.relative.head? with
      | none => rw [idle b hb, idle b hb]
      | some sb =>
        by_cases same : sa = sb
        · have alike : ∀ w, takeStep n w a = takeStep n w b := by
            intro w
            obtain ⟨_ | _, _⟩ := w <;> simp [takeStep, ha, hb, same]
          simp only [alike]
        · -- the two takes commute at the node, hence along its route
          have ends : Commutes (fun d => walked d (.ok (removeStateEntry sa d) : Except NavigateError _))
              (fun d => walked d (.ok (removeStateEntry sb d))) := fun d =>
            ⟨by simp [walked, (removeStateEntry_comm same d).1],
              by simp [walked, (removeStateEntry_comm same d).2.1],
              by simp [walked, (removeStateEntry_comm same d).2.2]⟩
          have keeps : ∀ (seg : String) {d : Document} {a : Option Document} {d' : Document}, d.isNull = false →
              (.ok (removeStateEntry seg d) : Except NavigateError _) = .ok (a, d') → d'.isNull = false := by
            intro seg d a d' notNull taken
            obtain rfl : (removeStateEntry seg d).2 = d' := congrArg Prod.snd (Except.ok.inj taken)
            rw [removeStateEntry_isNull]
            exact notNull
          obtain ⟨answerA, answerB, sameDoc⟩ := walk_same_route ends (keeps sa) (keeps sb)
            (Route.ofPath .current n.path) out
          have answerA : (takeWalk n.path sa (takeWalk n.path sb out).1).2 = (takeWalk n.path sa out).2 := answerA
          have answerB : (takeWalk n.path sb (takeWalk n.path sa out).1).2 = (takeWalk n.path sb out).2 := answerB
          have sameDoc : (takeWalk n.path sa (takeWalk n.path sb out).1).1 =
              (takeWalk n.path sb (takeWalk n.path sa out).1).1 := sameDoc
          have total : ∀ (seg : String) (d : Document) (e : NavigateError),
              (.ok (removeStateEntry seg d) : Except NavigateError _) ≠ .error e := by
            intro _ _ _ h
            cases h
          rw [takeStep_walk n entries out ha, takeStep_walk n entries out hb]
          cases takenA : (takeWalk n.path sa out).2 with
          | error e =>
            -- the route fails for both takes, and neither changes the document
            have takenB : (takeWalk n.path sb out).2 = .error e := walk_strict_error (total sa) _ out takenA
            have keptA : (takeWalk n.path sa out).1 = out :=
              walk_unmade _ out (show made (takeWalk n.path sa out).2 = false by rw [takenA]; rfl)
            have keptB : (takeWalk n.path sb out).1 = out :=
              walk_unmade _ out (show made (takeWalk n.path sb out).2 = false by rw [takenB]; rfl)
            simp [takeStep, tookEntry, takenB, keptA, keptB]
          | ok oa =>
            cases takenB : (takeWalk n.path sb out).2 with
            | error e =>
              have : (takeWalk n.path sa out).2 = .error e := walk_strict_error (total sb) _ out takenB
              rw [takenA] at this
              cases this
            | ok ob =>
              rw [tookEntry, tookEntry, takeStep_walk n _ _ hb, takeStep_walk n _ _ ha, answerA, answerB, takenA,
                takenB, tookEntry, tookEntry, sameDoc]
              rcases oa with _ | _ | ea <;> rcases ob with _ | _ | eb <;> simp [Keyed.insert_comm (Ne.symm same)]

theorem takeChildren_perm {n : Tree α} {cs : List (String × Tree α)} (perm : cs.Perm n.children)
    (entries : Mapping) (out : Document) :
    takeChildren { n with children := cs } entries out = takeChildren n entries out := by
  rw [takeChildren_eq, takeChildren_eq]
  exact perm.foldl_eq' (fun a _ b _ acc => takeStep_comm n a b acc) _

/-- A node's entry write is the same in any order of its children. -/
theorem writeNode_perm {n : Tree α} {cs : List (String × Tree α)} (perm : cs.Perm n.children)
    (tags : RecordTags) (changes : List AgentChange) (out : Document) :
    writeNode { n with children := cs } tags changes out = writeNode n tags changes out := by
  unfold writeNode
  simp only [takeChildren_perm perm]
  rfl

end Rebuild

end Reconcile
