import Reconcile.Proofs.Commute

/-!
# Documents in normal form

A keyed list is sorted when its keys increase strictly; `Keyed.insert` keeps
that, and in a sorted list the value stored under a key determines the whole
list (`Sorted.ext`), so storing a value that is already there changes nothing
(`insert_of_get?`). A document is normal when every mapping in it, at any
depth, is sorted: the documents the program reads and writes are.

`setAt` replaces the value at a position. A walk that finds a value at its
position sets what its last step makes of it (`walk_found`), which gives
modification and materialization at a position that exists. In a normal
document, setting the value a position already holds is no change
(`setAt_self`): a second write of what a first wrote leaves the document as
it was.
-/

namespace Reconcile

namespace Keyed

variable {α : Type} {k : String} {v : α}

/-- The keys increase strictly along the list. -/
def Sorted (entries : List (String × α)) : Prop := entries.Pairwise fun a b => a.1 < b.1

@[simp] theorem sorted_nil : Sorted ([] : List (String × α)) := List.Pairwise.nil

theorem sorted_cons {e : String × α} {rest : List (String × α)} :
    Sorted (e :: rest) ↔ (∀ e' ∈ rest, e.1 < e'.1) ∧ Sorted rest :=
  List.pairwise_cons

theorem mem_of_get? : ∀ {entries : List (String × α)}, get? k entries = some v → (k, v) ∈ entries
  | [], h => by simp at h
  | (j, w) :: rest, h => by
    rw [get?_cons] at h
    split at h
    · rename_i same
      cases h
      simp [same]
    · exact List.mem_cons_of_mem _ (mem_of_get? h)

theorem mem_insert {e : String × α} : ∀ {entries : List (String × α)},
    e ∈ insert k v entries → e = (k, v) ∨ e ∈ entries
  | [], h => by simpa [insert] using h
  | (j, w) :: rest, h => by
    unfold insert at h
    split at h
    · simpa using h
    · split at h
      · rcases List.mem_cons.mp h with rfl | later
        · exact .inl rfl
        · exact .inr (List.mem_cons_of_mem _ later)
      · rcases List.mem_cons.mp h with rfl | later
        · exact .inr List.mem_cons_self
        · exact (mem_insert later).imp_right (List.mem_cons_of_mem _)

theorem Sorted.insert {entries : List (String × α)} (sorted : Sorted entries) (k : String) (v : α) :
    Sorted (insert k v entries) := by
  induction entries with
  | nil => simp [Keyed.insert, Sorted]
  | cons e rest ih =>
    obtain ⟨j, w⟩ := e
    obtain ⟨least, sortedRest⟩ := sorted_cons.mp sorted
    unfold Keyed.insert
    split
    · rename_i lt
      exact sorted_cons.mpr ⟨fun e' mem => (List.mem_cons.mp mem).elim (· ▸ lt)
        fun later => lt.trans (least e' later), sorted⟩
    · split
      · rename_i same
        subst same
        exact sorted_cons.mpr ⟨least, sortedRest⟩
      · rename_i notLt ne
        have gt : j < k := lt_of_le_of_ne (not_lt.mp notLt) (Ne.symm ne)
        refine sorted_cons.mpr ⟨fun e' mem => ?_, ih sortedRest⟩
        rcases mem_insert mem with rfl | old
        · exact gt
        · exact least e' old

theorem Sorted.erase {entries : List (String × α)} (sorted : Sorted entries) (k : String) :
    Sorted (erase k entries) :=
  List.Pairwise.filter _ sorted

theorem get?_tail_eq_none {j : String} {w : α} {rest : List (String × α)} (sorted : Sorted ((j, w) :: rest))
    (le : k ≤ j) : get? k rest = none := by
  cases found : get? k rest with
  | none => rfl
  | some u =>
    have after := (sorted_cons.mp sorted).1 _ (mem_of_get? found)
    exact absurd (lt_of_le_of_lt le after) (lt_irrefl k)

/-- Storing the value a sorted list already holds under a key changes
nothing. -/
theorem insert_of_get? : ∀ {entries : List (String × α)}, Sorted entries → get? k entries = some v →
    insert k v entries = entries
  | [], _, h => by simp at h
  | (j, w) :: rest, sorted, h => by
    rw [get?_cons] at h
    by_cases same : j = k
    · subst same
      simp only [if_pos] at h
      cases h
      simp [Keyed.insert]
    · rw [if_neg same] at h
      have gt : j < k := (sorted_cons.mp sorted).1 _ (mem_of_get? h)
      simp [Keyed.insert, not_lt_of_gt gt, Ne.symm same, insert_of_get? (sorted_cons.mp sorted).2 h]

/-- A sorted list is determined by what it stores under each key. -/
theorem Sorted.ext : ∀ {l l' : List (String × α)}, Sorted l → Sorted l' →
    (∀ k, get? k l = get? k l') → l = l'
  | [], [], _, _, _ => rfl
  | [], (j, w) :: _, _, _, same => by simpa [get?_cons] using same j
  | (j, w) :: _, [], _, _, same => by simpa [get?_cons] using same j
  | (j, w) :: rest, (j', w') :: rest', sorted, sorted', same => by
    -- the smaller first key would be missing from the other list
    rcases lt_trichotomy j j' with lt | rfl | gt
    · have missing := get?_tail_eq_none sorted' lt.le
      have := same j
      simp [get?_cons, ne_of_gt lt, missing] at this
    · have head : w = w' := by simpa [get?_cons] using same j
      subst head
      refine congrArg _ (Sorted.ext (sorted_cons.mp sorted).2 (sorted_cons.mp sorted').2 fun k => ?_)
      by_cases here : j = k
      · subst here
        rw [get?_tail_eq_none sorted le_rfl, get?_tail_eq_none sorted' le_rfl]
      · simpa [get?_cons, here] using same k
    · have missing := get?_tail_eq_none sorted gt.le
      have := same j'
      simp [get?_cons, ne_of_gt gt, missing] at this

end Keyed

namespace Document

/-- Every mapping of the document, at any depth, keeps its keys in strictly
increasing order. -/
inductive Normal : Document → Prop
  | null : Normal .null
  | bool (b : Bool) : Normal (.bool b)
  | number (n : Number) : Normal (.number n)
  | string (s : String) : Normal (.string s)
  | array {items : List Document} : (∀ v ∈ items, Normal v) → Normal (.array items)
  | object {fields : Mapping} : Keyed.Sorted fields → (∀ e ∈ fields, Normal e.2) → Normal (.object fields)

namespace Normal

variable {fields : Mapping} {k : String} {v : Document}

theorem sorted (h : Normal (.object fields)) : Keyed.Sorted fields := by
  cases h with
  | object sorted _ => exact sorted

theorem entry (h : Normal (.object fields)) : ∀ e ∈ fields, Normal e.2 := by
  cases h with
  | object _ entries => exact entries

theorem get? (h : Normal (.object fields)) (found : Keyed.get? k fields = some v) : Normal v :=
  h.entry _ (Keyed.mem_of_get? found)

theorem getD (h : Normal (.object fields)) (k : String) : Normal ((Keyed.get? k fields).getD .null) := by
  cases found : Keyed.get? k fields with
  | none => exact .null
  | some v => exact h.get? found

theorem insert (h : Normal (.object fields)) (hv : Normal v) : Normal (.object (Keyed.insert k v fields)) :=
  .object (h.sorted.insert k v) fun e mem => (Keyed.mem_insert mem).elim (· ▸ hv) (h.entry e)

theorem erase (h : Normal (.object fields)) (k : String) : Normal (.object (Keyed.erase k fields)) :=
  .object (h.sorted.erase k) fun e mem => h.entry e (List.mem_of_mem_filter mem)

theorem empty : Normal Document.empty := .object Keyed.sorted_nil fun _ mem => absurd mem List.not_mem_nil

theorem singleton (hv : Normal v) : Normal (.object [(k, v)]) :=
  .object (by simp [Keyed.Sorted]) (by simp only [List.mem_singleton, forall_eq]; exact hv)

theorem valueAt : ∀ {d : Document} {ks : List String}, Normal d → d.valueAt ks = some v → Normal v
  | d, [], h, at_ => by
    simp only [valueAt_nil, Option.some.injEq] at at_
    exact at_ ▸ h
  | .object fields, k :: ks, h, at_ => by
    simp only [valueAt_object_cons] at at_
    cases found : Keyed.get? k fields with
    | none => simp [found] at at_
    | some w =>
      rw [found, Option.bind_some] at at_
      exact (h.get? found).valueAt at_
  | .null, _ :: _, _, at_ | .bool _, _ :: _, _, at_ | .number _, _ :: _, _, at_ | .string _, _ :: _, _, at_
  | .array _, _ :: _, _, at_ => by simp [Document.valueAt] at at_

theorem entries? {d : Document} (h : Normal d) (found : d.entries? = some fields) :
    Normal (.object fields) := by
  cases d with
  | object fs =>
    cases found
    exact h
  | null =>
    cases found
    exact empty
  | _ => cases found

end Normal

/-! ## Setting the value at a position -/

/-- The document with the value at keys `ks` replaced by `v`: every mapping
on the way gets the changed value back under its key, a missing key reading
as null; a position below anything but a mapping is left as it is. -/
def setAt : Document → List String → Document → Document
  | _, [], v => v
  | .object fields, k :: ks, v => .object (Keyed.insert k (((Keyed.get? k fields).getD .null).setAt ks v) fields)
  | d, _ :: _, _ => d

@[simp] theorem setAt_nil (d v : Document) : d.setAt [] v = v := by
  cases d <;> rfl

@[simp] theorem setAt_object_cons (fields : Mapping) (k : String) (ks : List String) (v : Document) :
    (Document.object fields).setAt (k :: ks) v =
      .object (Keyed.insert k (((Keyed.get? k fields).getD .null).setAt ks v) fields) := rfl

@[simp] theorem setAt_setAt : ∀ (d : Document) (ks : List String) (v w : Document),
    (d.setAt ks v).setAt ks w = d.setAt ks w
  | d, [], v, w => by simp
  | .object fields, k :: ks, v, w => by simp [setAt_setAt]
  | .null, _ :: _, _, _ | .bool _, _ :: _, _, _ | .number _, _ :: _, _, _ | .string _, _ :: _, _, _
  | .array _, _ :: _, _, _ => rfl

/-- Where a position holds a value, setting it there makes it the value
held. -/
theorem valueAt_setAt : ∀ {d : Document} {ks : List String} {u : Document}, d.valueAt ks = some u →
    ∀ v, (d.setAt ks v).valueAt ks = some v
  | d, [], u, _, v => by simp
  | .object fields, k :: ks, u, at_, v => by
    simp only [valueAt_object_cons] at at_
    cases found : Keyed.get? k fields with
    | none => simp [found] at at_
    | some w =>
      rw [found, Option.bind_some] at at_
      simp [found, valueAt_setAt at_ v]
  | .null, _ :: _, _, at_, _ | .bool _, _ :: _, _, at_, _ | .number _, _ :: _, _, at_, _
  | .string _, _ :: _, _, at_, _ | .array _, _ :: _, _, at_, _ => by simp [Document.valueAt] at at_

/-- In a normal document, setting the value a position already holds changes
nothing. -/
theorem setAt_self : ∀ {d : Document} {ks : List String} {v : Document}, d.Normal → d.valueAt ks = some v →
    d.setAt ks v = d
  | d, [], v, _, at_ => by simpa using at_.symm
  | .object fields, k :: ks, v, normal, at_ => by
    simp only [valueAt_object_cons] at at_
    cases found : Keyed.get? k fields with
    | none => simp [found] at at_
    | some w =>
      rw [found, Option.bind_some] at at_
      rw [setAt_object_cons, found, Option.getD_some, setAt_self (normal.get? found) at_,
        Keyed.insert_of_get? normal.sorted found]
  | .null, _ :: _, _, _, at_ | .bool _, _ :: _, _, _, at_ | .number _, _ :: _, _, _, at_
  | .string _, _ :: _, _, _, at_ | .array _, _ :: _, _, _, at_ => by simp [Document.valueAt] at at_

theorem Normal.setAt : ∀ {d : Document} (ks : List String) {v : Document}, d.Normal → v.Normal →
    (d.setAt ks v).Normal
  | d, [], v, _, hv => by simpa using hv
  | .object fields, k :: ks, v, normal, hv => by
    rw [setAt_object_cons]
    exact normal.insert (Normal.setAt ks (normal.getD k) hv)
  | .null, _ :: _, _, normal, _ | .bool _, _ :: _, _, normal, _ | .number _, _ :: _, _, normal, _
  | .string _, _ :: _, _, normal, _ | .array _, _ :: _, _, normal, _ => normal

/-! ## Walks to a position that exists -/

section Found

variable {γ : Type} {k : Walk} {last : Document → Except NavigateError (γ × Document)}

theorem isNull_of_valueAt_cons {d v : Document} {key : String} {ks : List String}
    (at_ : d.valueAt (key :: ks) = some v) : d.isNull = false := by
  cases d <;> simp_all [Document.valueAt, isNull]

/-- A walk to a position that holds a value, not null for a strict walk, sets
there what its last step makes of the value, and answers the step's answer. -/
theorem walk_found : ∀ (route : Route) (d : Document) {v : Document} {a : γ} {v' : Document},
    d.valueAt (route.map Hop.key) = some v → (k = .strict → v.isNull = false) → last v = .ok (a, v') →
      walk k last route d = (d.setAt (route.map Hop.key) v', .ok (some a))
  | [], d, v, a, v', at_, _, made => by
    simp only [List.map_nil, valueAt_nil, Option.some.injEq] at at_
    subst at_
    simp [walk, walked, made]
  | hop :: rest, .object fields, v, a, v', at_, notNull, made => by
    simp only [List.map_cons, valueAt_object_cons] at at_
    cases found : Keyed.get? hop.key fields with
    | none => simp [found] at at_
    | some child =>
      rw [found, Option.bind_some] at at_
      -- a strict walk goes on only into a value that is not null
      have goesOn : k.child? fields hop.key = some child := by
        cases k with
        | creating => simp [Walk.child?, found]
        | strict =>
          have present : child.isNull = false := by
            cases rest with
            | nil =>
              simp only [List.map_nil, valueAt_nil, Option.some.injEq] at at_
              exact at_ ▸ notNull rfl
            | cons hop' rest' => exact isNull_of_valueAt_cons at_
          simp [Walk.child?, found, present]
      rw [walk_into rfl goesOn, walk_found rest child at_ notNull made]
      simp [found]
  | _ :: _, .null, _, _, _, at_, _, _ | _ :: _, .bool _, _, _, _, at_, _, _
  | _ :: _, .number _, _, _, _, at_, _, _ | _ :: _, .string _, _, _, _, at_, _, _
  | _ :: _, .array _, _, _, _, at_, _, _ => by simp [Document.valueAt] at at_

end Found

theorem Normal.child? {k : Walk} {fields : Mapping} {key : String} {c : Document} (h : Normal (.object fields))
    (found : k.child? fields key = some c) : c.Normal := by
  cases k with
  | strict =>
    simp only [Walk.child?, Option.filter_eq_some_iff] at found
    exact h.get? found.1
  | creating =>
    simp only [Walk.child?, Option.some.injEq] at found
    exact found ▸ h.getD key

/-- A walk whose last step keeps values normal keeps a normal document
normal, and answers what the last step answers of a normal value. -/
theorem Normal.walk {γ : Type} {k : Walk} {last : Document → Except NavigateError (γ × Document)}
    {P : γ → Prop} (step : ∀ {v a v'}, v.Normal → last v = .ok (a, v') → v'.Normal ∧ P a) :
    ∀ (route : Route) {d : Document}, d.Normal →
      (walk k last route d).1.Normal ∧ ∀ a, (walk k last route d).2 = .ok (some a) → P a
  | [], d, normal => by
    cases made : last d with
    | ok r =>
      obtain ⟨a, v'⟩ := r
      simp only [Document.walk, walked, made, Except.ok.injEq, Option.some.injEq, forall_eq']
      exact step normal made
    | error e => simp [Document.walk, walked, made, normal]
  | hop :: rest, d, normal => by
    cases hd : d.entries? with
    | none => simp [walk_stop hd, normal]
    | some fields =>
      cases hc : k.child? fields hop.key with
      | none => simp [walk_absent hd hc, normal]
      | some child =>
        have below := Normal.walk (k := k) step rest ((normal.entries? hd).child? hc)
        rw [walk_into hd hc]
        split
        · exact ⟨(normal.entries? hd).insert below.1, below.2⟩
        · exact ⟨normal, below.2⟩

/-- Changing in place a value that is there and not null sets the changed
value at its position. -/
theorem modifyAt_found {γ : Type} {g : Document → γ × Document} {d v : Document} {path : List String}
    {mode : Mode} (at_ : d.valueAt (mode.keysOf path) = some v) (notNull : v.isNull = false) :
    d.modifyAt path mode (fun node => .ok (g node)) = .ok ((g v).1, d.setAt (mode.keysOf path) (g v).2) := by
  have walked := walk_strict g (Route.ofPath mode path) d
  rw [walk_found (Route.ofPath mode path) d (by rwa [Route.ofPath, below_keys]) (fun _ => notNull) rfl,
    Route.ofPath, below_keys] at walked
  unfold modifyAt
  rw [Route.ofPath]
  revert walked
  cases modifyAlong (fun node => .ok (g node)) (Route.below mode [] path) d with
  | ok r =>
    obtain ⟨a, doc⟩ := r
    simp only [leniently, walked, Prod.mk.injEq, Except.ok.injEq, Option.some.injEq]
    rintro ⟨rfl, rfl⟩
    exact ⟨rfl, rfl⟩
  | error e => cases e <;> simp [leniently, walked]

/-- Materializing a position that holds a mapping sets there the changed
mapping. -/
theorem materialize_found {f : Mapping → Mapping} {d : Document} {m : Mapping} {path : List String}
    {mode : Mode} (at_ : d.valueAt (mode.keysOf path) = some (.object m)) :
    d.materialize path mode f = .ok (f m, d.setAt (mode.keysOf path) (.object (f m))) := by
  have walked := walk_creating (Path.format path) f (Route.ofPath mode path) d
  rw [walk_found (Route.ofPath mode path) d (by rwa [Route.ofPath, below_keys]) (fun same => by cases same)
    (by simp [mappingAt]; rfl), Route.ofPath, below_keys] at walked
  unfold materialize
  rw [Route.ofPath]
  revert walked
  cases materializeAlong (Path.format path) f (Route.below mode [] path) d with
  | ok r =>
    obtain ⟨m', doc⟩ := r
    simp only [walked, Prod.mk.injEq, Except.ok.injEq, Option.some.injEq]
    rintro ⟨rfl, rfl⟩
    exact ⟨rfl, rfl⟩
  | error e => simp [walked]

end Document

end Reconcile
