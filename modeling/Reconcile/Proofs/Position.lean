import Reconcile.Document.Path

/-!
# Positions in a document

A position is a list of keys, followed one after the other through mappings.
A resource path stands for the position `Mode.keysOf` of its schema keys and
ids, and strict navigation finds a non-null value exactly there
(`navigate_eq_ok_iff`).

Every write of the rebuild aims at a position. `Touches ws d d'` says that
`d'` differs from `d` only at or below the positions `ws`: a position apart
from all of them keeps its value, and a position on the way to one of them
keeps its shape, unless it held null or nothing and now holds a mapping.
-/

namespace Reconcile

/-- The keys crossed for a path: the mode's schema keys before each id. -/
def Mode.keysOf (mode : Mode) (path : List String) : List String :=
  path.flatMap fun seg => mode.hops ++ [seg]

@[simp] theorem Mode.keysOf_nil (mode : Mode) : mode.keysOf [] = [] := rfl

theorem Mode.keysOf_cons (mode : Mode) (seg : String) (path : List String) :
    mode.keysOf (seg :: path) = mode.hops ++ seg :: mode.keysOf path := by
  simp [keysOf]

theorem Mode.keysOf_append (mode : Mode) (p q : List String) :
    mode.keysOf (p ++ q) = mode.keysOf p ++ mode.keysOf q := by
  simp [keysOf]

@[simp] theorem Mode.keysOf_current_cons (seg : String) (path : List String) :
    Mode.current.keysOf (seg :: path) = "current" :: "state" :: seg :: Mode.current.keysOf path := by
  simp [keysOf_cons, hops]

theorem Mode.keysOf_eq_nil {mode : Mode} {path : List String} : mode.keysOf path = [] ↔ path = [] := by
  cases path with
  | nil => simp
  | cons seg rest => simp [keysOf_cons]

theorem Route.below_append (mode : Mode) : ∀ (before p q : List String),
    Route.below mode before (p ++ q) = Route.below mode before p ++ Route.below mode (before ++ p) q
  | before, [], q => by simp [Route.below]
  | before, seg :: p, q => by
    rw [List.cons_append, Route.below, Route.below, Route.below_append mode (before ++ [seg]) p q]
    simp

/-! ## Apart positions -/

/-- Two positions are apart when neither lies at or below the other. -/
def Apart (a b : List String) : Prop := ¬ a <+: b ∧ ¬ b <+: a

theorem Apart.symm {a b : List String} (h : Apart a b) : Apart b a := ⟨h.2, h.1⟩

theorem not_apart_of_above {a b c : List String} (ha : a <+: c) (hb : b <+: c) : ¬ Apart a b :=
  fun apart => (List.prefix_or_prefix_of_prefix ha hb).elim apart.1 apart.2

theorem Apart.cons_iff {k : String} {a b : List String} : Apart (k :: a) (k :: b) ↔ Apart a b := by
  simp [Apart, List.cons_prefix_cons]

theorem apart_cons_of_ne {k k' : String} (a b : List String) (h : k ≠ k') : Apart (k :: a) (k' :: b) := by
  simp [Apart, List.cons_prefix_cons, h, Ne.symm h]

theorem Apart.append {a b : List String} (h : Apart a b) (a' b' : List String) : Apart (a ++ a') (b ++ b') := by
  constructor
  · intro below
    exact not_apart_of_above ((List.prefix_append a a').trans below) (List.prefix_append b b') h
  · intro below
    exact not_apart_of_above (List.prefix_append a a') ((List.prefix_append b b').trans below) h

theorem Apart.of_append_left {a b c : List String} (h : Apart (a ++ b) (a ++ c)) : Apart b c := by
  simpa [Apart] using h

theorem Apart.append_left (a : List String) {b c : List String} (h : Apart b c) : Apart (a ++ b) (a ++ c) := by
  simpa [Apart] using h

theorem Apart.below {a b x y : List String} (h : Apart a b) (ha : a <+: x) (hb : b <+: y) : Apart x y := by
  obtain ⟨a', rfl⟩ := ha
  obtain ⟨b', rfl⟩ := hb
  exact h.append a' b'

theorem Apart.drop {a b r : List String} (h : Apart a b) (ha : r <+: a) (hb : r <+: b) :
    Apart (a.drop r.length) (b.drop r.length) := by
  obtain ⟨a', rfl⟩ := ha
  obtain ⟨b', rfl⟩ := hb
  simpa using h.of_append_left

theorem Apart.ne_nil_left {a b : List String} (h : Apart a b) : a ≠ [] := by
  rintro rfl
  exact h.1 List.nil_prefix

theorem Apart.ne_nil_right {a b : List String} (h : Apart a b) : b ≠ [] := h.symm.ne_nil_left

theorem below_or_above_or_apart (ks K : List String) : K <+: ks ∨ (ks <+: K ∧ ks ≠ K) ∨ Apart ks K := by
  by_cases below : K <+: ks
  · exact .inl below
  · by_cases above : ks <+: K
    · exact .inr (.inl ⟨above, fun same => below (same ▸ List.prefix_rfl)⟩)
    · exact .inr (.inr ⟨above, below⟩)


theorem Mode.keysOf_prefix {mode : Mode} {p q : List String} (h : p <+: q) : mode.keysOf p <+: mode.keysOf q := by
  obtain ⟨r, rfl⟩ := h
  rw [Mode.keysOf_append]
  exact List.prefix_append _ _

theorem Apart.keysOf {mode : Mode} : ∀ {p q : List String}, Apart p q → Apart (mode.keysOf p) (mode.keysOf q)
  | [], _, h => absurd List.nil_prefix h.1
  | _, [], h => absurd List.nil_prefix h.2
  | a :: p, b :: q, h => by
    rw [Mode.keysOf_cons, Mode.keysOf_cons]
    apply Apart.append_left
    by_cases same : a = b
    · subst same
      exact Apart.cons_iff.mpr (Apart.cons_iff.mp h).keysOf
    · exact apart_cons_of_ne _ _ same

namespace Document

/-! ## Values at positions -/

/-- The value at a position; nothing when a key is missing or a value on the
way is not a mapping. -/
def valueAt : Document → List String → Option Document
  | d, [] => some d
  | .object fields, k :: ks => (Keyed.get? k fields).bind fun v => v.valueAt ks
  | .null, _ :: _ => none
  | .bool _, _ :: _ => none
  | .number _, _ :: _ => none
  | .string _, _ :: _ => none
  | .array _, _ :: _ => none

@[simp] theorem valueAt_nil (d : Document) : d.valueAt [] = some d := by
  cases d <;> rfl

@[simp] theorem valueAt_object_cons (fields : Mapping) (k : String) (ks : List String) :
    (Document.object fields).valueAt (k :: ks) = (Keyed.get? k fields).bind fun v => v.valueAt ks := rfl

@[simp] theorem valueAt_null_cons (k : String) (ks : List String) : Document.null.valueAt (k :: ks) = none :=
  rfl

theorem valueAt_append (d : Document) (ks ks' : List String) :
    d.valueAt (ks ++ ks') = (d.valueAt ks).bind fun v => v.valueAt ks' := by
  induction ks generalizing d with
  | nil => simp
  | cons k ks ih =>
    cases d with
    | object fields =>
      simp only [List.cons_append, valueAt_object_cons]
      cases Keyed.get? k fields <;> simp [ih]
    | _ => rfl

@[simp] theorem valueAt_insert_self (k : String) (v : Document) (fields : Mapping) (ks : List String) :
    (Document.object (Keyed.insert k v fields)).valueAt (k :: ks) = v.valueAt ks := by
  simp

theorem valueAt_insert_of_ne {k k' : String} (v : Document) (fields : Mapping) (ks : List String) (h : k' ≠ k) :
    (Document.object (Keyed.insert k v fields)).valueAt (k' :: ks) = (Document.object fields).valueAt (k' :: ks) := by
  simp [Keyed.get?_insert_of_ne v fields h]

theorem valueAt_singleton (d : Document) (k : String) : d.valueAt [k] = d.get? k := by
  cases d <;> simp [valueAt, get?]

theorem valueAt_getD_null (o : Option Document) {ks : List String} (h : ks ≠ []) :
    (o.getD .null).valueAt ks = o.bind fun v => v.valueAt ks := by
  obtain ⟨k, ks, rfl⟩ := List.exists_cons_of_ne_nil h
  cases o <;> simp

/-! ## Shapes -/

/-- A value a write may pass through: a mapping, null, or nothing. -/
def Open : Option Document → Prop
  | none => True
  | some .null => True
  | some (.object _) => True
  | some (.bool _) => False
  | some (.number _) => False
  | some (.string _) => False
  | some (.array _) => False

/-- The entries a write finds at a position: a mapping's own, none for null or
nothing. -/
def entriesOf : Option Document → Mapping
  | some (.object fields) => fields
  | _ => []

/-- A document with the entries of its mappings forgotten. -/
def shape : Document → Document
  | .object _ => .object []
  | d => d

/-- The value at a position keeps its shape, or it was null or nothing and is
now a mapping. -/
def Grows (o o' : Option Document) : Prop :=
  o'.map shape = o.map shape ∨ ((o = none ∨ o = some .null) ∧ ∃ fields, o' = some (.object fields))

theorem get?_entriesOf {o : Option Document} (h : Open o) (k : String) :
    Keyed.get? k (entriesOf o) = o.bind fun v => v.valueAt [k] := by
  match o, h with
  | none, _ => rfl
  | some .null, _ => rfl
  | some (.object fields), _ => simp [entriesOf]

theorem Grows.refl (o : Option Document) : Grows o o := .inl rfl

theorem Grows.trans {o o' o'' : Option Document} (h : Grows o o') (h' : Grows o' o'') : Grows o o'' := by
  rcases h with same | ⟨empty, fields, rfl⟩
  · rcases h' with same' | ⟨empty', fields', rfl⟩
    · exact .inl (same'.trans same)
    · refine .inr ⟨?_, fields', rfl⟩
      rcases empty' with rfl | rfl
      · cases o <;> simp_all
      · cases o with
        | none => simp at same
        | some d => cases d <;> simp_all [shape]
  · rcases h' with same' | ⟨empty', _, rfl⟩
    · refine .inr ⟨empty, ?_⟩
      cases o'' with
      | none => simp at same'
      | some d => cases d <;> simp_all [shape]
    · rcases empty' with empty' | empty' <;> simp at empty'

theorem Grows.of_open {o : Option Document} (h : Open o) (fields : Mapping) : Grows o (some (.object fields)) := by
  match o, h with
  | none, _ => exact .inr ⟨.inl rfl, fields, rfl⟩
  | some .null, _ => exact .inr ⟨.inr rfl, fields, rfl⟩
  | some (.object _), _ => exact .inl rfl

theorem Grows.of_object (fields fields' : Mapping) : Grows (some (.object fields)) (some (.object fields')) :=
  .inl rfl


theorem Grows.object {fields : Mapping} {o : Option Document} (h : Grows (some (.object fields)) o) :
    ∃ fields', o = some (.object fields') := by
  rcases h with same | ⟨empty, fields', rfl⟩
  · cases o with
    | none => simp at same
    | some d => cases d <;> simp_all [shape]
  · rcases empty with empty | empty <;> simp at empty

/-! ## Writes aimed at positions -/

/-- `d'` differs from `d` only at or below the positions `ws`: a position apart
from all of them keeps its value, and a position on the way to one of them,
and at or below none, keeps its shape or turns from null or nothing into a
mapping. -/
structure Touches (ws : List (List String)) (d d' : Document) : Prop where
  apart : ∀ ks, (∀ w ∈ ws, Apart ks w) → d'.valueAt ks = d.valueAt ks
  route : ∀ ks, (∃ w ∈ ws, ks <+: w) → (∀ w ∈ ws, ¬ w <+: ks) → Grows (d.valueAt ks) (d'.valueAt ks)

namespace Touches

variable {ws ws' : List (List String)} {d d' d'' : Document}

theorem refl (ws : List (List String)) (d : Document) : Touches ws d d :=
  ⟨fun _ _ => rfl, fun _ _ _ => Grows.refl _⟩

theorem root (d d' : Document) : Touches [[]] d d' := by
  constructor
  · intro ks apart
    exact absurd List.nil_prefix (apart [] (List.mem_singleton_self _)).2
  · intro ks onRoute below
    exact absurd List.nil_prefix (below [] (List.mem_singleton_self _))

/-- A write touches the positions above the ones it is known to touch. -/
theorem coarsen (h : Touches ws d d') (above : ∀ w ∈ ws, ∃ w' ∈ ws', w' <+: w) : Touches ws' d d' := by
  have notBelow : ∀ ks, (∀ w' ∈ ws', ¬ w' <+: ks) → ∀ w ∈ ws, ¬ w <+: ks := by
    intro ks below w mem pre
    obtain ⟨w', mem', above'⟩ := above w mem
    exact below w' mem' (above'.trans pre)
  constructor
  · intro ks apart
    refine h.apart ks fun w mem => ⟨fun pre => ?_, notBelow ks (fun w' mem' => (apart w' mem').2) w mem⟩
    obtain ⟨w', mem', above'⟩ := above w mem
    exact not_apart_of_above pre above' (apart w' mem')
  · intro ks _ below
    by_cases onRoute : ∃ w ∈ ws, ks <+: w
    · exact h.route ks onRoute (notBelow ks below)
    · have apart : ∀ w ∈ ws, Apart ks w := fun w mem =>
        ⟨fun pre => onRoute ⟨w, mem, pre⟩, notBelow ks below w mem⟩
      rw [h.apart ks apart]
      exact Grows.refl _

theorem mono (h : Touches ws d d') (sub : ∀ w ∈ ws, w ∈ ws') : Touches ws' d d' :=
  h.coarsen fun w mem => ⟨w, sub w mem, List.prefix_rfl⟩

/-- Two writes one after the other touch the positions of both. -/
theorem trans (h : Touches ws d d') (h' : Touches ws' d' d'') : Touches (ws ++ ws') d d'' := by
  constructor
  · intro ks apart
    rw [h'.apart ks fun w mem => apart w (List.mem_append_right ws mem),
      h.apart ks fun w mem => apart w (List.mem_append_left ws' mem)]
  · intro ks _ below
    have first : Grows (d.valueAt ks) (d'.valueAt ks) := by
      by_cases onRoute : ∃ w ∈ ws, ks <+: w
      · exact h.route ks onRoute fun w mem => below w (List.mem_append_left ws' mem)
      · have apart : ∀ w ∈ ws, Apart ks w := fun w mem =>
          ⟨fun pre => onRoute ⟨w, mem, pre⟩, below w (List.mem_append_left ws' mem)⟩
        rw [h.apart ks apart]
        exact Grows.refl _
    have second : Grows (d'.valueAt ks) (d''.valueAt ks) := by
      by_cases onRoute : ∃ w ∈ ws', ks <+: w
      · exact h'.route ks onRoute fun w mem => below w (List.mem_append_right ws mem)
      · have apart : ∀ w ∈ ws', Apart ks w := fun w mem =>
          ⟨fun pre => onRoute ⟨w, mem, pre⟩, below w (List.mem_append_right ws mem)⟩
        rw [h'.apart ks apart]
        exact Grows.refl _
    exact first.trans second

theorem grows (h : Touches ws d d') {ks : List String} (notBelow : ∀ w ∈ ws, ¬ w <+: ks) :
    Grows (d.valueAt ks) (d'.valueAt ks) := by
  by_cases onRoute : ∃ w ∈ ws, ks <+: w
  · exact h.route ks onRoute notBelow
  · have apart : ∀ w ∈ ws, Apart ks w := fun w mem => ⟨fun pre => onRoute ⟨w, mem, pre⟩, notBelow w mem⟩
    rw [h.apart ks apart]
    exact Grows.refl _

end Touches

/-! ## Strict navigation -/

theorem below_keys (mode : Mode) : ∀ (before path : List String),
    (Route.below mode before path).map Hop.key = mode.keysOf path
  | _, [] => rfl
  | before, seg :: rest => by
    simp [Route.below, Mode.keysOf_cons, Function.comp_def, below_keys mode (before ++ [seg]) rest]

/-- Following a route strictly finds the value at its keys, which is not null
unless the route is empty. -/
theorem follow_eq_ok_iff {v : Document} : ∀ (route : Route) (d : Document),
    follow route d = .ok v ↔ d.valueAt (route.map Hop.key) = some v ∧ (route = [] ∨ v ≠ .null)
  | [], d => by simp [follow]
  | hop :: rest, d => by
    cases d with
    | object fields =>
      cases found : Keyed.get? hop.key fields with
      | none => simp [follow, step, found]
      | some w =>
        by_cases isNullW : w = .null
        · subst isNullW
          cases rest <;> simp [follow, step, found, isNull, eq_comm]
        · have notNull : w.isNull = false := by cases w <;> simp_all [isNull]
          simp only [follow, step, found, notNull, Bool.false_eq_true, if_false, List.map_cons,
            valueAt_object_cons, Option.bind_some, reduceCtorEq, false_or]
          rw [follow_eq_ok_iff rest w]
          constructor
          · rintro ⟨at_, empty | notNullV⟩
            · subst empty
              simp only [List.map_nil, valueAt_nil, Option.some.injEq] at at_
              exact ⟨by simp [← at_], at_ ▸ isNullW⟩
            · exact ⟨at_, notNullV⟩
          · rintro ⟨at_, notNullV⟩
            exact ⟨at_, .inr notNullV⟩
    | _ => simp [follow, step, valueAt]

/-- Strict navigation finds the non-null value at the position of the path;
the empty path is the document itself. -/
theorem navigate_eq_ok_iff {d v : Document} {path : List String} {mode : Mode} :
    d.navigate path mode = .ok v ↔ d.valueAt (mode.keysOf path) = some v ∧ (path = [] ∨ v ≠ .null) := by
  have keys := below_keys mode [] path
  have empty : Route.below mode [] path = [] ↔ path = [] := by
    constructor
    · intro nil
      simp only [nil, List.map_nil] at keys
      exact Mode.keysOf_eq_nil.mp keys.symm
    · rintro rfl
      rfl
  rw [navigate, follow_eq_ok_iff, Route.ofPath, keys, empty]

/-- Following two routes is following the first, then the second from where
the first ends. -/
theorem follow_append : ∀ (route route' : Route) (d : Document),
    follow (route ++ route') d = (follow route d).bind (follow route')
  | [], _, _ => rfl
  | hop :: route, route', d => by
    rw [List.cons_append, follow, follow]
    cases step hop d with
    | ok next => exact follow_append route route' next
    | error e => rfl

/-- Two hops with one key step alike: to the same value, or both onto a
missing key. -/
theorem step_same_key {hop hop' : Hop} (same : hop.key = hop'.key) (d : Document) :
    (∀ v, step hop d = .ok v → step hop' d = .ok v) ∧
      ((∃ l k, step hop d = .error (.pathNotFound l k)) → ∃ l k, step hop' d = .error (.pathNotFound l k)) := by
  cases d with
  | object fields =>
    cases found : Keyed.get? hop'.key fields with
    | none => simp [step, same, found]
    | some v => by_cases isNull : v.isNull <;> simp [step, same, found, isNull]
  | null => simp [step]
  | _ => simp [step]

/-- Routes through the same keys find the same values and miss a key alike;
only the locations their errors name differ. -/
theorem follow_same_keys : ∀ {route route' : Route}, route.map Hop.key = route'.map Hop.key → ∀ d : Document,
    (∀ v, follow route d = .ok v → follow route' d = .ok v) ∧
      ((∃ l k, follow route d = .error (.pathNotFound l k)) → ∃ l k, follow route' d = .error (.pathNotFound l k))
  | [], [], _, _ => ⟨fun _ found => found, fun ⟨_, _, missing⟩ => by cases missing⟩
  | [], _ :: _, same, _ => by simp at same
  | _ :: _, [], same, _ => by simp at same
  | hop :: route, hop' :: route', same, d => by
    simp only [List.map_cons, List.cons.injEq] at same
    obtain ⟨oks, missing⟩ := step_same_key same.1 d
    rw [follow, follow]
    cases first : step hop d with
    | ok next =>
      rw [oks next first]
      exact follow_same_keys same.2 next
    | error e =>
      constructor
      · intro v found
        cases found
      · rintro ⟨l, k, failed⟩
        cases failed
        obtain ⟨l', k', first'⟩ := missing ⟨l, k, first⟩
        exact ⟨l', k', by rw [first']⟩

theorem lookup_eq_some {d v : Document} {path : List String} {mode : Mode} :
    d.lookup path mode = .ok (some v) ↔ d.navigate path mode = .ok v := by
  unfold lookup
  split <;> simp_all

theorem lookup_eq_none {d : Document} {path : List String} {mode : Mode} :
    d.lookup path mode = .ok none ↔ ∃ l k, d.navigate path mode = .error (.pathNotFound l k) := by
  unfold lookup
  split <;> simp_all

theorem null_lookup (seg : String) (path : List String) : Document.null.lookup (seg :: path) .current = .ok none :=
  rfl

/-- A lookup below one that succeeded continues from what that one found,
which reads as null when it found nothing. -/
theorem lookup_append {d : Document} {p q : List String} {found : Option Document}
    (first : d.lookup p .current = .ok found) (nonempty : q ≠ []) {r : Option Document}
    (second : (found.getD .null).lookup q .current = .ok r) : d.lookup (p ++ q) .current = .ok r := by
  have route : d.navigate (p ++ q) .current = (d.navigate p .current).bind (follow (Route.below .current p q)) := by
    rw [navigate, navigate, Route.ofPath, Route.ofPath, Route.below_append, follow_append, List.nil_append]
  -- below what was found, the route of `q` from `p` has the keys of `q`'s own
  have same : ∀ v, (∀ w, v.navigate q .current = .ok w → follow (Route.below .current p q) v = .ok w) ∧
      ((∃ l k, v.navigate q .current = .error (.pathNotFound l k)) →
        ∃ l k, follow (Route.below .current p q) v = .error (.pathNotFound l k)) :=
    follow_same_keys (by rw [Route.ofPath, below_keys, below_keys])
  cases found with
  | some v =>
    rw [lookup_eq_some.mp first] at route
    cases r with
    | some w => exact lookup_eq_some.mpr (route.trans ((same v).1 w (lookup_eq_some.mp second)))
    | none =>
      obtain ⟨l, k, missing⟩ := (same v).2 (lookup_eq_none.mp second)
      exact lookup_eq_none.mpr ⟨l, k, route.trans missing⟩
  | none =>
    obtain ⟨seg, rest, rfl⟩ := List.exists_cons_of_ne_nil nonempty
    rw [Option.getD_none, null_lookup] at second
    cases second
    obtain ⟨l, k, missing⟩ := lookup_eq_none.mp first
    rw [missing] at route
    exact lookup_eq_none.mpr ⟨l, k, route⟩

/-! ## Materializing a route -/

theorem mappingAt_eq_ok {location : String} {d : Document} {fields : Mapping}
    (h : mappingAt location d = .ok fields) :
    Open (some d) ∧ ∀ k ks, d.valueAt (k :: ks) = (Keyed.get? k fields).bind fun v => v.valueAt ks := by
  cases d <;> simp [mappingAt] at h
  · subst h
    exact ⟨trivial, fun k ks => by simp⟩
  · subst h
    exact ⟨trivial, fun k ks => rfl⟩

/-! The value under a key read as null when missing agrees with what the
mapping holds below the key; only the key itself reads null for nothing. -/

theorem open_bind_getD (o : Option Document) (ks : List String) :
    Open (o.bind fun v => v.valueAt ks) ↔ Open ((o.getD .null).valueAt ks) := by
  cases o with
  | none => cases ks <;> simp [Open]
  | some w => rfl

theorem entriesOf_bind_getD (o : Option Document) (ks : List String) :
    entriesOf (o.bind fun v => v.valueAt ks) = entriesOf ((o.getD .null).valueAt ks) := by
  cases o with
  | none => cases ks <;> rfl
  | some w => rfl

theorem grows_bind_getD (o : Option Document) (ks : List String) {o' : Option Document}
    (h : Grows ((o.getD .null).valueAt ks) o') (mapping : ks = [] → ∃ fields, o' = some (.object fields)) :
    Grows (o.bind fun v => v.valueAt ks) o' := by
  cases o with
  | none =>
    cases ks with
    | nil =>
      obtain ⟨fields, rfl⟩ := mapping rfl
      exact .inr ⟨.inl rfl, fields, rfl⟩
    | cons k ks => simpa using h
  | some w => exact h

/-- What a materialization that succeeded did at its keys `K`: it touched only
`K` and below, passed only mappings, null or nothing on the way, found there
the entries it changed with `f`, and left a mapping. -/
structure Materialized (K : List String) (f : Mapping → Mapping) (d : Document) (m : Mapping) (d' : Document) :
    Prop where
  touches : Touches [K] d d'
  open_before : Open (d.valueAt K)
  entries : m = f (entriesOf (d.valueAt K))
  target : d'.valueAt K = some (.object m)
  mapping : ∃ fields, d' = .object fields

theorem materializeAlong_spec {final : String} {f : Mapping → Mapping} :
    ∀ (route : Route) (d : Document) {m : Mapping} {d' : Document},
      materializeAlong final f route d = .ok (m, d') → Materialized (route.map Hop.key) f d m d'
  | [], d, m, d', h => by
    cases d <;> simp [materializeAlong, mappingAt] at h
    all_goals
      obtain ⟨rfl, rfl⟩ := h
      exact ⟨Touches.root _ _, trivial, by simp [entriesOf], by simp, ⟨_, rfl⟩⟩
  | hop :: rest, d, m, d', h => by
    unfold materializeAlong at h
    cases hmap : mappingAt hop.location d with
    | error e => simp [hmap] at h
    | ok fields =>
      cases hrest : materializeAlong final f rest ((Keyed.get? hop.key fields).getD .null) with
      | error e => simp [hmap, hrest] at h
      | ok r =>
        obtain ⟨m', child⟩ := r
        simp only [hmap, hrest, Except.ok.injEq, Prod.mk.injEq] at h
        obtain ⟨rfl, rfl⟩ := h
        obtain ⟨openD, consD⟩ := mappingAt_eq_ok hmap
        have ih := materializeAlong_spec rest _ hrest
        obtain ⟨childFields, childIs⟩ := ih.mapping
        have under : ∀ ks, d.valueAt (hop.key :: ks) = (Keyed.get? hop.key fields).bind fun v => v.valueAt ks :=
          consD hop.key
        refine ⟨⟨?_, ?_⟩, ?_, ?_, ?_, ⟨_, rfl⟩⟩
        · intro ks apart
          match ks, apart _ (List.mem_singleton_self _) with
          | [], apartK => exact absurd List.nil_prefix apartK.1
          | k :: ks', apartK =>
            by_cases same : k = hop.key
            · subst same
              have apart' := Apart.cons_iff.mp apartK
              rw [valueAt_insert_self, under, ← valueAt_getD_null _ apart'.ne_nil_left]
              exact ih.touches.apart ks' fun w mem => (List.mem_singleton.mp mem) ▸ apart'
            · rw [valueAt_insert_of_ne _ _ _ same, valueAt_object_cons, consD]
        · intro ks onRoute below
          simp only [List.map_cons, List.mem_singleton, forall_eq, exists_eq_left] at onRoute below
          match ks with
          | [] => exact Grows.of_open openD _
          | k :: ks' =>
            obtain ⟨rfl, pre⟩ := List.cons_prefix_cons.mp onRoute
            have below' : ¬ rest.map Hop.key <+: ks' := fun h => below (List.cons_prefix_cons.mpr ⟨rfl, h⟩)
            rw [valueAt_insert_self, under]
            refine grows_bind_getD _ _ (ih.touches.route ks' ⟨_, List.mem_singleton_self _, pre⟩
              fun w mem => (List.mem_singleton.mp mem) ▸ below') fun empty => ?_
            subst empty
            exact ⟨childFields, by rw [childIs, valueAt_nil]⟩
        · rw [List.map_cons, under, open_bind_getD]
          exact ih.open_before
        · rw [List.map_cons, under, entriesOf_bind_getD]
          exact ih.entries
        · rw [List.map_cons, valueAt_insert_self]
          exact ih.target

theorem materialize_spec {d : Document} {path : List String} {mode : Mode} {f : Mapping → Mapping}
    {m : Mapping} {d' : Document} (h : d.materialize path mode f = .ok (m, d')) :
    Materialized (mode.keysOf path) f d m d' := by
  have spec := materializeAlong_spec _ d h
  rwa [Route.ofPath, below_keys] at spec

/-- A materialization whose change keeps every key but `changed` touches only
the positions of those keys below its end. -/
theorem Materialized.touches_keys {K : List String} {f : Mapping → Mapping} {d d' : Document} {m : Mapping}
    (h : Materialized K f d m d') {changed : List String} (nonempty : changed ≠ [])
    (keeps : ∀ fields k, k ∉ changed → Keyed.get? k (f fields) = Keyed.get? k fields) :
    Touches (changed.map fun k => K ++ [k]) d d' := by
  obtain ⟨k₀, mem₀⟩ := List.exists_mem_of_ne_nil _ nonempty
  constructor
  · intro ks apart
    simp only [List.mem_map, forall_exists_index, and_imp, forall_apply_eq_imp_iff₂] at apart
    rcases below_or_above_or_apart ks K with ⟨r, rfl⟩ | ⟨above, -⟩ | apartK
    · match r, apart k₀ mem₀ with
      | [], apart₀ => exact absurd (by simp) apart₀.1
      | k :: r', _ =>
        have other : k ∉ changed := fun mem => (apart k mem).2 (by simp)
        rw [valueAt_append, valueAt_append, h.target, Option.bind_some, valueAt_object_cons, h.entries,
          keeps _ k other]
        match open_at : d.valueAt K, h.open_before with
        | none, _ => rfl
        | some .null, _ => rfl
        | some (.object fields), _ => rfl
    · exact absurd (List.prefix_append_of_prefix above) (apart k₀ mem₀).1
    · exact h.touches.apart ks fun w mem => (List.mem_singleton.mp mem) ▸ apartK
  · intro ks onRoute below
    simp only [List.mem_map, forall_exists_index, and_imp, forall_apply_eq_imp_iff₂] at below
    obtain ⟨_, memW, pre⟩ := onRoute
    obtain ⟨k, mem, rfl⟩ := List.mem_map.mp memW
    rcases List.prefix_concat_iff.mp pre with rfl | above
    · exact absurd List.prefix_rfl (below k mem)
    · by_cases atEnd : ks = K
      · subst atEnd
        rw [h.target]
        exact Grows.of_open h.open_before m
      · exact h.touches.route ks ⟨K, List.mem_singleton_self _, above⟩ fun w mem' =>
          (List.mem_singleton.mp mem') ▸ fun below' =>
            atEnd (above.eq_of_length (Nat.le_antisymm above.length_le below'.length_le))

/-! ## Strict modification -/

/-- What a strict modification at keys `K` did: it found `v` there and left
`v'`, kept every position apart from `K`, and passed only mappings on the way. -/
structure Modified (K : List String) (d d' v v' : Document) : Prop where
  before : d.valueAt K = some v
  after : d'.valueAt K = some v'
  apart : ∀ ks, Apart ks K → d'.valueAt ks = d.valueAt ks
  route : ∀ ks, ks <+: K → ks ≠ K →
    (∃ fields, d.valueAt ks = some (.object fields)) ∧ ∃ fields, d'.valueAt ks = some (.object fields)

theorem modifyAlong_spec {β : Type} {f : Document → Except NavigateError (β × Document)} :
    ∀ (route : Route) (d : Document) {b : β} {d' : Document}, modifyAlong f route d = .ok (b, d') →
      ∃ v v', f v = .ok (b, v') ∧ Modified (route.map Hop.key) d d' v v'
  | [], d, b, d', h => ⟨d, d', h, by simp, by simp, fun _ apart => absurd List.nil_prefix apart.2,
      fun ks pre ne => absurd (List.prefix_nil.mp pre) ne⟩
  | hop :: rest, d, b, d', h => by
    cases d with
    | object fields =>
      cases found : Keyed.get? hop.key fields with
      | none => simp [modifyAlong, found] at h
      | some w =>
        cases nullW : w.isNull
        · cases hrest : modifyAlong f rest w with
          | error e => simp [modifyAlong, found, nullW, hrest] at h
          | ok r =>
            obtain ⟨b', w'⟩ := r
            simp only [modifyAlong, found, nullW, hrest, Bool.false_eq_true, if_false, Except.ok.injEq,
              Prod.mk.injEq] at h
            obtain ⟨rfl, rfl⟩ := h
            obtain ⟨v, v', fv, ih⟩ := modifyAlong_spec rest w hrest
            rw [List.map_cons]
            refine ⟨v, v', fv, ⟨?_, ?_, ?_, ?_⟩⟩
            · simp [found, ih.before]
            · simp [ih.after]
            · intro ks apart
              match ks, apart with
              | [], apart => exact absurd List.nil_prefix apart.1
              | k :: ks', apart =>
                by_cases same : k = hop.key
                · subst same
                  rw [valueAt_insert_self, valueAt_object_cons, found, Option.bind_some]
                  exact ih.apart ks' (Apart.cons_iff.mp apart)
                · rw [valueAt_insert_of_ne _ _ _ same]
            · intro ks pre ne
              match ks with
              | [] => exact ⟨⟨fields, by simp⟩, ⟨Keyed.insert hop.key w' fields, by simp⟩⟩
              | k :: ks' =>
                obtain ⟨rfl, pre'⟩ := List.cons_prefix_cons.mp pre
                have ne' : ks' ≠ rest.map Hop.key := fun same => ne (by rw [same])
                rw [valueAt_insert_self, valueAt_object_cons, found, Option.bind_some]
                exact ih.route ks' pre' ne'
        · simp [modifyAlong, found, nullW] at h
    | _ => simp [modifyAlong] at h

theorem modifyAt_spec {β : Type} {d : Document} {path : List String} {mode : Mode}
    {f : Document → Except NavigateError (β × Document)} {b : β} {d' : Document}
    (h : d.modifyAt path mode f = .ok (b, d')) : ∃ v v', f v = .ok (b, v') ∧ Modified (mode.keysOf path) d d' v v' := by
  have spec := modifyAlong_spec _ d h
  rwa [Route.ofPath, below_keys] at spec

/-- A write inside the value at `K`, carried out by a strict modification,
touches the same positions below `K`. -/
theorem Modified.touches {K : List String} {d d' v v' : Document} (h : Modified K d d' v v')
    {ws : List (List String)} (inner : Touches ws v v') (nonempty : ws ≠ []) :
    Touches (ws.map (K ++ ·)) d d' := by
  obtain ⟨w₀, mem₀⟩ := List.exists_mem_of_ne_nil _ nonempty
  constructor
  · intro ks apart
    simp only [List.mem_map, forall_exists_index, and_imp, forall_apply_eq_imp_iff₂] at apart
    rcases below_or_above_or_apart ks K with ⟨r, rfl⟩ | ⟨above, -⟩ | apartK
    · rw [valueAt_append, valueAt_append, h.after, h.before, Option.bind_some, Option.bind_some]
      exact inner.apart r fun w mem => (apart w mem).of_append_left
    · exact absurd (List.prefix_append_of_prefix above) (apart w₀ mem₀).1
    · exact h.apart ks apartK
  · intro ks onRoute below
    simp only [List.mem_map, forall_exists_index, and_imp, forall_apply_eq_imp_iff₂] at below
    obtain ⟨_, memW, pre⟩ := onRoute
    obtain ⟨w, mem, rfl⟩ := List.mem_map.mp memW
    rcases below_or_above_or_apart ks K with ⟨r, rfl⟩ | ⟨above, ne⟩ | apartK
    · rw [valueAt_append, valueAt_append, h.after, h.before, Option.bind_some, Option.bind_some]
      exact inner.route r ⟨w, mem, (List.prefix_append_right_inj K).mp pre⟩
        fun w' mem' below' => below w' mem' ((List.prefix_append_right_inj K).mpr below')
    · obtain ⟨⟨fields, was⟩, ⟨fields', is⟩⟩ := h.route ks above ne
      rw [was, is]
      exact Grows.of_object fields fields'
    · exact absurd apartK (not_apart_of_above pre (List.prefix_append K w))

/-- Replacing the value under one key of a mapping is a strict modification
there. -/
theorem modified_insert {fields : Mapping} {k : String} {v : Document} (found : Keyed.get? k fields = some v)
    (v' : Document) : Modified [k] (.object fields) (.object (Keyed.insert k v' fields)) v v' := by
  refine ⟨by simp [found], by simp, fun ks apart => ?_, fun ks pre ne => ?_⟩
  · match ks, apart with
    | [], apart => exact absurd List.nil_prefix apart.1
    | k' :: ks', apart =>
      have other : k' ≠ k := fun same => apart.2 (by simp [same])
      exact valueAt_insert_of_ne v' fields ks' other
  · match ks with
    | [] => exact ⟨⟨fields, rfl⟩, ⟨_, rfl⟩⟩
    | k' :: ks' =>
      obtain ⟨rfl, pre'⟩ := List.cons_prefix_cons.mp pre
      exact absurd (by rw [List.prefix_nil.mp pre']) ne

/-- Erasing one key of a mapping touches only that key. -/
theorem touches_erase (k : String) (fields : Mapping) :
    Touches [[k]] (.object fields) (.object (Keyed.erase k fields)) := by
  constructor
  · intro ks apart
    match ks, apart [k] (List.mem_singleton_self _) with
    | [], apartK => exact absurd List.nil_prefix apartK.1
    | k' :: ks', apartK =>
      have other : k' ≠ k := fun same => apartK.2 (by simp [same])
      simp [Keyed.get?_erase_of_ne fields other]
  · intro ks onRoute below
    obtain ⟨w, mem, pre⟩ := onRoute
    rw [List.mem_singleton] at mem
    subst mem
    match ks with
    | [] => exact Grows.of_object _ _
    | k' :: ks' =>
      obtain ⟨rfl, pre'⟩ := List.cons_prefix_cons.mp pre
      rw [List.prefix_nil.mp pre'] at below
      exact absurd List.prefix_rfl (below _ (List.mem_singleton_self _))

/-- A strict modification that cannot find its way finds nothing below the
missing or null value where it stopped. -/
theorem modifyAlong_notFound {β : Type} {f : Document → Except NavigateError (β × Document)}
    (never : ∀ v e, f v ≠ .error e) :
    ∀ (route : Route) (d : Document) {location key : String},
      modifyAlong f route d = .error (.pathNotFound location key) →
        ∀ q, q ≠ [] → d.valueAt (route.map Hop.key ++ q) = none
  | [], d, _, _, h, _, _ => absurd h (never d _)
  | hop :: rest, d, location, key, h, q, nonempty => by
    cases d with
    | object fields =>
      cases found : Keyed.get? hop.key fields with
      | none => simp [found]
      | some v =>
        cases nullV : v.isNull
        · cases hrest : modifyAlong f rest v with
          | error e =>
            simp only [modifyAlong, found, nullV, hrest, Bool.false_eq_true, if_false] at h
            cases h
            simpa [found] using modifyAlong_notFound never rest v hrest q nonempty
          | ok r => simp [modifyAlong, found, nullV, hrest] at h
        · have : v = .null := by cases v <;> simp_all [isNull]
          subst this
          obtain ⟨k, ks, rfl⟩ := List.exists_cons_of_ne_nil nonempty
          cases hk : rest.map Hop.key <;> simp [found, hk]
    | null => simp
    | _ => simp [modifyAlong] at h

end Document

end Reconcile
