import Mathlib.Data.List.Nodup
import Reconcile.Proofs.RebuildAgain

/-!
# Looking a rebuilt document up again

A build looks every node's path up leniently: the lookup finds the value, or
nothing when a key on the way is missing or null, and fails only when a value
strictly on the way is neither a mapping nor null (`lookup_ok_iff`, with
`Passable`). A rebuild changes a document only at and below the entries of
the nodes holding a state and at agent records, and on the way there it only
turns null or missing values into mappings (`Touches`). So the lookup of a
node whose ancestors hold no state still goes through in the rebuilt document
(`passable_rebuilt`), and a node holding a state finds its fresh entry there.
Convergence leaves a state only on nodes whose descendants all hold one
(`converge_closed`), so every node of a converged tree is of one kind or the
other (`lookup_rebuilt`).

The layout a rebuild needs carries over from a built tree to the converged
one (`Layout.of_sameShape`), and the fold answers the same tree whatever
document it writes into (`fold_tree`).
-/

namespace Reconcile

variable {α : Type}

namespace Document

/-! ## Passable ways -/

/-- Strict navigation gets through to `K`: every value strictly on the way
is a mapping, null or missing. -/
def Passable (d : Document) (K : List String) : Prop :=
  ∀ K', K' <+: K → K' ≠ K → Open (d.valueAt K')

theorem passable_nil (d : Document) : Passable d [] :=
  fun _ pre ne => absurd (List.prefix_nil.mp pre) ne

theorem passable_null (K : List String) : Passable .null K := by
  intro K' _ _
  cases K' <;> simp [Open]

theorem passable_cons_iff {d : Document} {k : String} {K : List String} :
    Passable d (k :: K) ↔ Open (some d) ∧ ∀ v, d.valueAt [k] = some v → Passable v K := by
  constructor
  · intro passable
    refine ⟨by simpa using passable [] List.nil_prefix (List.cons_ne_nil k K).symm, fun v at_ K' pre ne => ?_⟩
    have further := passable (k :: K') (List.cons_prefix_cons.mpr ⟨rfl, pre⟩) (by simpa using ne)
    rwa [← List.singleton_append, valueAt_append, at_, Option.bind_some] at further
  · rintro ⟨here, below⟩ K' pre ne
    cases K' with
    | nil => simpa using here
    | cons k' K' =>
      obtain ⟨rfl, pre'⟩ := List.cons_prefix_cons.mp pre
      rw [← List.singleton_append, valueAt_append]
      cases at_ : d.valueAt [k'] with
      | none => trivial
      | some v => exact below v at_ K' pre' (by simpa using ne)

theorem Grows.open {o o' : Option Document} (grows : Grows o o') (isOpen : Open o) : Open o' := by
  rcases grows with same | ⟨-, fields, rfl⟩
  · cases o with
    | none =>
      cases o' with
      | none => trivial
      | some _ => simp at same
    | some u =>
      cases o' with
      | none => simp at same
      | some u' => cases u <;> cases u' <;> simp_all [shape, Open]
  · trivial

/-- A change that touches no position strictly above `K` keeps the way to
`K` passable. -/
theorem Touches.passable {ws : List (List String)} {d d' : Document} (touches : Touches ws d d')
    {K : List String} (notAbove : ∀ w ∈ ws, w <+: K → w = K) (passable : Passable d K) : Passable d' K := by
  intro K' pre ne
  have notBelow : ∀ w ∈ ws, ¬ w <+: K' := by
    intro w mem below
    obtain rfl := notAbove w mem (below.trans pre)
    exact ne (pre.eq_of_length (Nat.le_antisymm pre.length_le below.length_le))
  exact (touches.grows notBelow).open (passable K' pre ne)

/-- Following a route strictly finds a value or misses a key exactly when the
way along its keys is passable; otherwise it meets a value of the wrong
shape. -/
theorem follow_passable_iff : ∀ (route : Route) (d : Document),
    ((∃ v, follow route d = .ok v) ∨ ∃ l k, follow route d = .error (.pathNotFound l k)) ↔
      Passable d (route.map Hop.key)
  | [], d => by simp [follow, passable_nil]
  | hop :: rest, d => by
    rw [List.map_cons, passable_cons_iff, valueAt_singleton]
    cases d with
    | object fields =>
      cases found : Keyed.get? hop.key fields with
      | none => simp [follow, step, found, get?, Open]
      | some v =>
        by_cases isNullV : v.isNull
        · have isNull : v = .null := by cases v <;> simp_all [isNull]
          subst isNull
          simp [follow, step, found, get?, Open, isNull, passable_null]
        · simp only [follow, step, found, isNullV, Bool.false_eq_true, if_false]
          rw [follow_passable_iff rest v]
          simp [get?, found, Open]
    | null => simp [follow, step, get?, Open]
    | _ => simp [follow, step, Open]

/-- A lenient lookup succeeds exactly when the way to its path is passable. -/
theorem lookup_ok_iff {d : Document} {path : List String} {mode : Mode} :
    (∃ found, d.lookup path mode = .ok found) ↔ Passable d (mode.keysOf path) := by
  have keys : (Route.ofPath mode path).map Hop.key = mode.keysOf path := by rw [Route.ofPath, below_keys]
  rw [← keys, ← follow_passable_iff]
  unfold lookup navigate
  constructor
  · rintro ⟨found, h⟩
    split at h
    · rename_i v followed
      exact .inl ⟨v, followed⟩
    · rename_i l k followed
      exact .inr ⟨l, k, followed⟩
    · cases h
  · rintro (⟨v, followed⟩ | ⟨l, k, followed⟩)
    · exact ⟨some v, by rw [followed]⟩
    · exact ⟨none, by rw [followed]⟩

/-- Below a path that a lookup got through, a position holding a non-null
value is found from what the lookup found. -/
theorem lookup_below {d : Document} {p q : List String} {found : Option Document}
    (looked : d.lookup p .current = .ok found) (nonempty : q ≠ []) {v : Document}
    (at_ : d.valueAt (Mode.current.keysOf (p ++ q)) = some v) (notNull : v ≠ .null) :
    (found.getD .null).lookup q .current = .ok (some v) := by
  rw [Mode.keysOf_append, valueAt_append] at at_
  obtain ⟨u, atP, atQ⟩ := Option.bind_eq_some_iff.mp at_
  have keysNonempty : Mode.current.keysOf q ≠ [] := fun empty => nonempty (Mode.keysOf_eq_nil.mp empty)
  have uNotNull : u ≠ .null := by
    rintro rfl
    obtain ⟨k, ks, keysIs⟩ := List.exists_cons_of_ne_nil keysNonempty
    rw [keysIs, valueAt_null_cons] at atQ
    cases atQ
  have foundIs : found = some u := by
    have again := lookup_eq_some.mpr (navigate_eq_ok_iff.mpr ⟨atP, .inr uNotNull⟩)
    rw [looked] at again
    cases again
    rfl
  rw [foundIs, Option.getD_some]
  exact lookup_eq_some.mpr (navigate_eq_ok_iff.mpr ⟨atQ, .inr notNull⟩)

end Document

/-! ## States closed under descendants -/

namespace Tree

/-- Every node holding a state has all its descendants holding one. -/
def StatesClosed (t : Tree α) : Prop :=
  ∀ x ∈ t.nodes, x.state.isSome → ∀ y ∈ x.nodes, y.state.isSome

/-- A node whose children are closed is closed, if, holding a state, it has
every node below its children holding one. -/
theorem statesClosed_of_children {t : Tree α} (children : ∀ e ∈ t.children, e.2.StatesClosed)
    (full : t.state.isSome → ∀ e ∈ t.children, ∀ y ∈ e.2.nodes, y.state.isSome) : t.StatesClosed := by
  intro x hx holds y hy
  rcases mem_nodes.mp hx with rfl | ⟨e, emem, inside⟩
  · rcases mem_nodes.mp hy with rfl | ⟨e, emem, below⟩
    · exact holds
    · exact full holds e emem y below
  · exact children e emem x inside holds y hy

end Tree

mutual
/-- Convergence that ends without a failure leaves a state on every node;
whatever it ends with, a node holds a state only when all its descendants
do. -/
theorem converge_closed (A : Adapter α) (expired : Bool) : (t : Tree α) → (s : Session) →
    ((converge A expired t s).2.1 = none → ∀ y ∈ (converge A expired t s).1.nodes, y.state.isSome) ∧
      (converge A expired t s).1.StatesClosed
  | ⟨path, relative, identity, a, kind, version, st, queue, children⟩, s => by
    obtain ⟨full, closed⟩ := convergeAll_closed A expired children s
    simp only [converge]
    rcases h : convergeAll A expired children s with ⟨cs, failure, s₁⟩
    rw [h] at full closed
    dsimp only at full closed ⊢
    -- a node left without a state is closed by its children alone
    have cleared : ∀ st', st' = none →
        Tree.StatesClosed ⟨path, relative, identity, a, kind, version, st', queue, cs⟩ := by
      rintro st' rfl
      exact Tree.statesClosed_of_children closed fun holds => absurd holds (by simp)
    rcases failure with _ | e
    · dsimp only
      split
      · exact ⟨fun stopped => absurd stopped (by simp), cleared none rfl⟩
      · split
        · -- the adapter answered: the node and all below it hold a state
          refine ⟨fun _ y hy => ?_, Tree.statesClosed_of_children closed fun _ => full rfl⟩
          rcases Tree.mem_nodes.mp hy with rfl | ⟨e, emem, inside⟩
          · rfl
          · exact full rfl e emem y inside
        · exact ⟨fun failed => absurd failed (by simp), Tree.statesClosed_of_children closed fun _ => full rfl⟩
    · exact ⟨fun failed => absurd failed (by simp), cleared none rfl⟩
/-- Converging siblings keeps each one closed, and with no failure leaves a
state on every node. -/
theorem convergeAll_closed (A : Adapter α) (expired : Bool) : (cs : List (String × Tree α)) → (s : Session) →
    ((convergeAll A expired cs s).2.1 = none →
        ∀ e ∈ (convergeAll A expired cs s).1, ∀ y ∈ e.2.nodes, y.state.isSome) ∧
      ∀ e ∈ (convergeAll A expired cs s).1, e.2.StatesClosed
  | [], _ => ⟨fun _ _ mem => absurd mem List.not_mem_nil, fun _ mem => absurd mem List.not_mem_nil⟩
  | (id, c) :: rest, s => by
    obtain ⟨fullC, closedC⟩ := converge_closed A expired c s
    simp only [convergeAll]
    rcases h : converge A expired c s with ⟨c', first, s₁⟩
    rw [h] at fullC closedC
    obtain ⟨fullR, closedR⟩ := convergeAll_closed A expired rest s₁
    rcases h' : convergeAll A expired rest s₁ with ⟨rest', later, s₂⟩
    rw [h'] at fullR closedR
    dsimp only at fullC closedC fullR closedR ⊢
    refine ⟨fun none_ => ?_, fun e mem => ?_⟩
    · cases first with
      | some e => simp at none_
      | none =>
        intro e mem
        rcases List.mem_cons.mp mem with rfl | later'
        · exact fullC rfl
        · exact fullR none_ e later'
    · rcases List.mem_cons.mp mem with rfl | later'
      · exact closedC
      · exact closedR e later'
end

theorem ensure_closed (A : Adapter α) (expired : Bool) (t : Tree α) (s : Session) :
    (ensure A expired t s).1.StatesClosed := by
  rw [Tree.ensure_fst]
  exact (converge_closed A expired t s).2

/-! ## Trees of the same shape -/

namespace Tree

mutual
theorem SameShape.symm : {t t' : Tree α} → SameShape t t' → SameShape t' t
  | ⟨_, _, _, _, _, _, _, _, _⟩, ⟨_, _, _, _, _, _, _, _, _⟩, same => by
    simp only [SameShape] at same ⊢
    obtain ⟨rfl, rfl, rfl, rfl, rfl, rfl, rfl, children⟩ := same
    exact ⟨rfl, rfl, rfl, rfl, rfl, rfl, rfl, SameShapeOf.symm children⟩
theorem SameShapeOf.symm : {cs cs' : List (String × Tree α)} → SameShapeOf cs cs' → SameShapeOf cs' cs
  | [], [], _ => trivial
  | (_, _) :: _, (_, _) :: _, same => by
    simp only [SameShapeOf] at same ⊢
    obtain ⟨rfl, first, rest⟩ := same
    exact ⟨rfl, first.symm, SameShapeOf.symm rest⟩
end

mutual
theorem SameShape.paths : {t t' : Tree α} → SameShape t t' → t'.nodes.map Tree.path = t.nodes.map Tree.path
  | ⟨_, _, _, _, _, _, _, _, _⟩, ⟨_, _, _, _, _, _, _, _, _⟩, same => by
    obtain ⟨path, -, -, -, children⟩ := same.fields
    rw [nodes_eq, nodes_eq, List.map_cons, List.map_cons, path, SameShapeOf.paths children]
theorem SameShapeOf.paths : {cs cs' : List (String × Tree α)} → SameShapeOf cs cs' →
    (nodesOf cs').map Tree.path = (nodesOf cs).map Tree.path
  | [], [], _ => rfl
  | (_, c) :: cs, (_, c') :: cs', same => by
    simp only [SameShapeOf] at same
    simp only [nodesOf, List.map_append, SameShape.paths same.2.1, SameShapeOf.paths same.2.2]
end

theorem SameShapeOf.relatives : {cs cs' : List (String × Tree α)} → SameShapeOf cs cs' →
    cs'.filterMap (fun c => c.2.relative.head?) = cs.filterMap fun c => c.2.relative.head?
  | [], [], _ => rfl
  | (_, c) :: cs, (_, c') :: cs', same => by
    simp only [SameShapeOf] at same
    simp only [List.filterMap_cons, same.2.1.fields.2.1, SameShapeOf.relatives same.2.2]

theorem ensure_sameShape (A : Adapter α) (expired : Bool) (t : Tree α) (s : Session) :
    SameShape t (ensure A expired t s).1 := by
  rw [ensure_fst]
  exact converge_sameShape A expired t s

theorem eq_of_path_eq_of_nodup {t x y : Tree α} (distinct : (t.nodes.map Tree.path).Nodup) (hx : x ∈ t.nodes)
    (hy : y ∈ t.nodes) (same : x.path = y.path) : x = y :=
  List.inj_on_of_nodup_map distinct hx hy same

end Tree

namespace Rebuild

open Document

theorem heads_of_sameShape {x x' : Tree α} (same : Tree.SameShape x x') : heads x' = heads x :=
  same.fields.2.2.2.2.relatives

/-- A tree of the same shape as a laid-out one is laid out: the layout
speaks only of paths, children and queues, which convergence keeps. -/
theorem Layout.of_sameShape {t t' : Tree α} (layout : Layout t) (same : Tree.SameShape t t') : Layout t' := by
  have distinct : (t'.nodes.map Tree.path).Nodup := by
    rw [same.paths]
    exact layout.distinct
  refine ⟨same.placed layout.placed, distinct, ?_, ?_, ?_⟩
  · intro x' hx' y' hy' pre
    obtain ⟨x, hx, sameX⟩ := same.mem_nodes hx'
    obtain ⟨y, hy, sameY⟩ := same.mem_nodes hy'
    have below : y ∈ x.nodes := layout.nested x hx y hy (by rw [← sameX.fields.1, ← sameY.fields.1]; exact pre)
    obtain ⟨z, hz, sameZ⟩ := sameX.symm.mem_nodes below
    have atY : z.path = y'.path := sameZ.fields.1.symm.trans sameY.fields.1.symm
    rwa [← Tree.eq_of_path_eq_of_nodup distinct (Tree.nodes_trans t' hx' hz) hy' atY]
  · intro x' hx' c hc y' hy' c' hc' pre
    obtain ⟨x, hx, sameX⟩ := same.mem_nodes hx'
    obtain ⟨y, hy, sameY⟩ := same.mem_nodes hy'
    rw [sameX.fields.2.2.2.1] at hc
    rw [sameY.fields.2.2.2.1] at hc'
    obtain ⟨rfl, rfl⟩ := layout.apart x hx c hc y hy c' hc' pre
    exact ⟨Tree.eq_of_path_eq_of_nodup distinct hx' hy' (sameX.fields.1.trans sameY.fields.1.symm), rfl⟩
  · intro x' hx' c hc seg head
    obtain ⟨x, hx, sameX⟩ := same.mem_nodes hx'
    rw [sameX.fields.2.2.2.1] at hc
    rw [heads_of_sameShape sameX] at head
    rw [sameX.fields.1]
    exact layout.beside x hx c hc seg head

/-! ## The tree the fold answers -/

theorem fold_fst (tags : RecordTags) (path relative : List String) (identity : String) (a : α)
    (kind version : String) (state : Option Payload) (queue : AgentQueue) (cs : List (String × Tree α))
    (out : Document) :
    (fold tags ⟨path, relative, identity, a, kind, version, state, queue, cs⟩ out).1 =
      ⟨path, relative, identity, a, kind, version, state, { queue with changes := [], closed := true },
        (foldAll tags cs out).1⟩ := by
  unfold fold
  cases state <;> rfl

theorem foldAll_fst (tags : RecordTags) (id : String) (c : Tree α) (rest : List (String × Tree α))
    (out : Document) :
    (foldAll tags ((id, c) :: rest) out).1 = (id, (fold tags c out).1) :: (foldAll tags rest (fold tags c out).2.1).1 :=
  rfl

mutual
theorem fold_tree (tags : RecordTags) : (t : Tree α) → (out out' : Document) →
    (fold tags t out).1 = (fold tags t out').1
  | ⟨path, relative, identity, a, kind, version, state, queue, cs⟩, out, out' => by
    rw [fold_fst, fold_fst, foldAll_tree tags cs out out']
theorem foldAll_tree (tags : RecordTags) : (cs : List (String × Tree α)) → (out out' : Document) →
    (foldAll tags cs out).1 = (foldAll tags cs out').1
  | [], _, _ => rfl
  | (id, c) :: rest, out, out' => by
    rw [foldAll_fst, foldAll_fst, fold_tree tags c out out', foldAll_tree tags rest _ (fold tags c out').2.1]
end

mutual
theorem fold_states (tags : RecordTags) : (t : Tree α) → (out : Document) →
    (fold tags t out).1.nodes.map Tree.state = t.nodes.map Tree.state
  | ⟨path, relative, identity, a, kind, version, state, queue, cs⟩, out => by
    rw [fold_fst, Tree.nodes_eq, Tree.nodes_eq, List.map_cons, List.map_cons]
    exact congrArg (state :: ·) (foldAll_states tags cs out)
theorem foldAll_states (tags : RecordTags) : (cs : List (String × Tree α)) → (out : Document) →
    (Tree.nodesOf (foldAll tags cs out).1).map Tree.state = (Tree.nodesOf cs).map Tree.state
  | [], _ => rfl
  | (id, c) :: rest, out => by
    rw [foldAll_fst]
    simp only [Tree.nodesOf, List.map_append, fold_states tags c out, foldAll_states tags rest]
end

theorem state_of_fold (tags : RecordTags) {t : Tree α} (out : Document) {x : Tree α} (mem : x ∈ t.nodes) :
    ∃ y ∈ (fold tags t out).1.nodes, y.state = x.state := by
  have held : x.state ∈ (fold tags t out).1.nodes.map Tree.state := by
    rw [fold_states]
    exact List.mem_map_of_mem mem
  exact List.mem_map.mp held

/-! ## Lookups in the rebuilt document -/

section Lookups

variable {t : Tree α} (tags : RecordTags) (D : Document) (layout : Layout t)

include layout

/-- The writes of a tree touch no position strictly above the entry of a node
whose ancestors hold no state: those ancestors write only records apart from
the node, and every other write lies apart from the node or at or below it. -/
theorem span_not_above {x : Tree α} (mem : x ∈ t.nodes)
    (bare : ∀ m ∈ t.nodes, x ∈ m.nodes → m ≠ x → m.state = none) {m : Tree α} (mTree : m ∈ t.nodes)
    {w : Write α} (wmem : w ∈ writesOf m) : ∀ y ∈ w.span, y <+: entryKeys x → y = entryKeys x := by
  intro y ymem above
  have fromNode : entryKeys m <+: y := node_of_mem_writesOf wmem ▸ span_below w y ymem
  rcases below_or_above_or_apart m.path x.path with below | ⟨strict, ne⟩ | apart
  · have under : entryKeys x <+: y := (Mode.keysOf_prefix below).trans fromNode
    exact above.eq_of_length (Nat.le_antisymm above.length_le under.length_le)
  · have ancestor : x ∈ m.nodes := layout.nested m mTree x mem strict
    have differ : x ≠ m := fun same => ne (congrArg Tree.path same).symm
    rw [writesOf, bare m mTree ancestor (Ne.symm differ)] at wmem
    dsimp only at wmem
    obtain ⟨c, cmem, rfl⟩ := List.mem_map.mp wmem
    obtain ⟨rfl, -⟩ := mem_span_record ymem
    exact absurd above (layout.ancestor_apart mTree ancestor differ cmem List.prefix_rfl).keysOf.1
  · exact absurd above (apart.keysOf.below fromNode List.prefix_rfl).1

/-- The lookup of a node whose ancestors hold no state gets through in the
rebuilt document when it got through in the previous one. -/
theorem passable_rebuilt {x : Tree α} (mem : x ∈ t.nodes)
    (bare : ∀ m ∈ t.nodes, x ∈ m.nodes → m ≠ x → m.state = none) (passable : Passable D (entryKeys x)) :
    Passable (rebuild tags D t).document (entryKeys x) := by
  rw [(rebuild_eq_run tags D t).1]
  refine run_invariant tags (I := fun out => Passable out (entryKeys x)) (Q := fun _ => True) _
    (fun w wmem out holds _ => ?_) D passable fun _ _ => trivial
  obtain ⟨m, mTree, wmem'⟩ := writes_inTree t w wmem
  exact (perform_touches_span tags w out).passable (span_not_above layout mem bare mTree wmem') holds

/-- In a rebuild that met no failure of a converged tree, every node whose
lookup got through in the previous document gets through in the rebuilt
one. -/
theorem lookup_rebuilt (closed : t.StatesClosed) (clean : ∀ e ∈ log tags t D, e.2 = none) {x : Tree α}
    (mem : x ∈ t.nodes) {found : Option Document} (looked : D.lookup x.path .current = .ok found) :
    ∃ found', (rebuild tags D t).document.lookup x.path .current = .ok found' := by
  cases state : x.state with
  | none =>
    have bare : ∀ m ∈ t.nodes, x ∈ m.nodes → m ≠ x → m.state = none := by
      intro m mTree ancestor _
      cases held : m.state with
      | none => rfl
      | some st => simpa [state] using closed m mTree (by simp [held]) x ancestor
    exact lookup_ok_iff.mpr (passable_rebuilt tags D layout mem bare (lookup_ok_iff.mp ⟨found, looked⟩))
  | some st =>
    obtain ⟨_, _, _, _, _, _, _, _, _, _, _, _, kept⟩ := entry_kept tags D layout clean mem state
    exact ⟨_, lookup_eq_some.mpr (navigate_eq_ok_iff.mpr ⟨kept, .inr (by simp)⟩)⟩

end Lookups

end Rebuild

end Reconcile
