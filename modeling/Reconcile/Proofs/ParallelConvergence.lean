import Reconcile.Proofs.Convergence
import Reconcile.Tree.Parallel
import Reconcile.Script.Adapter

/-!
# Which failure convergence reports, in either mode

A node fails at its own level when its cancellation check stops it or its
adapter answers with a failure; a node stopped by a failing child does not.
Sequential convergence reports the own-level failure of the earliest node in
post-order, children in id order (`convergeTraced_failure`): each node passes
up the first failure its children answered, so the nested choices add up to
one traversal.

A parallel pass converges sibling subtrees in any order and interleaving
(`Parallel.Run`). As long as no adapter's answer depends on the session and
no adapter cancels the context, every pass that converges the root ends with
the tree and the answer of the sequential pass (`parallel_run_agrees`): each
node's convergence reads only its children's states and failures, which
their subtrees settle whatever else runs meanwhile.
-/

namespace Reconcile

namespace Convergence

variable {α : Type}

/-! ## The first failure, sequentially -/

/-- The failure a marked node met at its own level: the cancellation check,
or its adapter's failure. -/
def ownFailure (v : Tree (α × Outcome)) : Option EnsureError :=
  match v.adapter.2 with
  | .cancelled _ => some (.cancelled v.identity (Path.format v.path))
  | .asked _ _ (.error f) _ => some (.adapter v.identity (Path.format v.path) f.fault)
  | _ => none

mutual
/-- A marked run answers the own-level failure of the earliest node in
post-order that has one. -/
theorem convergeTraced_failure (A : Adapter α) (expired : Bool) : (t : Tree α) → (s : Session) →
    (convergeTraced A expired t s).2.1 = (convergeTraced A expired t s).1.postorder.findSome? ownFailure
  | ⟨path, relative, identity, a, kind, version, st, queue, children⟩, s => by
    have below := convergeAllTraced_failure A expired children s
    rw [convergeTraced]
    rcases h : convergeAllTraced A expired children s with ⟨cs, failure, s₁⟩
    rw [h] at below
    dsimp only at below ⊢
    rcases failure with _ | e
    · -- no child failed, so the node's own check decides
      by_cases stop : (s₁.cancelled || expired) = true
      · simp [stop, Tree.postorder_eq, List.findSome?_append, ← below, ownFailure]
      · simp only [stop, if_false, Bool.false_eq_true]
        split <;> simp [Tree.postorder_eq, List.findSome?_append, ← below, ownFailure]
    · simp [Tree.postorder_eq, List.findSome?_append, ← below]
/-- A marked run of siblings answers the own-level failure of the earliest
node in their post-order that has one. -/
theorem convergeAllTraced_failure (A : Adapter α) (expired : Bool) : (cs : List (String × Tree α)) → (s : Session) →
    (convergeAllTraced A expired cs s).2.1 = (Tree.postorderOf (convergeAllTraced A expired cs s).1).findSome? ownFailure
  | [], _ => rfl
  | (id, c) :: rest, s => by
    have first := convergeTraced_failure A expired c s
    rw [convergeAllTraced]
    rcases h : convergeTraced A expired c s with ⟨c', failure, s₁⟩
    rw [h] at first
    dsimp only at first ⊢
    have later := convergeAllTraced_failure A expired rest s₁
    rcases h' : convergeAllTraced A expired rest s₁ with ⟨rest', failure', s₂⟩
    rw [h'] at later
    dsimp only at later ⊢
    rw [Tree.postorderOf, List.findSome?_append, ← first, ← later]
    cases failure <;> rfl
end

theorem ensure_snd (A : Adapter α) (expired : Bool) (t : Tree α) (s : Session) :
    (ensure A expired t s).2.1 = (converge A expired t s).2.1.elim (.ok ()) .error := by
  unfold ensure
  split <;> rename_i same <;> simp [same]

end Convergence

namespace Tree

variable {α β : Type}

theorem mapAdapterOf_eq_map (f : α → β) (cs : List (String × Tree α)) :
    mapAdapterOf f cs = cs.map fun e => (e.1, e.2.mapAdapter f) := by
  induction cs with
  | nil => rfl
  | cons e cs ih =>
    obtain ⟨id, c⟩ := e
    simp [mapAdapterOf, ih]

@[simp] theorem children_mapAdapter (f : α → β) (t : Tree α) :
    (t.mapAdapter f).children = mapAdapterOf f t.children := by
  cases t
  rfl

@[simp] theorem adapter_mapAdapter (f : α → β) (t : Tree α) : (t.mapAdapter f).adapter = f t.adapter := by
  cases t
  rfl

mutual
theorem SameShape.refl : (t : Tree α) → SameShape t t
  | ⟨_, _, _, _, _, _, _, _, cs⟩ => .of_fields (SameShapeOf.refl cs)
theorem SameShapeOf.refl : (cs : List (String × Tree α)) → SameShapeOf cs cs
  | [] => trivial
  | (_, c) :: cs => ⟨rfl, SameShape.refl c, SameShapeOf.refl cs⟩
end

mutual
theorem SameShape.trans : {t t' t'' : Tree α} → SameShape t t' → SameShape t' t'' → SameShape t t''
  | ⟨_, _, _, _, _, _, _, _, _⟩, ⟨_, _, _, _, _, _, _, _, _⟩, ⟨_, _, _, _, _, _, _, _, _⟩, h, h' => by
    simp only [SameShape] at h h' ⊢
    obtain ⟨rfl, rfl, rfl, rfl, rfl, rfl, rfl, children⟩ := h
    obtain ⟨rfl, rfl, rfl, rfl, rfl, rfl, rfl, children'⟩ := h'
    exact ⟨rfl, rfl, rfl, rfl, rfl, rfl, rfl, SameShapeOf.trans children children'⟩
theorem SameShapeOf.trans : {cs cs' cs'' : List (String × Tree α)} → SameShapeOf cs cs' → SameShapeOf cs' cs'' →
    SameShapeOf cs cs''
  | [], [], [], _, _ => trivial
  | (_, _) :: _, (_, _) :: _, (_, _) :: _, ⟨same, c, rest⟩, ⟨same', c', rest'⟩ =>
    ⟨same.trans same', SameShape.trans c c', SameShapeOf.trans rest rest'⟩
end

theorem SameShapeOf.append {cs ds cs' ds' : List (String × Tree α)} (h : SameShapeOf cs cs')
    (h' : SameShapeOf ds ds') : SameShapeOf (cs ++ ds) (cs' ++ ds') := by
  induction cs generalizing cs' with
  | nil =>
    cases cs' with
    | nil => exact h'
    | cons _ _ => exact h.elim
  | cons c cs ih =>
    cases cs' with
    | nil => exact h.elim
    | cons c' cs' => exact ⟨h.1, h.2.1, ih h.2.2⟩

mutual
theorem forall_mem_nodes_of_children {P : Tree α → Prop} : (t : Tree α) →
    (∀ v ∈ t.nodes, P v → ∀ e ∈ v.children, P e.2) → P t → ∀ v ∈ t.nodes, P v
  | ⟨_, _, _, _, _, _, _, _, cs⟩, passes, root =>
    forall_mem_nodes root (forall_mem_nodesOf_of_children cs
      (fun v hv => passes v (mem_nodes.mpr (.inr (mem_nodesOf.mp hv)))) (passes _ (mem_nodes_self _) root))
/-- What holds at every sibling and passes from every node to its children
holds at every node below. -/
theorem forall_mem_nodesOf_of_children {P : Tree α → Prop} : (cs : List (String × Tree α)) →
    (∀ v ∈ nodesOf cs, P v → ∀ e ∈ v.children, P e.2) → (∀ e ∈ cs, P e.2) → ∀ v ∈ nodesOf cs, P v
  | [], _, _ => by simp [nodesOf]
  | (_, c) :: cs, passes, all => by
    intro v hv
    rcases List.mem_append.mp hv with here | later
    · exact forall_mem_nodes_of_children c (fun v hv => passes v (List.mem_append_left _ hv))
        (all _ List.mem_cons_self) v here
    · exact forall_mem_nodesOf_of_children cs (fun v hv => passes v (List.mem_append_right _ hv))
        (fun e he => all e (List.mem_cons_of_mem _ he)) v later
end

mutual
theorem converge_of_sameShape (A : Adapter α) (expired : Bool) : {u u' : Tree α} → SameShape u u' →
    ∀ s, converge A expired u s = converge A expired u' s
  | ⟨_, _, _, _, _, _, _, _, _⟩, ⟨_, _, _, _, _, _, _, _, _⟩, same, s => by
    simp only [SameShape] at same
    obtain ⟨rfl, rfl, rfl, rfl, rfl, rfl, rfl, children⟩ := same
    simp only [converge, convergeAll_of_sameShape A expired children s]
theorem convergeAll_of_sameShape (A : Adapter α) (expired : Bool) : {cs cs' : List (String × Tree α)} →
    SameShapeOf cs cs' → ∀ s, convergeAll A expired cs s = convergeAll A expired cs' s
  | [], [], _, _ => rfl
  | (_, _) :: _, (_, _) :: _, ⟨rfl, same, rest⟩, s => by
    simp only [convergeAll, converge_of_sameShape A expired same s, convergeAll_of_sameShape A expired rest]
end

end Tree

namespace Parallel

variable {α : Type}

/-- Node `a`'s adapter answers the same in every session, and its convergence
leaves the cancel flag as it found it. -/
structure Oblivious (A : Adapter α) (a : α) : Prop where
  answer : ∀ states s s', (A.ensure a states s).1 = (A.ensure a states s').1
  keeps : ∀ states s, (A.ensure a states s).2.cancelled = s.cancelled

section Settling

variable {A : Adapter α} {expired : Bool} {s₀ : Session}

/-- A node of a parallel pass that is done as a sequential convergence of its
subtree leaves it, from every session with the cancel flag of `s₀`. -/
def Settled (A : Adapter α) (expired : Bool) (s₀ : Session) (v : Tree (α × Progress)) : Prop :=
  ∃ r, v.adapter.2 = .done r ∧ ∀ s, s.cancelled = s₀.cancelled →
    (converge A expired (v.mapAdapter Prod.fst) s).1 = v.mapAdapter Prod.fst ∧
      (converge A expired (v.mapAdapter Prod.fst) s).2.1 = r ∧
      (converge A expired (v.mapAdapter Prod.fst) s).2.2.cancelled = s.cancelled

/-- Siblings that are all settled converge sequentially to themselves, with
the first failure they answered in id order. -/
theorem convergeAll_settled : {cs : List (String × Tree (α × Progress))} → (∀ e ∈ cs, Settled A expired s₀ e.2) →
    ∀ s, s.cancelled = s₀.cancelled →
      (convergeAll A expired (Tree.mapAdapterOf Prod.fst cs) s).1 = Tree.mapAdapterOf Prod.fst cs ∧
        (convergeAll A expired (Tree.mapAdapterOf Prod.fst cs) s).2.1 = cs.findSome? (·.2.adapter.2.failure?) ∧
        (convergeAll A expired (Tree.mapAdapterOf Prod.fst cs) s).2.2.cancelled = s.cancelled
  | [], _, _, _ => ⟨rfl, rfl, rfl⟩
  | (id, c) :: rest, settled, s, flag => by
    obtain ⟨r, done, sequential⟩ := settled (id, c) List.mem_cons_self
    obtain ⟨tree, failure, kept⟩ := sequential s flag
    simp only [Tree.mapAdapterOf, convergeAll]
    rcases h : converge A expired (c.mapAdapter Prod.fst) s with ⟨c', first, s₁⟩
    rw [h] at tree failure kept
    dsimp only at tree failure kept ⊢
    obtain ⟨trees, failures, kept'⟩ :=
      convergeAll_settled (fun e mem => settled e (List.mem_cons_of_mem _ mem)) s₁ (kept.trans flag)
    rcases h' : convergeAll A expired (Tree.mapAdapterOf Prod.fst rest) s₁ with ⟨rest', later, s₂⟩
    rw [h'] at trees failures kept'
    dsimp only at trees failures kept' ⊢
    refine ⟨by rw [tree, trees], ?_, kept'.trans kept⟩
    rw [List.findSome?_cons, done, failure, failures]
    cases r <;> rfl

/-- Settling a node whose children are settled, in a session with the cancel
flag of `s₀`, leaves it settled and keeps the flag, when its adapter is
oblivious. -/
theorem settle_settled {v : Tree (α × Progress)} (oblivious : Oblivious A v.adapter.1)
    (children : ∀ e ∈ v.children, Settled A expired s₀ e.2) {s : Session} (flag : s.cancelled = s₀.cancelled) :
    Settled A expired s₀ (settle A expired v s).1 ∧ (settle A expired v s).2.cancelled = s.cancelled := by
  obtain ⟨path, relative, identity, ⟨a, _⟩, kind, version, st, queue, cs⟩ := v
  have sequential := @convergeAll_settled α A expired s₀ cs children
  dsimp only at oblivious
  have children' : ∀ s', s'.cancelled = s₀.cancelled → ∃ s₁, s₁.cancelled = s'.cancelled ∧
      convergeAll A expired (Tree.mapAdapterOf Prod.fst cs) s' =
        (Tree.mapAdapterOf Prod.fst cs, cs.findSome? (·.2.adapter.2.failure?), s₁) := by
    intro s' flag'
    obtain ⟨trees, failures, kept⟩ := sequential s' flag'
    exact ⟨_, kept, Prod.ext trees (Prod.ext failures rfl)⟩
  have states := Tree.states_mapAdapterOf Prod.fst cs
  unfold settle
  dsimp only
  split
  · rename_i e first
    refine ⟨⟨_, rfl, fun s' flag' => ?_⟩, rfl⟩
    obtain ⟨s₁, kept, converged⟩ := children' s' flag'
    simp only [Tree.mapAdapter, converge, converged, first, true_and]
    exact kept
  · rename_i first
    split
    · rename_i stop
      refine ⟨⟨_, rfl, fun s' flag' => ?_⟩, rfl⟩
      obtain ⟨s₁, kept, converged⟩ := children' s' flag'
      have stop' : (s₁.cancelled || expired) = true := by rw [kept, flag', ← flag, stop]
      simp only [Tree.mapAdapter, converge, converged, first, stop', if_true, true_and]
      exact kept
    · rename_i stop
      have keeps := oblivious.keeps (cs.filterMap fun entry => entry.2.state.map fun st => (entry.1, st)) s
      have same := fun s' => oblivious.answer (cs.filterMap fun entry => entry.2.state.map fun st => (entry.1, st)) s' s
      split
      all_goals
        rename_i s₂ answered
        simp only [answered] at keeps same
        refine ⟨⟨_, rfl, fun s' flag' => ?_⟩, keeps⟩
        obtain ⟨s₁, kept, converged⟩ := children' s' flag'
        have go : (s₁.cancelled || expired) = false := by
          rw [kept, flag', ← flag]
          simpa using stop
        have keeps' := oblivious.keeps (cs.filterMap fun entry => entry.2.state.map fun st => (entry.1, st)) s₁
        have same' := same s₁
        rcases answered' : A.ensure a (cs.filterMap fun entry => entry.2.state.map fun st => (entry.1, st)) s₁
          with ⟨answer', s₃⟩
        simp only [answered'] at keeps' same'
        subst same'
        simp only [Tree.mapAdapter, converge, converged, first, go, if_false, Bool.false_eq_true, states, answered',
          true_and]
        exact keeps'.trans kept

end Settling

section Passes

variable {A : Adapter α} {expired : Bool} {s₀ : Session}

theorem settle_fields (A : Adapter α) (expired : Bool) (t : Tree (α × Progress)) (s : Session) :
    (settle A expired t s).1.children = t.children ∧ (settle A expired t s).1.adapter.1 = t.adapter.1 ∧
      (settle A expired t s).1.adapter.2.isDone ∧
      Tree.SameShape (t.mapAdapter Prod.fst) ((settle A expired t s).1.mapAdapter Prod.fst) := by
  obtain ⟨path, relative, identity, ⟨a, _⟩, kind, version, st, queue, cs⟩ := t
  unfold settle
  dsimp only
  split
  · exact ⟨rfl, rfl, rfl, .of_fields (Tree.SameShapeOf.refl _)⟩
  · split
    · exact ⟨rfl, rfl, rfl, .of_fields (Tree.SameShapeOf.refl _)⟩
    · split <;> exact ⟨rfl, rfl, rfl, .of_fields (Tree.SameShapeOf.refl _)⟩

theorem Step.waiting {x y : Tree (α × Progress) × Session} (step : Step A expired x y) :
    ∃ w ∈ x.1.nodes, w.adapter.2 = .waiting := by
  induction step with
  | here waiting _ => exact ⟨_, Tree.mem_nodes_self _, waiting⟩
  | @inside _ c _ id _ _ _ _ split _ ih =>
    obtain ⟨w, hw, waiting⟩ := ih
    exact ⟨w, Tree.mem_nodes.mpr (.inr ⟨(id, c), by simp [split], hw⟩), waiting⟩

/-- What every configuration of a parallel pass from session `s₀` keeps: the
cancel flag of `s₀`, oblivious adapters, done nodes whose children are done,
and every done node settled. -/
structure Sound (A : Adapter α) (expired : Bool) (s₀ : Session) (T : Tree (α × Progress)) (s : Session) : Prop where
  flag : s.cancelled = s₀.cancelled
  oblivious : ∀ v ∈ T.nodes, Oblivious A v.adapter.1
  closed : ∀ v ∈ T.nodes, v.adapter.2.isDone → ∀ e ∈ v.children, e.2.adapter.2.isDone
  settled : ∀ v ∈ T.nodes, v.adapter.2.isDone → Settled A expired s₀ v

theorem Sound.below {T : Tree (α × Progress)} {s : Session} (sound : Sound A expired s₀ T s) {c : Tree (α × Progress)}
    (hc : c ∈ T.nodes) : Sound A expired s₀ c s :=
  ⟨sound.flag, fun v hv => sound.oblivious v (Tree.nodes_trans T hc hv),
    fun v hv => sound.closed v (Tree.nodes_trans T hc hv), fun v hv => sound.settled v (Tree.nodes_trans T hc hv)⟩

/-- A step keeps a configuration sound and changes only marks and states. -/
theorem Step.sound {x y : Tree (α × Progress) × Session} (step : Step A expired x y) :
    Sound A expired s₀ x.1 x.2 → Sound A expired s₀ y.1 y.2 ∧
      Tree.SameShape (x.1.mapAdapter Prod.fst) (y.1.mapAdapter Prod.fst) := by
  induction step with
  | @here t s waiting ready =>
    intro sound
    obtain ⟨children, adapter, done, shape⟩ := settle_fields A expired t s
    have childSettled : ∀ e ∈ t.children, Settled A expired s₀ e.2 := fun e he =>
      sound.settled e.2 (Tree.mem_nodes_of_child he) (ready e he)
    obtain ⟨settled, kept⟩ := settle_settled (sound.oblivious t (Tree.mem_nodes_self t)) childSettled sound.flag
    have below : ∀ v ∈ Tree.nodesOf (settle A expired t s).1.children, v ∈ t.nodes := fun v hv => by
      rw [children] at hv
      exact Tree.mem_nodes.mpr (.inr (Tree.mem_nodesOf.mp hv))
    refine ⟨⟨kept.trans sound.flag, Tree.forall_mem_nodes ?_ fun v hv => sound.oblivious v (below v hv),
      Tree.forall_mem_nodes ?_ fun v hv => sound.closed v (below v hv),
      Tree.forall_mem_nodes (fun _ => settled) fun v hv => sound.settled v (below v hv)⟩, shape⟩
    · rw [adapter]
      exact sound.oblivious t (Tree.mem_nodes_self t)
    · intro _ e he
      rw [children] at he
      exact ready e he
  | @inside t c c' id pre post s s' split inner ih =>
    intro sound
    have child : c ∈ t.nodes := Tree.mem_nodes.mpr (.inr ⟨(id, c), by simp [split], Tree.mem_nodes_self c⟩)
    obtain ⟨sound', shape⟩ := ih (sound.below child)
    have waiting : t.adapter.2.isDone = false := by
      cases isDone : t.adapter.2.isDone with
      | false => rfl
      | true =>
        obtain ⟨w, hw, wWaits⟩ := inner.waiting
        have allDone := Tree.forall_mem_nodes_of_children t sound.closed isDone w (Tree.nodes_trans t child hw)
        rw [wWaits] at allDone
        cases allDone
    obtain ⟨path, relative, identity, x, kind, version, st, queue, cs⟩ := t
    dsimp only at split waiting sound' shape ⊢
    subst split
    -- a node of the new tree is the node itself, a node of the stepped child, or one it had
    have cases : ∀ v ∈ (Tree.mk path relative identity x kind version st queue (pre ++ (id, c') :: post)).nodes,
        v = ⟨path, relative, identity, x, kind, version, st, queue, pre ++ (id, c') :: post⟩ ∨ v ∈ c'.nodes ∨
          v ∈ (Tree.mk path relative identity x kind version st queue (pre ++ (id, c) :: post)).nodes := by
      intro v hv
      rcases Tree.mem_nodes.mp hv with rfl | ⟨e, he, below⟩
      · exact .inl rfl
      · rcases List.mem_append.mp he with inPre | inRest
        · exact .inr (.inr (Tree.mem_nodes.mpr (.inr ⟨e, by simp [inPre], below⟩)))
        · rcases List.mem_cons.mp inRest with rfl | inPost
          · exact .inr (.inl below)
          · exact .inr (.inr (Tree.mem_nodes.mpr (.inr ⟨e, by simp [inPost], below⟩)))
    refine ⟨⟨sound'.flag, fun v hv => ?_, fun v hv => ?_, fun v hv => ?_⟩, ?_⟩
    · rcases cases v hv with rfl | inner | before
      · exact sound.oblivious ⟨path, relative, identity, x, kind, version, st, queue, pre ++ (id, c) :: post⟩
          (Tree.mem_nodes_self _)
      · exact sound'.oblivious v inner
      · exact sound.oblivious v before
    · rcases cases v hv with rfl | inner | before
      · intro isDone
        rw [waiting] at isDone
        cases isDone
      · exact sound'.closed v inner
      · exact sound.closed v before
    · rcases cases v hv with rfl | inner | before
      · intro isDone
        rw [waiting] at isDone
        cases isDone
      · exact sound'.settled v inner
      · exact sound.settled v before
    · simp only [Tree.mapAdapter, Tree.mapAdapterOf_eq_map, List.map_append, List.map_cons]
      exact .of_fields (.append (Tree.SameShapeOf.refl _) ⟨rfl, shape, Tree.SameShapeOf.refl _⟩)

/-- A parallel pass keeps a configuration sound and changes only marks and
states. -/
theorem Run.sound {x y : Tree (α × Progress) × Session} (run : Run A expired x y) (sound : Sound A expired s₀ x.1 x.2) :
    Sound A expired s₀ y.1 y.2 ∧ Tree.SameShape (x.1.mapAdapter Prod.fst) (y.1.mapAdapter Prod.fst) := by
  induction run with
  | refl => exact ⟨sound, Tree.SameShape.refl _⟩
  | tail _ step ih =>
    obtain ⟨sound', shape⟩ := ih
    obtain ⟨sound'', shape'⟩ := step.sound sound'
    exact ⟨sound'', shape.trans shape'⟩

mutual
theorem mem_nodes_start : (t : Tree α) → ∀ v ∈ (start t).nodes, v.adapter.2 = .waiting ∧ v.mapAdapter Prod.fst ∈ t.nodes
  | ⟨p, r, i, a, k, ver, st, q, cs⟩, v, hv => by
    rcases Tree.mem_nodes.mp hv with rfl | ⟨e, he, below⟩
    · refine ⟨rfl, ?_⟩
      rw [start, Tree.mapAdapter, start_fst_of cs]
      exact Tree.mem_nodes_self _
    · obtain ⟨waits, mem⟩ := mem_nodesOf_start cs v (Tree.mem_nodesOf.mpr ⟨e, he, below⟩)
      exact ⟨waits, Tree.mem_nodes.mpr (.inr (Tree.mem_nodesOf.mp mem))⟩
theorem mem_nodesOf_start : (cs : List (String × Tree α)) →
    ∀ v ∈ Tree.nodesOf (startOf cs), v.adapter.2 = .waiting ∧ v.mapAdapter Prod.fst ∈ Tree.nodesOf cs
  | [], v, hv => by simp [startOf, Tree.nodesOf] at hv
  | (_, c) :: cs, v, hv => by
    rcases List.mem_append.mp hv with here | later
    · obtain ⟨waits, mem⟩ := mem_nodes_start c v here
      exact ⟨waits, List.mem_append_left _ mem⟩
    · obtain ⟨waits, mem⟩ := mem_nodesOf_start cs v later
      exact ⟨waits, List.mem_append_right _ mem⟩
theorem start_fst : (t : Tree α) → (start t).mapAdapter Prod.fst = t
  | ⟨_, _, _, _, _, _, _, _, cs⟩ => by rw [start, Tree.mapAdapter, start_fst_of cs]
theorem start_fst_of : (cs : List (String × Tree α)) → Tree.mapAdapterOf Prod.fst (startOf cs) = cs
  | [] => rfl
  | (_, c) :: cs => by rw [startOf, Tree.mapAdapterOf, start_fst c, start_fst_of cs]
end

/-- A tree about to converge in parallel, with oblivious adapters, is sound. -/
theorem start_sound {t : Tree α} (oblivious : ∀ v ∈ t.nodes, Oblivious A v.adapter) (s : Session) :
    Sound A expired s (start t) s := by
  refine ⟨rfl, fun v hv => ?_, fun v hv isDone => ?_, fun v hv isDone => ?_⟩
  · have kept := oblivious _ (mem_nodes_start t v hv).2
    rwa [Tree.adapter_mapAdapter] at kept
  all_goals
    rw [(mem_nodes_start t v hv).1] at isDone
    cases isDone

/-- Every parallel pass that converges the root of a tree, from the session a
sequential pass starts from, ends with the tree the sequential pass answers
and with its failure, as long as every adapter answers the same in every
session and never cancels the context. -/
theorem parallel_run_agrees {t : Tree α} {s : Session} (oblivious : ∀ v ∈ t.nodes, Oblivious A v.adapter)
    {T : Tree (α × Progress)} {s' : Session} {r : Option EnsureError} (run : Run A expired (start t, s) (T, s'))
    (done : T.adapter.2 = .done r) :
    T.mapAdapter Prod.fst = (ensure A expired t s).1 ∧ r.elim (.ok ()) .error = (ensure A expired t s).2.1 := by
  obtain ⟨sound, shape⟩ := run.sound (start_sound oblivious s)
  dsimp only at sound shape
  rw [start_fst] at shape
  obtain ⟨r', done', sequential⟩ := sound.settled T (Tree.mem_nodes_self T) (by simp [done, Progress.isDone])
  rw [done] at done'
  cases done'
  obtain ⟨tree, failure, -⟩ := sequential s rfl
  have same := Tree.converge_of_sameShape A expired shape s
  rw [Tree.ensure_fst, Convergence.ensure_snd, same, tree, failure]
  exact ⟨rfl, rfl⟩

/-- The failure `ensure` reports is the own-level failure of the earliest node
in post-order, children in id order. Every parallel pass that converges the
root, with adapters that answer the same in every session and never cancel
the context, ends with the tree of the sequential pass, every node holding
the same state or none, and with the answer `ensure` gives. -/
theorem ensure_deterministic (A : Adapter α) (expired : Bool) (t : Tree α) (s : Session) :
    (ensure A expired t s).2.1 =
        ((Convergence.convergeTraced A expired t s).1.postorder.findSome? Convergence.ownFailure).elim (.ok ()) .error ∧
      ((∀ v ∈ t.nodes, Oblivious A v.adapter) → ∀ T s' r, Run A expired (start t, s) (T, s') → T.adapter.2 = .done r →
        T.mapAdapter Prod.fst = (ensure A expired t s).1 ∧ r.elim (.ok ()) .error = (ensure A expired t s).2.1) := by
  refine ⟨?_, fun oblivious T s' r run done => parallel_run_agrees oblivious run done⟩
  rw [Convergence.ensure_snd, Convergence.converge_eq_traced, Convergence.convergeTraced_failure]

/-! ## The sequential pass is a parallel pass -/

theorem Run.inside {t c : Tree (α × Progress)} {id : String} {pre post : List (String × Tree (α × Progress))}
    {s : Session} {y : Tree (α × Progress) × Session} (run : Run A expired (c, s) y)
    (split : t.children = pre ++ (id, c) :: post) :
    Run A expired (t, s) ({ t with children := pre ++ (id, y.1) :: post }, y.2) := by
  induction run with
  | refl =>
    have same : { t with children := pre ++ (id, c) :: post } = t := by
      rw [← split]
      cases t
      rfl
    rw [same]
    exact .refl
  | tail _ step ih => exact ih.tail (.inside rfl step)

mutual
/-- A parallel pass can converge a tree one node after another, as the
sequential pass does: it ends in the session the sequential pass leaves, with
the tree it answers, the root done with the failure it answers. -/
theorem converge_run (A : Adapter α) (expired : Bool) : (t : Tree α) → (s : Session) →
    ∃ T, Run A expired (start t, s) (T, (converge A expired t s).2.2) ∧
      T.mapAdapter Prod.fst = (converge A expired t s).1 ∧ T.adapter.2 = .done (converge A expired t s).2.1
  | ⟨p, r, i, a, k, v, st, q, cs⟩, s => by
    obtain ⟨Cs, run, trees, failures, done⟩ :=
      convergeAll_run A expired cs (start ⟨p, r, i, a, k, v, st, q, cs⟩) [] s rfl
    rcases h : convergeAll A expired cs s with ⟨children, failure, s₁⟩
    rw [h] at run trees failures
    dsimp only at run trees failures
    subst trees
    -- the node settles as the sequential pass converges it, its children being done alike
    obtain ⟨T, settled, forgets, marked⟩ : ∃ T,
        settle A expired ⟨p, r, i, (a, .waiting), k, v, st, q, Cs⟩ s₁ =
            (T, (converge A expired ⟨p, r, i, a, k, v, st, q, cs⟩ s).2.2) ∧
          T.mapAdapter Prod.fst = (converge A expired ⟨p, r, i, a, k, v, st, q, cs⟩ s).1 ∧
          T.adapter.2 = .done (converge A expired ⟨p, r, i, a, k, v, st, q, cs⟩ s).2.1 := by
      simp only [converge, h, settle, failures, Tree.states_mapAdapterOf]
      rcases failure with _ | e
      · by_cases stop : (s₁.cancelled || expired) = true
        · simp only [stop, if_true]
          exact ⟨_, rfl, rfl, rfl⟩
        · simp only [stop, if_false, Bool.false_eq_true]
          generalize A.ensure a (Cs.filterMap fun e => e.2.state.map fun st => (e.1, st)) s₁ = answer
          rcases answer with ⟨f | st', s'⟩
          · exact ⟨_, rfl, rfl, rfl⟩
          · exact ⟨_, rfl, rfl, rfl⟩
      · exact ⟨_, rfl, rfl, rfl⟩
    refine ⟨T, ?_, forgets, marked⟩
    rw [← settled]
    exact run.tail (.here rfl done)
/-- Inside a node, a parallel pass can converge the subtrees of its children
one after the other, as the sequential pass does. -/
theorem convergeAll_run (A : Adapter α) (expired : Bool) : (cs : List (String × Tree α)) →
    (t : Tree (α × Progress)) → (pre : List (String × Tree (α × Progress))) → (s : Session) →
    t.children = pre ++ startOf cs →
    ∃ Cs, Run A expired (t, s) ({ t with children := pre ++ Cs }, (convergeAll A expired cs s).2.2) ∧
      Tree.mapAdapterOf Prod.fst Cs = (convergeAll A expired cs s).1 ∧
      Cs.findSome? (·.2.adapter.2.failure?) = (convergeAll A expired cs s).2.1 ∧
      ∀ e ∈ Cs, e.2.adapter.2.isDone
  | [], t, pre, s, split => by
    refine ⟨[], ?_, rfl, rfl, by simp⟩
    have same : { t with children := pre ++ [] } = t := by
      obtain ⟨_, _, _, _, _, _, _, _, children⟩ := t
      simp only [startOf, List.append_nil] at split
      simp [split]
    rw [same]
    exact .refl
  | (id, c) :: cs, t, pre, s, split => by
    obtain ⟨C, runC, tree, doneC⟩ := converge_run A expired c s
    have first := Run.inside runC (show t.children = pre ++ (id, start c) :: startOf cs from split)
    obtain ⟨Cs, runCs, trees, failures, done⟩ :=
      convergeAll_run A expired cs { t with children := pre ++ (id, C) :: startOf cs } (pre ++ [(id, C)])
        (converge A expired c s).2.2 (by simp)
    rcases hc : converge A expired c s with ⟨c', failure, s₁⟩
    rw [hc] at first tree doneC runCs trees failures
    rcases hcs : convergeAll A expired cs s₁ with ⟨rest, later, s₂⟩
    rw [hcs] at runCs trees failures
    dsimp only at first tree doneC runCs trees failures
    simp only [convergeAll, hc, hcs]
    refine ⟨(id, C) :: Cs, ?_, by simp only [Tree.mapAdapterOf, tree, trees], ?_, ?_⟩
    · rw [show pre ++ (id, C) :: Cs = (pre ++ [(id, C)]) ++ Cs by simp]
      exact first.trans runCs
    · rw [List.findSome?_cons, doneC, failures]
      cases failure <;> rfl
    · intro e mem
      rcases List.mem_cons.mp mem with rfl | later
      · simp [doneC, Progress.isDone]
      · exact done e later
end

end Passes

end Parallel

/-! ## Scripted nodes converging in parallel -/

namespace Script

/-- A scripted node that reads no secret and does not cancel answers the same
in every session and leaves the cancel flag alone. -/
theorem oblivious {sc : Script} (noSecret : sc.readSecret = none) (noCancel : sc.cancel = false) :
    Parallel.Oblivious Script.adapter sc where
  answer states s s' := by
    simp only [Script.adapter, Script.ensure, noSecret, noCancel, Bool.false_eq_true, if_false]
    split
    · rfl
    · split <;> rfl
  keeps states s := by
    simp only [Script.adapter, Script.ensure, noSecret, noCancel, Bool.false_eq_true, if_false]
    split
    · rfl
    · split <;> rfl

/-- A scripted leaf below the root, failing with `fail` if it is given. -/
def leafFailing (name : String) (fail : Option String) : Tree Script where
  path := [name]
  relative := [name]
  identity := name
  adapter := { name := name, id := name, path := [name], kind := "test/" ++ name, version := "v1",
               state := .object [("name", .string name)], fail := fail }
  kind := "test/" ++ name
  version := "v1"
  queue := AgentQueue.create 4

/-- A scripted root over `a` and `d`, which fail, and `b`, which converges. -/
def failingSiblings : Tree Script where
  path := []
  relative := []
  identity := "root"
  adapter := { name := "root", id := "root", path := [], kind := "test/root", version := "v1",
               state := .object [("name", .string "root")] }
  kind := "test/root"
  version := "v1"
  queue := AgentQueue.create 4
  children := [("a", leafFailing "a" (some "a failed")), ("b", leafFailing "b" none),
    ("d", leafFailing "d" (some "d failed"))]

end Script

namespace Parallel

/-- A parallel pass over `failingSiblings` that converges `d`, then `b`, then
`a`, then the root. The root reports `a`'s failure, the first in id order,
and ends as the sequential pass does. -/
theorem failing_siblings_in_parallel :
    (∀ v ∈ Script.failingSiblings.nodes, Oblivious Script.adapter v.adapter) ∧
      ∃ T s' r, Run Script.adapter false (start Script.failingSiblings, {}) (T, s') ∧ T.adapter.2 = .done r ∧
        r = some (.adapter "a" "a" (Fault.ofMessage "a failed")) ∧
        T.mapAdapter Prod.fst = (ensure Script.adapter false Script.failingSiblings {}).1 ∧
        r.elim (.ok ()) .error = (ensure Script.adapter false Script.failingSiblings {}).2.1 := by
  have oblivious : ∀ v ∈ Script.failingSiblings.nodes, Oblivious Script.adapter v.adapter := by
    intro v hv
    have nodes : Script.failingSiblings.nodes = [Script.failingSiblings, Script.leafFailing "a" (some "a failed"),
        Script.leafFailing "b" none, Script.leafFailing "d" (some "d failed")] := rfl
    rw [nodes] at hv
    simp only [List.mem_cons, List.not_mem_nil, or_false] at hv
    rcases hv with rfl | rfl | rfl | rfl <;> exact Script.oblivious rfl rfl
  obtain ⟨T, s', run, done⟩ : ∃ T s', Run Script.adapter false (start Script.failingSiblings, {}) (T, s') ∧
      T.adapter.2 = .done (some (.adapter "a" "a" (Fault.ofMessage "a failed"))) :=
    ⟨_, _, .head (@Step.inside _ _ _ _ _ _ "d" [("a", start (Script.leafFailing "a" (some "a failed"))),
        ("b", start (Script.leafFailing "b" none))] [] _ _ rfl (.here rfl fun _ leaf => absurd leaf List.not_mem_nil))
      (.head (@Step.inside _ _ _ _ _ _ "b" [("a", start (Script.leafFailing "a" (some "a failed")))] _ _ _ rfl
          (.here rfl fun _ leaf => absurd leaf List.not_mem_nil))
        (.head (@Step.inside _ _ _ _ _ _ "a" [] _ _ _ rfl (.here rfl fun _ leaf => absurd leaf List.not_mem_nil))
          (.single (.here rfl (by simp [Progress.isDone]))))), rfl⟩
  exact ⟨oblivious, T, s', _, run, done, rfl, (ensure_deterministic Script.adapter false _ {}).2 oblivious T s' _ run done⟩

end Parallel

end Reconcile
