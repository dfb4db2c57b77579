import Reconcile.Tree.Build
import Reconcile.Tree.Ensure

/-!
# Where the nodes of a tree sit

The rebuild visits the nodes of a tree children first (`Tree.postorder`): every
descendant of a node comes before it and every ancestor after it
(`Tree.postorder_split`).

A built tree is `Placed`: every child's path is its parent's followed by its
own relative path, which is not empty, so a node's descendants all lie strictly
below it (`Tree.placed_of_mem`, `Tree.below_child`). Convergence changes only the states the
nodes hold (`Tree.SameShape`), so a converged tree is placed as the built one
was.
-/

namespace Reconcile

namespace Tree

variable {α : Type}

mutual
/-- Every node, children first, siblings in id order, each node after its
descendants. -/
def postorder : Tree α → List (Tree α)
  | t@⟨_, _, _, _, _, _, _, _, cs⟩ => postorderOf cs ++ [t]
/-- Every node of a list of subtrees, children first. -/
def postorderOf : List (String × Tree α) → List (Tree α)
  | [] => []
  | (_, c) :: cs => postorder c ++ postorderOf cs
end

theorem nodes_eq (t : Tree α) : t.nodes = t :: nodesOf t.children := by
  cases t
  rfl

theorem postorder_eq (t : Tree α) : t.postorder = postorderOf t.children ++ [t] := by
  cases t
  rfl

theorem mem_nodes_self (t : Tree α) : t ∈ t.nodes := by
  rw [nodes_eq]
  exact List.mem_cons_self

theorem mem_nodesOf {cs : List (String × Tree α)} {x : Tree α} :
    x ∈ nodesOf cs ↔ ∃ e ∈ cs, x ∈ e.2.nodes := by
  induction cs with
  | nil => simp [nodesOf]
  | cons e cs ih =>
    obtain ⟨id, c⟩ := e
    simp [nodesOf, ih]

theorem mem_nodes {t x : Tree α} : x ∈ t.nodes ↔ x = t ∨ ∃ e ∈ t.children, x ∈ e.2.nodes := by
  rw [nodes_eq, List.mem_cons, mem_nodesOf]

mutual
theorem nodes_trans : (t : Tree α) → ∀ {y x : Tree α}, y ∈ t.nodes → x ∈ y.nodes → x ∈ t.nodes
  | t@⟨_, _, _, _, _, _, _, _, cs⟩, y, x, hy, hx => by
    rcases mem_nodes.mp hy with rfl | ⟨e, mem, below⟩
    · exact hx
    · rw [nodes_eq]
      exact List.mem_cons_of_mem _ (nodesOf_trans cs ⟨e, mem, below⟩ hx)
theorem nodesOf_trans : (cs : List (String × Tree α)) → ∀ {y x : Tree α},
    (∃ e ∈ cs, y ∈ e.2.nodes) → x ∈ y.nodes → x ∈ nodesOf cs
  | [], _, _, ⟨_, mem, _⟩, _ => absurd mem List.not_mem_nil
  | (id, c) :: cs, y, x, ⟨e, mem, below⟩, hx => by
    simp only [nodesOf, List.mem_append]
    rcases List.mem_cons.mp mem with rfl | mem'
    · exact .inl (nodes_trans c below hx)
    · exact .inr (nodesOf_trans cs ⟨e, mem', below⟩ hx)
end

mutual
theorem postorder_perm : (t : Tree α) → t.postorder.Perm t.nodes
  | ⟨_, _, _, _, _, _, _, _, cs⟩ => by
    simp only [postorder, nodes]
    exact (List.perm_append_singleton _ _).trans (List.Perm.cons _ (postorderOf_perm cs))
theorem postorderOf_perm : (cs : List (String × Tree α)) → (postorderOf cs).Perm (nodesOf cs)
  | [] => List.Perm.refl _
  | (_, c) :: cs => by
    simp only [postorderOf, nodesOf]
    exact (postorder_perm c).append (postorderOf_perm cs)
end

theorem mem_postorder {t x : Tree α} : x ∈ t.postorder ↔ x ∈ t.nodes := (postorder_perm t).mem_iff

mutual
theorem postorder_contiguous : (t : Tree α) → ∀ {x : Tree α}, x ∈ t.nodes → x.postorder <:+: t.postorder
  | t@⟨_, _, _, _, _, _, _, _, cs⟩, x, hx => by
    rcases mem_nodes.mp hx with rfl | below
    · exact List.infix_refl _
    · simp only [postorder]
      exact List.infix_append_of_infix_left (postorderOf_contiguous cs below)
theorem postorderOf_contiguous : (cs : List (String × Tree α)) → ∀ {x : Tree α},
    (∃ e ∈ cs, x ∈ e.2.nodes) → x.postorder <:+: postorderOf cs
  | [], _, ⟨_, mem, _⟩ => absurd mem List.not_mem_nil
  | (id, c) :: cs, x, ⟨e, mem, below⟩ => by
    simp only [postorderOf]
    rcases List.mem_cons.mp mem with rfl | mem'
    · exact List.infix_append_of_infix_left (postorder_contiguous c below)
    · exact List.infix_append_of_infix_right (postorderOf_contiguous cs ⟨e, mem', below⟩)
end

/-- In a list without repeats, what stands before and after an element is
fixed. -/
theorem split_unique {β : Type} {l p p' s s' : List β} {x : β} (nodup : l.Nodup)
    (h : l = p ++ x :: s) (h' : l = p' ++ x :: s') : p = p' ∧ s = s' := by
  subst h
  induction p generalizing p' with
  | nil =>
    cases p' with
    | nil => simpa using h'
    | cons y p' =>
      simp only [List.nil_append, List.cons_append, List.cons.injEq] at h'
      obtain ⟨rfl, rfl⟩ := h'
      simp at nodup
  | cons y p ih =>
    cases p' with
    | nil =>
      simp only [List.nil_append, List.cons_append, List.cons.injEq] at h'
      obtain ⟨rfl, rfl⟩ := h'
      simp at nodup
    | cons z p' =>
      simp only [List.cons_append, List.cons.injEq] at h'
      obtain ⟨rfl, rest⟩ := h'
      have ⟨same, same'⟩ := ih (List.nodup_cons.mp nodup).2 rest
      exact ⟨by rw [same], same'⟩

theorem not_mem_before {β : Type} {p s : List β} {x y : β} (nodup : (p ++ x :: s).Nodup)
    (before : y ∈ p) (after : y ∈ x :: s) : False :=
  (List.nodup_append.mp nodup).2.2 y before y after rfl

/-- In the children-first order of a tree without repeated nodes, a node's
descendants all come before it and its ancestors after it. -/
theorem postorder_split {t n : Tree α} {pre post : List (Tree α)} (nodup : t.postorder.Nodup)
    (split : t.postorder = pre ++ n :: post) :
    (∀ x ∈ post, x ∉ n.nodes) ∧ ∀ x ∈ pre, n ∉ x.nodes := by
  -- a node's own children-first run ends with it and sits inside the tree's
  have around : ∀ {y : Tree α}, y ∈ t.postorder →
      ∃ c e, t.postorder = (c ++ postorderOf y.children) ++ y :: e := by
    intro y mem
    obtain ⟨c, e, inside⟩ := postorder_contiguous t (mem_postorder.mp mem)
    exact ⟨c, e, by rw [← inside, postorder_eq y]; simp⟩
  have below : ∀ {x y : Tree α}, x ∈ y.nodes → x ≠ y → x ∈ postorderOf y.children := by
    intro x y mem ne
    have := mem_postorder.mpr mem
    rw [postorder_eq, List.mem_append, List.mem_singleton] at this
    exact this.resolve_right ne
  have nodup' := nodup
  rw [split] at nodup'
  obtain ⟨c, e, aroundN⟩ := around (by simp [split] : n ∈ t.postorder)
  obtain ⟨rfl, rfl⟩ := split_unique nodup split aroundN
  constructor
  · intro x mem descendant
    by_cases same : x = n
    · subst same
      exact (List.nodup_cons.mp (List.nodup_append.mp nodup').2.1).1 mem
    · exact not_mem_before nodup' (List.mem_append_right c (below descendant same))
        (List.mem_cons_of_mem _ mem)
  · intro x mem ancestor
    have ne : n ≠ x := by
      rintro rfl
      exact not_mem_before nodup' mem List.mem_cons_self
    obtain ⟨p, q, earlier⟩ := List.append_of_mem mem
    obtain ⟨c', e', aroundX⟩ := around (by rw [split]; exact List.mem_append_left _ mem : x ∈ t.postorder)
    have splitX : t.postorder = p ++ x :: (q ++ n :: post) := by rw [split, earlier]; simp
    obtain ⟨before, -⟩ := split_unique nodup splitX aroundX
    have early : n ∈ p := before ▸ List.mem_append_right c' (below ancestor ne)
    rw [splitX] at nodup
    exact not_mem_before nodup early (List.mem_cons_of_mem _ (by simp))

/-! ## Placed trees -/

mutual
/-- Every child sits at its parent's path followed by its own relative path,
which is not empty. -/
def Placed : Tree α → Prop
  | ⟨path, _, _, _, _, _, _, _, cs⟩ => PlacedBelow path cs
/-- Every subtree of a list sits below `parent` by its relative path and is
placed itself. -/
def PlacedBelow (parent : List String) : List (String × Tree α) → Prop
  | [] => True
  | (_, c) :: cs => (c.path = parent ++ c.relative ∧ c.relative ≠ [] ∧ Placed c) ∧ PlacedBelow parent cs
end

theorem placedBelow_iff {parent : List String} {cs : List (String × Tree α)} :
    PlacedBelow parent cs ↔ ∀ e ∈ cs, e.2.path = parent ++ e.2.relative ∧ e.2.relative ≠ [] ∧ Placed e.2 := by
  induction cs with
  | nil => simp [PlacedBelow]
  | cons e cs ih =>
    obtain ⟨id, c⟩ := e
    simp [PlacedBelow, ih]

theorem placed_iff {t : Tree α} :
    Placed t ↔ ∀ e ∈ t.children, e.2.path = t.path ++ e.2.relative ∧ e.2.relative ≠ [] ∧ Placed e.2 := by
  cases t
  simp only [Placed]
  exact placedBelow_iff

mutual
theorem placed_of_mem : (t : Tree α) → Placed t → ∀ {x : Tree α}, x ∈ t.nodes → Placed x ∧ t.path <+: x.path
  | t@⟨_, _, _, _, _, _, _, _, cs⟩, placed, x, hx => by
    rcases mem_nodes.mp hx with rfl | below
    · exact ⟨placed, List.prefix_rfl⟩
    · exact placedOf_of_mem _ cs (placed_iff.mp placed) below
theorem placedOf_of_mem (parent : List String) : (cs : List (String × Tree α)) →
    (∀ e ∈ cs, e.2.path = parent ++ e.2.relative ∧ e.2.relative ≠ [] ∧ Placed e.2) →
    ∀ {x : Tree α}, (∃ e ∈ cs, x ∈ e.2.nodes) → Placed x ∧ parent <+: x.path
  | [], _, _, ⟨_, mem, _⟩ => absurd mem List.not_mem_nil
  | (id, c) :: cs, h, x, ⟨e, mem, below⟩ => by
    rcases List.mem_cons.mp mem with rfl | mem'
    · obtain ⟨at_, -, placed⟩ := h _ List.mem_cons_self
      obtain ⟨placedX, above⟩ := placed_of_mem c placed below
      exact ⟨placedX, (List.prefix_append parent _).trans (at_ ▸ above)⟩
    · exact placedOf_of_mem parent cs (fun e m => h e (List.mem_cons_of_mem _ m)) ⟨e, mem', below⟩
end

theorem below_child {t x : Tree α} (placed : Placed t) (hx : x ∈ t.nodes) (ne : x ≠ t) :
    ∃ e ∈ t.children, x ∈ e.2.nodes ∧ e.2.relative ≠ [] ∧ t.path ++ e.2.relative <+: x.path := by
  rcases mem_nodes.mp hx with rfl | ⟨e, mem, below⟩
  · exact absurd rfl ne
  · obtain ⟨at_, nonempty, placedE⟩ := placed_iff.mp placed e mem
    exact ⟨e, mem, below, nonempty, at_ ▸ (placed_of_mem e.2 placedE below).2⟩

theorem eq_of_path_eq {t x : Tree α} (placed : Placed t) (hx : x ∈ t.nodes) (same : x.path = t.path) :
    x = t := by
  by_cases root : x = t
  · exact root
  · obtain ⟨e, -, -, nonempty, below⟩ := below_child placed hx root
    have longer := below.length_le
    rw [same, List.length_append] at longer
    exact absurd (List.length_eq_zero_iff.mp (by omega)) nonempty

theorem eq_of_mem_nodes_of_mem_nodes {t x y : Tree α} (placed : Placed t) (hx : x ∈ t.nodes)
    (down : y ∈ x.nodes) (up : x ∈ y.nodes) : y = x := by
  have placedX := (placed_of_mem t placed hx).1
  have placedY := (placed_of_mem x placedX down).1
  have higher := (placed_of_mem x placedX down).2
  have lower := (placed_of_mem y placedY up).2
  exact eq_of_path_eq placedX down (lower.eq_of_length (Nat.le_antisymm lower.length_le higher.length_le))

/-! ## Trees that differ only in their states -/

mutual
/-- Two trees that differ at most in the states their nodes hold. -/
def SameShape : Tree α → Tree α → Prop
  | ⟨p, r, i, a, k, v, _, q, cs⟩, ⟨p', r', i', a', k', v', _, q', cs'⟩ =>
    p = p' ∧ r = r' ∧ i = i' ∧ a = a' ∧ k = k' ∧ v = v' ∧ q = q' ∧ SameShapeOf cs cs'
/-- Two lists of subtrees with the same ids, pairwise of the same shape. -/
def SameShapeOf : List (String × Tree α) → List (String × Tree α) → Prop
  | [], [] => True
  | (id, c) :: cs, (id', c') :: cs' => id = id' ∧ SameShape c c' ∧ SameShapeOf cs cs'
  | [], _ :: _ => False
  | _ :: _, [] => False
end

theorem SameShape.of_fields {p r : List String} {i : String} {a : α} {k v : String} {st st' : Option Payload}
    {q : AgentQueue} {cs cs' : List (String × Tree α)} (children : SameShapeOf cs cs') :
    SameShape ⟨p, r, i, a, k, v, st, q, cs⟩ ⟨p, r, i, a, k, v, st', q, cs'⟩ := by
  simp [SameShape, children]

mutual
theorem converge_sameShape (A : Adapter α) (expired : Bool) :
    (t : Tree α) → (s : Session) → SameShape t (converge A expired t s).1
  | ⟨p, r, i, a, k, v, st, q, cs⟩, s => by
    have children := convergeAll_sameShape A expired cs s
    simp only [converge]
    rcases h : convergeAll A expired cs s with ⟨cs', failure, s'⟩
    rw [h] at children
    simp only
    split
    · exact .of_fields children
    · split
      · exact .of_fields children
      · split <;> exact .of_fields children
theorem convergeAll_sameShape (A : Adapter α) (expired : Bool) :
    (cs : List (String × Tree α)) → (s : Session) → SameShapeOf cs (convergeAll A expired cs s).1
  | [], s => by simp [convergeAll, SameShapeOf]
  | (id, c) :: cs, s => by
    have first := converge_sameShape A expired c s
    simp only [convergeAll]
    rcases h : converge A expired c s with ⟨c', failure, s'⟩
    rw [h] at first
    have rest := convergeAll_sameShape A expired cs s'
    simp only
    rcases h' : convergeAll A expired cs s' with ⟨cs', later, s''⟩
    rw [h'] at rest
    exact ⟨rfl, first, rest⟩
end

theorem SameShape.fields {t t' : Tree α} (h : SameShape t t') :
    t'.path = t.path ∧ t'.relative = t.relative ∧ t'.adapter = t.adapter ∧ t'.queue = t.queue ∧
      SameShapeOf t.children t'.children := by
  obtain ⟨p, r, i, a, k, v, st, q, cs⟩ := t
  obtain ⟨p', r', i', a', k', v', st', q', cs'⟩ := t'
  simp only [SameShape] at h
  obtain ⟨rfl, rfl, rfl, rfl, rfl, rfl, rfl, children⟩ := h
  exact ⟨rfl, rfl, rfl, rfl, children⟩

mutual
theorem SameShape.placed : {t t' : Tree α} → SameShape t t' → Placed t → Placed t'
  | ⟨_, _, _, _, _, _, _, _, cs⟩, ⟨_, _, _, _, _, _, _, _, cs'⟩, same, placed => by
    obtain ⟨rfl, -, -, -, children⟩ := same.fields
    simp only [Placed] at placed ⊢
    exact SameShapeOf.placedBelow children placed
theorem SameShapeOf.placedBelow {parent : List String} :
    {cs cs' : List (String × Tree α)} → SameShapeOf cs cs' → PlacedBelow parent cs → PlacedBelow parent cs'
  | [], [], _, _ => trivial
  | (_, c) :: cs, (_, c') :: cs', ⟨_, same, rest⟩, ⟨⟨at_, nonempty, placed⟩, placedRest⟩ => by
    obtain ⟨path, relative, -⟩ := same.fields
    exact ⟨⟨by rw [path, relative, at_], relative ▸ nonempty, same.placed placed⟩,
      SameShapeOf.placedBelow rest placedRest⟩
end

mutual
theorem SameShape.mem_nodes : {t t' : Tree α} → SameShape t t' → ∀ {x' : Tree α}, x' ∈ t'.nodes →
    ∃ x ∈ t.nodes, SameShape x x'
  | ⟨_, _, _, _, _, _, _, _, cs⟩, ⟨_, _, _, _, _, _, _, _, cs'⟩, same, x', hx' => by
    rcases mem_nodes.mp hx' with rfl | below
    · exact ⟨_, mem_nodes_self _, same⟩
    · obtain ⟨x, hx, sameX⟩ := SameShapeOf.mem_nodes same.fields.2.2.2.2 below
      exact ⟨x, mem_nodes.mpr (.inr hx), sameX⟩
theorem SameShapeOf.mem_nodes : {cs cs' : List (String × Tree α)} → SameShapeOf cs cs' →
    ∀ {x' : Tree α}, (∃ e' ∈ cs', x' ∈ e'.2.nodes) → ∃ x, (∃ e ∈ cs, x ∈ e.2.nodes) ∧ SameShape x x'
  | [], [], _, _, ⟨_, mem, _⟩ => absurd mem List.not_mem_nil
  | (id, c) :: cs, (_, c') :: cs', ⟨_, same, rest⟩, x', ⟨e', mem', below'⟩ => by
    rcases List.mem_cons.mp mem' with rfl | mem''
    · obtain ⟨x, hx, sameX⟩ := same.mem_nodes below'
      exact ⟨x, ⟨(id, c), List.mem_cons_self, hx⟩, sameX⟩
    · obtain ⟨x, ⟨e, mem, below⟩, sameX⟩ := SameShapeOf.mem_nodes rest ⟨e', mem'', below'⟩
      exact ⟨x, ⟨e, List.mem_cons_of_mem _ mem, below⟩, sameX⟩
end

theorem ensure_fst (A : Adapter α) (expired : Bool) (t : Tree α) (s : Session) :
    (ensure A expired t s).1 = (converge A expired t s).1 := by
  unfold ensure
  split <;> rename_i same <;> simp [same]

end Tree

/-! ## Built trees -/

namespace Build

theorem place_ok {A : Adapter α} {a : α} {parent : Option (List String × Option Document)} {s s' : Session}
    {relative path : List String} {edit : Option (Mapping → Mapping)}
    (h : place A a parent s = (.ok (relative, path, edit), s')) :
    match parent with
    | none => relative = [] ∧ path = []
    | some (parentPath, _) => path = parentPath ++ relative ∧ relative ≠ [] := by
  cases parent with
  | none =>
    simp only [place, Prod.mk.injEq, Except.ok.injEq] at h
    exact ⟨h.1.1.symm, h.1.2.1.symm⟩
  | some parent =>
    simp only [place] at h
    split at h
    · simp at h
    · simp only [Prod.mk.injEq, Except.ok.injEq] at h
      obtain ⟨⟨rfl, rfl, rfl⟩, rfl⟩ := h
      rename_i empty
      exact ⟨rfl, by simpa using empty⟩

/-- What a node that built gives away: where it was placed, what it read of
the current document, how its adapter built it, and that every child came out
of a build of its own, below the node. -/
theorem node_ok {A : Adapter α} {scope : Scope} {a : α} {parent : Option (List String × Option Document)}
    {w : Document} {s : Session} {t : Tree α} {w' : Document} {s' : Session}
    (h : node A scope a parent w s = (.ok (t, w'), s')) :
    ∃ edit s₁ found input s₂ built,
      place A a parent s = (.ok (t.relative, t.path, edit), s₁) ∧
      scope.current.lookup t.path .current = .ok found ∧
      input.agents = ⟨t.path, found.getD .null⟩ ∧
      A.build a input s₁ (AgentQueue.create scope.capacity) = (.ok built, s₂, t.queue) ∧
      t.adapter = a ∧
      ∀ e ∈ t.children, ∃ entry ∈ Keyed.ofList built.children, ∃ w s w' s',
        node A scope entry.2.1 (some (t.path, built.handDown)) w s = (.ok (e.2, w'), s') := by
  unfold node at h
  split at h
  · cases h
  rename_i relative path edit s₁ placed
  split at h
  · cases h
  rename_i working _
  split at h
  · cases h
  rename_i desired _
  split at h
  · cases h
  rename_i found looked
  extract_lets identity here handedDown input at h
  split at h
  rename_i result s₂ queue built_eq
  split at h
  · cases h
  split at h
  · cases h
  rename_i built
  extract_lets start step at h
  split at h
  · cases h
  rename_i children w₂ s₃ folded
  simp only [Prod.mk.injEq, Except.ok.injEq] at h
  obtain ⟨⟨rfl, rfl⟩, rfl⟩ := h
  refine ⟨edit, s₁, found, input, s₂, built, placed, looked, rfl, built_eq, rfl, ?_⟩
  have grown := List.foldlRecOn (Keyed.ofList built.children) step (b := start)
    (motive := fun acc => ∀ done w s, acc = (.ok (done, w), s) → ∀ e ∈ done,
      ∃ entry ∈ Keyed.ofList built.children, ∃ w s w' s',
        node A scope entry.2.1 (some (path, built.handDown)) w s = (.ok (e.2, w'), s'))
    (by
      intro done w s same e mem
      simp only [start, Prod.mk.injEq, Except.ok.injEq] at same
      rw [← same.1.1] at mem
      exact absurd mem List.not_mem_nil)
    (by
      intro acc ih entry mem done w s same
      obtain ⟨r, s₀⟩ := acc
      cases r with
      | error e => simp [step] at same
      | ok r =>
        obtain ⟨done₀, w₀⟩ := r
        simp only [step] at same
        split at same
        · rename_i t' w₁ s₁ call
          simp only [Prod.mk.injEq, Except.ok.injEq] at same
          obtain ⟨⟨rfl, rfl⟩, rfl⟩ := same
          intro e memE
          rcases List.mem_append.mp memE with old | new
          · exact ih done₀ w₀ s₀ rfl e old
          · rw [List.mem_singleton] at new
            subst new
            exact ⟨entry, mem, w₀, s₀, w₁, s₁, call⟩
        · simp at same)
  exact grown children w₂ s₃ folded

/-- What a node's queue holds after building: what its adapter left in a fresh
queue, building with its agents bound to the node's path and to its slice of
the current document. -/
def Queued (A : Adapter α) (scope : Scope) (x : Tree α) : Prop :=
  ∃ input s found, scope.current.lookup x.path .current = .ok found ∧
    input.agents = ⟨x.path, found.getD .null⟩ ∧
    (A.build x.adapter input s (AgentQueue.create scope.capacity)).2.2 = x.queue

theorem Queued.of_sameShape {A : Adapter α} {scope : Scope} {x x' : Tree α} (queued : Queued A scope x)
    (same : Tree.SameShape x x') : Queued A scope x' := by
  obtain ⟨path, -, adapter, queue, -⟩ := same.fields
  unfold Queued
  rw [path, adapter, queue]
  exact queued

/-- A built subtree sits where it was asked to, it is placed, and every node's
queue holds what its adapter declared. -/
theorem node_placed {A : Adapter α} {scope : Scope} (a : α) (parent : Option (List String × Option Document))
    (w : Document) (s : Session) {t : Tree α} {w' : Document} {s' : Session}
    (h : node A scope a parent w s = (.ok (t, w'), s')) :
    (match parent with
     | none => t.path = []
     | some (parentPath, _) => t.path = parentPath ++ t.relative ∧ t.relative ≠ []) ∧
    Tree.Placed t ∧ ∀ x ∈ t.nodes, Queued A scope x := by
  obtain ⟨edit, s₁, found, input, s₂, built, placed, looked, agents, built_eq, adapter, children⟩ := node_ok h
  have sits := place_ok placed
  -- each child is a build of its own, one rank down
  have below : ∀ e ∈ t.children, e.2.path = t.path ++ e.2.relative ∧ e.2.relative ≠ [] ∧
      Tree.Placed e.2 ∧ ∀ x ∈ e.2.nodes, Queued A scope x := by
    intro e mem
    obtain ⟨entry, -, w, s, w', s', call⟩ := children e mem
    obtain ⟨at_, placedE, queued⟩ := node_placed entry.2.1 (some (t.path, built.handDown)) w s call
    exact ⟨at_.1, at_.2, placedE, queued⟩
  refine ⟨?_, Tree.placed_iff.mpr fun e mem => ⟨(below e mem).1, (below e mem).2.1, (below e mem).2.2.1⟩, ?_⟩
  · rcases parent with _ | ⟨parentPath, handedDown⟩
    · exact sits.2
    · exact sits
  · intro x hx
    rcases Tree.mem_nodes.mp hx with rfl | ⟨e, mem, inside⟩
    · exact ⟨input, s₁, found, looked, agents, by rw [adapter, built_eq]⟩
    · exact (below e mem).2.2.2 x inside
termination_by A.rank a
decreasing_by exact entry.2.2

end Build

/-- A tree that building answers sits at the root, it is placed, and every
node's queue holds what its adapter declared. -/
theorem build_placed {A : Adapter α} {root : α} {desired current : Document} {capacity : Nat}
    {s s' : Session} {t : Tree α} (h : build A root desired current capacity s = (.ok t, s')) :
    t.path = [] ∧ t.Placed ∧ ∀ x ∈ t.nodes, Build.Queued A ⟨current, capacity⟩ x := by
  unfold build at h
  split at h
  · rename_i t' w s'' built
    simp only [Prod.mk.injEq, Except.ok.injEq] at h
    obtain ⟨rfl, rfl⟩ := h
    exact Build.node_placed root none desired s built
  · cases h

theorem ensure_placed {A : Adapter α} {root : α} {desired current : Document} {capacity : Nat}
    {s s' : Session} {built : Tree α} (h : build A root desired current capacity s = (.ok built, s'))
    (expired : Bool) (s₂ : Session) :
    (ensure A expired built s₂).1.path = [] ∧ (ensure A expired built s₂).1.Placed ∧
      ∀ x ∈ (ensure A expired built s₂).1.nodes, Build.Queued A ⟨current, capacity⟩ x := by
  obtain ⟨root, placed, queued⟩ := build_placed h
  have same := Tree.converge_sameShape A expired built s₂
  rw [Tree.ensure_fst]
  refine ⟨same.fields.1 ▸ root, same.placed placed, fun x hx => ?_⟩
  obtain ⟨x₀, hx₀, sameX⟩ := same.mem_nodes hx
  exact (queued x₀ hx₀).of_sameShape sameX

end Reconcile
