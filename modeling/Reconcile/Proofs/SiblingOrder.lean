import Reconcile.Proofs.Commute
import Reconcile.Proofs.AgentChanges
import Mathlib.Data.List.Nodup

/-!
# The order of siblings

A rebuild folds the children of every node in id order. When the nodes nest
as their paths do, any other order of the children gives the same document
and the same failures, in some order (`rebuild_sibling_order`). The subtrees
of two siblings then lie apart, so their writes commute, and a node takes its
children's entries out the same in any order.

Without the nesting the order matters. A child at `a/b` written before its
sibling at `a` is overwritten by the sibling's entry; written after it, it
lands inside the sibling's state (`sibling_order_matters`).
-/

namespace Reconcile

namespace Tree

variable {α : Type}

section Reorder

variable (order : List String → List (String × Tree α) → List (String × Tree α))

mutual
/-- The tree with the children of every node in the order `order` gives them,
from the node's path and its children, themselves reordered. -/
def reorder : Tree α → Tree α
  | ⟨p, r, i, a, k, v, st, q, cs⟩ => ⟨p, r, i, a, k, v, st, q, order p (reorderOf cs)⟩
/-- Subtrees with the children of every node reordered. -/
def reorderOf : List (String × Tree α) → List (String × Tree α)
  | [] => []
  | (id, c) :: cs => (id, reorder c) :: reorderOf cs
end

theorem reorder_eq (t : Tree α) :
    reorder order t = { t with children := order t.path (reorderOf order t.children) } := by
  cases t
  rfl

theorem reorderOf_eq_map (cs : List (String × Tree α)) :
    reorderOf order cs = cs.map fun e => (e.1, reorder order e.2) := by
  induction cs with
  | nil => rfl
  | cons e cs ih => exact congrArg _ ih

@[simp] theorem path_reorder (t : Tree α) : (reorder order t).path = t.path := by
  cases t
  rfl

@[simp] theorem relative_reorder (t : Tree α) : (reorder order t).relative = t.relative := by
  cases t
  rfl

variable {order}

mutual
theorem path_of_mem_nodes_reorder (perm : ∀ p cs, (order p cs).Perm cs) : ∀ (t : Tree α) {x : Tree α},
    x ∈ (reorder order t).nodes → ∃ y ∈ t.nodes, y.path = x.path
  | ⟨p, r, i, a, k, v, st, q, cs⟩, x, hx => by
    rcases mem_nodes.mp hx with rfl | ⟨e, mem, below⟩
    · exact ⟨_, mem_nodes_self _, rfl⟩
    · obtain ⟨y, hy, same⟩ := path_of_mem_nodesOf_reorderOf perm cs ⟨e, (perm p _).mem_iff.mp mem, below⟩
      exact ⟨y, mem_nodes.mpr (.inr hy), same⟩
theorem path_of_mem_nodesOf_reorderOf (perm : ∀ p cs, (order p cs).Perm cs) :
    ∀ (cs : List (String × Tree α)) {x : Tree α},
      (∃ e ∈ reorderOf order cs, x ∈ e.2.nodes) → ∃ y, (∃ e ∈ cs, y ∈ e.2.nodes) ∧ y.path = x.path
  | [], _, ⟨_, mem, _⟩ => absurd mem List.not_mem_nil
  | (id, c) :: cs, x, ⟨e, mem, below⟩ => by
    rcases List.mem_cons.mp mem with rfl | mem'
    · obtain ⟨y, hy, same⟩ := path_of_mem_nodes_reorder perm c below
      exact ⟨y, ⟨(id, c), List.mem_cons_self, hy⟩, same⟩
    · obtain ⟨y, ⟨e', mem'', hy⟩, same⟩ := path_of_mem_nodesOf_reorderOf perm cs ⟨e, mem', below⟩
      exact ⟨y, ⟨e', List.mem_cons_of_mem _ mem'', hy⟩, same⟩
end

end Reorder

theorem postorderOf_eq_flatMap (cs : List (String × Tree α)) : postorderOf cs = cs.flatMap fun e => e.2.postorder := by
  induction cs with
  | nil => rfl
  | cons e cs ih => rw [postorderOf, ih, List.flatMap_cons]

/-- Two subtrees whose nodes all lie apart from one another. -/
def NodesApart (c c' : Tree α) : Prop :=
  ∀ y ∈ c.nodes, ∀ z ∈ c'.nodes, Apart y.path z.path

/-- Below every node, the subtrees of two siblings lie apart. -/
def SiblingsApart (t : Tree α) : Prop :=
  ∀ x ∈ t.nodes, x.children.Pairwise fun e e' => NodesApart e.2 e'.2

theorem SiblingsApart.below {t x : Tree α} (apart : t.SiblingsApart) (hx : x ∈ t.nodes) : x.SiblingsApart :=
  fun y hy => apart y (nodes_trans t hx hy)

/-- With distinct paths, nesting puts siblings apart: a node below one child
and a node below another cannot lie one above the other, as the lower one
would then be below both children. -/
theorem Nested.siblingsApart {t : Tree α} (distinct : (t.nodes.map path).Nodup) (nested : t.Nested) :
    t.SiblingsApart := by
  intro x hx
  have nodup : ((postorderOf x.children).map path).Nodup := by
    have whole : (t.postorder.map path).Nodup := ((postorder_perm t).map path).nodup_iff.mpr distinct
    have own := whole.sublist ((postorder_contiguous t hx).sublist.map path)
    rw [postorder_eq, List.map_append] at own
    exact (List.nodup_append.mp own).1
  rw [postorderOf_eq_flatMap, List.map_flatMap, List.nodup_flatMap] at nodup
  refine nodup.2.imp_of_mem fun {e e'} mem mem' disjoint => ?_
  have inside : ∀ {c : String × Tree α}, c ∈ x.children → ∀ {y : Tree α}, y ∈ c.2.nodes → y ∈ t.nodes :=
    fun {_} mem {_} below => nodes_trans t hx (mem_nodes.mpr (.inr ⟨_, mem, below⟩))
  have lower : ∀ {c c' : String × Tree α}, c ∈ x.children → c' ∈ x.children →
      (c.2.postorder.map path).Disjoint (c'.2.postorder.map path) →
      ∀ y ∈ c.2.nodes, ∀ z ∈ c'.2.nodes, ¬ y.path <+: z.path := by
    intro c c' mem mem' disjoint y hy z hz pre
    have below : z ∈ c.2.nodes := nodes_trans c.2 hy (nested y (inside mem hy) z (inside mem' hz) pre)
    exact disjoint (List.mem_map_of_mem (mem_postorder.mpr below)) (List.mem_map_of_mem (mem_postorder.mpr hz))
  exact fun y hy z hz =>
    ⟨lower mem mem' disjoint y hy z hz, lower mem' mem (fun _ h h' => disjoint h' h) z hz y hy⟩

theorem nested_of_paths {t : Tree α} (distinct : (t.nodes.map path).Nodup)
    (paths : ∀ x ∈ t.nodes, ∀ y ∈ t.nodes, x.path <+: y.path → y.path ∈ x.nodes.map path) : t.Nested := by
  intro x hx y hy pre
  obtain ⟨z, hz, same⟩ := List.mem_map.mp (paths x hx y hy pre)
  obtain rfl : z = y := List.inj_on_of_nodup_map distinct (nodes_trans t hx hz) hy same
  exact hz

end Tree

namespace Rebuild

variable {α : Type}

/-- Writes made for nodes that lie apart from one another. -/
def WritesApart (ws ws' : List (Write α)) : Prop :=
  ∀ w ∈ ws, ∀ w' ∈ ws', Apart w.node.path w'.node.path

theorem WritesApart.symm {ws ws' : List (Write α)} (h : WritesApart ws ws') : WritesApart ws' ws :=
  fun w' mem' w mem => (h w mem w' mem').symm

/-- Two lists of writes that run alike: from any document they leave the same
document and meet the same failures, in some order. -/
def Alike (tags : RecordTags) (ws ws' : List (Write α)) : Prop :=
  ∀ out, (run tags ws out).1 = (run tags ws' out).1 ∧
    ((run tags ws out).2.filterMap Prod.snd).Perm ((run tags ws' out).2.filterMap Prod.snd)

namespace Alike

variable {tags : RecordTags} {ws ws' ws'' v v' : List (Write α)}

theorem refl (tags : RecordTags) (ws : List (Write α)) : Alike tags ws ws :=
  fun _ => ⟨rfl, List.Perm.refl _⟩

theorem trans (h : Alike tags ws ws') (h' : Alike tags ws' ws'') : Alike tags ws ws'' :=
  fun out => ⟨(h out).1.trans (h' out).1, (h out).2.trans (h' out).2⟩

theorem append (h : Alike tags ws ws') (hv : Alike tags v v') : Alike tags (ws ++ v) (ws' ++ v') := by
  intro out
  obtain ⟨doc, failures⟩ := h out
  obtain ⟨doc', failures'⟩ := hv (run tags ws' out).1
  rw [run_append, run_append, doc]
  simp only [List.filterMap_append]
  exact ⟨doc', failures.append failures'⟩

theorem of_perform : ∀ {ws ws' : List (Write α)}, ws.map (Write.perform tags) = ws'.map (Write.perform tags) →
    Alike tags ws ws'
  | [], [], _ => refl tags []
  | w :: ws, w' :: ws', same => by
    obtain ⟨first, rest⟩ := List.cons.inj same
    intro out
    obtain ⟨doc, failures⟩ := of_perform rest (w'.perform tags out).1
    rw [run_cons, run_cons, first]
    refine ⟨doc, ?_⟩
    simp only [List.filterMap_cons]
    cases (w'.perform tags out).2 with
    | none => exact failures
    | some e => exact failures.cons e

theorem swap (apart : WritesApart ws ws') : Alike tags (ws ++ ws') (ws' ++ ws) := fun out =>
  ⟨(run_append_comm tags apart out).1, (run_append_comm tags apart out).2.filterMap Prod.snd⟩

/-- Blocks of writes, for nodes apart from one block to another, run alike in
any order of the blocks. -/
theorem flatten_perm {bs bs' : List (List (Write α))} (perm : bs.Perm bs') (apart : bs.Pairwise WritesApart) :
    Alike tags bs.flatten bs'.flatten := by
  induction perm with
  | nil => exact refl tags []
  | cons b _ ih => exact (refl tags b).append (ih (List.pairwise_cons.mp apart).2)
  | swap b b' bs =>
    have first : WritesApart b' b := (List.pairwise_cons.mp apart).1 b List.mem_cons_self
    simpa only [List.flatten_cons, List.append_assoc] using (swap first).append (refl tags bs.flatten)
  | trans perm₁ _ ih₁ ih₂ => exact (ih₁ apart).trans (ih₂ (perm₁.pairwise apart WritesApart.symm))

end Alike

theorem node_mem_of_mem_writes {t : Tree α} {w : Write α} (h : w ∈ writes t) : w.node ∈ t.nodes := by
  obtain ⟨n, mem, hw⟩ := List.mem_flatMap.mp h
  rw [node_of_mem_writesOf hw]
  exact Tree.mem_postorder.mp mem

theorem writes_eq_blocks (t : Tree α) : writes t = (t.children.map fun e => writes e.2).flatten ++ writesOf t := by
  rw [writes_eq, Tree.postorderOf_eq_flatMap, List.flatMap_assoc, List.flatMap_def]
  rfl

section Reorder

variable {order : List String → List (String × Tree α) → List (String × Tree α)} (tags : RecordTags)

/-- A node's own writes act alike once its children are reordered: they read
the children only through the first segments of their relative paths. -/
theorem writesOf_reorder (perm : ∀ p cs, (order p cs).Perm cs) (t : Tree α) :
    (writesOf (t.reorder order)).map (Write.perform tags) = (writesOf t).map (Write.perform tags) := by
  obtain ⟨p, r, i, a, k, v, st, q, cs⟩ := t
  cases st with
  | none =>
    simp only [Tree.reorder, writesOf, List.map_map]
    rfl
  | some st =>
    have same : Write.perform tags (.entry ⟨p, r, i, a, k, v, some st, q, order p (Tree.reorderOf order cs)⟩) =
        Write.perform tags (.entry ⟨p, r, i, a, k, v, some st, q, cs⟩) := by
      funext out
      calc _ = writeNode ⟨p, r, i, a, k, v, some st, q, Tree.reorderOf order cs⟩ tags q.changes out :=
            @writeNode_perm α ⟨p, r, i, a, k, v, some st, q, Tree.reorderOf order cs⟩ _ (perm p _) tags q.changes out
        _ = writeNode ⟨p, r, i, a, k, v, some st, q, cs⟩ tags q.changes out :=
            writeNode_children ⟨p, r, i, a, k, v, some st, q, cs⟩ q _ (by simp [Tree.reorderOf_eq_map]) tags
              q.changes out
    simp only [Tree.reorder, writesOf, List.map_cons, List.map_nil, same]

/-- The blocks of reordered siblings, whose subtrees lie apart, are for nodes
apart from one another. -/
theorem blocks_apart (perm : ∀ p cs, (order p cs).Perm cs) {p : List String} {cs : List (String × Tree α)}
    (apart : cs.Pairwise fun e e' => Tree.NodesApart e.2 e'.2) :
    ((order p (Tree.reorderOf order cs)).map fun e => writes e.2).Pairwise WritesApart := by
  rw [List.pairwise_map, (perm p _).pairwise_iff fun h => WritesApart.symm h, Tree.reorderOf_eq_map, List.pairwise_map]
  refine apart.imp fun {e e'} nodes w hw w' hw' => ?_
  obtain ⟨y, hy, same⟩ := Tree.path_of_mem_nodes_reorder perm e.2 (node_mem_of_mem_writes hw)
  obtain ⟨z, hz, same'⟩ := Tree.path_of_mem_nodes_reorder perm e'.2 (node_mem_of_mem_writes hw')
  rw [← same, ← same']
  exact nodes y hy z hz

mutual
/-- The writes of a reordered tree run alike with those of the tree. -/
theorem writes_reorder (perm : ∀ p cs, (order p cs).Perm cs) :
    ∀ t : Tree α, t.SiblingsApart → Alike tags (writes (t.reorder order)) (writes t)
  | ⟨p, r, i, a, k, v, st, q, cs⟩, apart => by
    rw [writes_eq_blocks, writes_eq_blocks]
    refine Alike.append ?_ (Alike.of_perform (writesOf_reorder tags perm _))
    -- the siblings' blocks back in id order, then each block reordered inside
    exact (Alike.flatten_perm ((perm p _).map _) (blocks_apart perm (apart _ (Tree.mem_nodes_self _)))).trans
      (blocks_reorder perm cs fun e mem =>
        apart.below (Tree.mem_nodes.mpr (.inr ⟨e, mem, Tree.mem_nodes_self _⟩)))
theorem blocks_reorder (perm : ∀ p cs, (order p cs).Perm cs) :
    ∀ cs : List (String × Tree α), (∀ e ∈ cs, e.2.SiblingsApart) →
    Alike tags ((Tree.reorderOf order cs).map fun e => writes e.2).flatten (cs.map fun e => writes e.2).flatten
  | [], _ => Alike.refl tags []
  | (_, c) :: cs, apart =>
    (writes_reorder perm c (apart _ List.mem_cons_self)).append
      (blocks_reorder perm cs fun e mem => apart e (List.mem_cons_of_mem _ mem))
end

end Reorder

/-- Folding the children of every node in any order rebuilds the same
document, with the same failures in some order, when the node paths are
distinct and the nodes nest as their paths do. -/
theorem rebuild_sibling_order (order : List String → List (String × Tree α) → List (String × Tree α))
    (perm : ∀ p cs, (order p cs).Perm cs) (tags : RecordTags) (D : Document) {t : Tree α}
    (distinct : (t.nodes.map Tree.path).Nodup) (nested : t.Nested) :
    (rebuild tags D (t.reorder order)).document = (rebuild tags D t).document ∧
      (rebuild tags D (t.reorder order)).failures.Perm (rebuild tags D t).failures := by
  obtain ⟨doc, failures⟩ := writes_reorder tags perm t (nested.siblingsApart distinct) D
  rw [(rebuild_eq_run tags D _).1, (rebuild_eq_run tags D _).1, (rebuild_eq_run tags D _).2,
    (rebuild_eq_run tags D _).2]
  exact ⟨doc, failures⟩

/-- Two scripted siblings `a` and `b` below a root, converged. -/
def scriptedBranches : Tree Script where
  path := []
  relative := []
  identity := "root"
  adapter :=
    { name := "root", id := "root", path := [], kind := "test/root", version := "v1",
      state := .object [("name", .string "root")],
      children := [
        { name := "a", id := "a", path := ["a"], kind := "test/a", version := "v1",
          state := .object [("name", .string "a")] },
        { name := "b", id := "b", path := ["b"], kind := "test/b", version := "v1",
          state := .object [("name", .string "b")] }] }
  kind := "test/root"
  version := "v1"
  state := some (.document (.object [("name", .string "root")]))
  queue := AgentQueue.create 4
  children := [
    ("a", { path := ["a"], relative := ["a"], identity := "a",
            adapter := { name := "a", id := "a", path := ["a"], kind := "test/a", version := "v1",
                         state := .object [("name", .string "a")] },
            kind := "test/a", version := "v1", state := some (.document (.object [("name", .string "a")])),
            queue := AgentQueue.create 4 }),
    ("b", { path := ["b"], relative := ["b"], identity := "b",
            adapter := { name := "b", id := "b", path := ["b"], kind := "test/b", version := "v1",
                         state := .object [("name", .string "b")] },
            kind := "test/b", version := "v1", state := some (.document (.object [("name", .string "b")])),
            queue := AgentQueue.create 4 })]

/-- The siblings of `scriptedBranches` folded in reverse rebuild the same. -/
theorem branches_in_reverse :
    (scriptedBranches.nodes.map Tree.path).Nodup ∧ scriptedBranches.Nested ∧
      (rebuild {} .null (scriptedBranches.reorder fun _ cs => cs.reverse)).document =
        (rebuild {} .null scriptedBranches).document ∧
      (rebuild {} .null (scriptedBranches.reorder fun _ cs => cs.reverse)).failures.Perm
        (rebuild {} .null scriptedBranches).failures := by
  have distinct : (scriptedBranches.nodes.map Tree.path).Nodup := by decide
  have nested : scriptedBranches.Nested := Tree.nested_of_paths distinct (by decide)
  exact ⟨distinct, nested,
    rebuild_sibling_order (fun _ cs => cs.reverse) (fun _ cs => List.reverse_perm cs) {} .null distinct nested⟩

/-- Without the nesting the order of siblings matters. `scriptedSiblings`, as
built and converged, has `n1` at `a/b` before `n2` at `a`; its paths are
distinct. In id order `n2`'s entry overwrites `n1`'s; in reverse order `n1`'s
entry lands inside `n2`'s state. Neither order reports a failure. -/
theorem sibling_order_matters :
    (∃ built s', build Script.adapter scriptedSiblings.adapter
        (.object [("spec", .object [("a", .object [("spec", .object [("b", .object [])])])])]) .null 4 {} =
        (.ok built, s') ∧ (ensure Script.adapter false built {}).1 = scriptedSiblings) ∧
      (scriptedSiblings.nodes.map Tree.path).Nodup ∧
      (rebuild {} .null scriptedSiblings).failures = [] ∧
      (rebuild {} .null (scriptedSiblings.reorder fun _ cs => cs.reverse)).failures = [] ∧
      (rebuild {} .null (scriptedSiblings.reorder fun _ cs => cs.reverse)).document ≠
        (rebuild {} .null scriptedSiblings).document := by
  refine ⟨⟨{ scriptedSiblings with
      state := none, children := scriptedSiblings.children.map fun c => (c.1, { c.2 with state := none }) },
    { log := ["build:root", "desired:root:\x7b\"spec\":\x7b\"a\":\x7b\"spec\":\x7b\"b\":\x7b\x7d\x7d\x7d\x7d\x7d",
              "build:n1", "desired:n1:\x7b\x7d", "build:n2", "desired:n2:\x7b\"spec\":\x7b\"b\":\x7b\x7d\x7d\x7d"] },
    ?_, rfl⟩, by decide, by decide +kernel, by decide +kernel, by decide +kernel⟩
  unfold build
  unfold Build.node
  unfold Build.node
  rfl

end Rebuild

end Reconcile
