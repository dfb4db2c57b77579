import Reconcile.Proofs.Placement

/-!
# Listing the nodes of a tree with a stack

A tree lists its nodes by a loop over an explicit stack (`Tree.visit`): the
top comes off and is listed, and its children go on, the last child first.
What the loop has still to list is always the pre-order of every subtree on
the stack, top first (`Tree.visit_eq`). Started from the tree alone, it lists
the pre-order: the root, then the nodes of each child in turn, each node once
(`Tree.listed_preorder`). So the list is as long as the tree has nodes, and
the nodes it counts as converged are those holding a state, counted down the
tree (`Tree.stateCount`).
-/

namespace Reconcile

namespace Tree

variable {α : Type}

mutual
/-- The number of nodes holding a state, counted down the tree. -/
def stateCount : Tree α → Nat
  | ⟨_, _, _, _, _, _, state, _, cs⟩ => (if state.isSome then 1 else 0) + stateCountOf cs
/-- The number of nodes holding a state in a list of subtrees. -/
def stateCountOf : List (String × Tree α) → Nat
  | [] => 0
  | (_, c) :: cs => stateCount c + stateCountOf cs
end

theorem nodesOf_eq_flatMap (cs : List (String × Tree α)) : nodesOf cs = (cs.map Prod.snd).flatMap nodes := by
  induction cs with
  | nil => rfl
  | cons e cs ih =>
    obtain ⟨id, c⟩ := e
    simp [nodesOf, ih]

/-- What a visit lists is the pre-order of each subtree on the stack, top
first. This is the loop's invariant: taking the top off and pushing its
children in reverse puts the children's pre-orders first, in order. -/
theorem visit_eq (stack : List (Tree α)) : visit stack = stack.flatMap nodes := by
  fun_induction visit stack with
  | case1 => rfl
  | case2 t stack ih =>
    -- the induction names the children as the termination proof saw them
    rw [List.unattach_reverse, List.unattach_attach] at ih
    rw [ih, pushEntries_reverse, List.flatMap_append, List.flatMap_cons, nodes_eq t, nodesOf_eq_flatMap]
    rfl

theorem listed_eq_nodes (t : Tree α) : t.listed = t.nodes := by
  simp [listed, visit_eq]

mutual
theorem length_filter_nodes : (t : Tree α) → (t.nodes.filter fun n => n.state.isSome).length = t.stateCount
  | ⟨_, _, _, _, _, _, state, _, cs⟩ => by
    cases state with
    | none => simp [nodes, stateCount, length_filter_nodesOf cs]
    | some p =>
      simp [nodes, stateCount, length_filter_nodesOf cs]
      omega
theorem length_filter_nodesOf : (cs : List (String × Tree α)) →
    ((nodesOf cs).filter fun n => n.state.isSome).length = stateCountOf cs
  | [] => rfl
  | (_, c) :: cs => by
    simp only [nodesOf, stateCountOf, List.filter_append, List.length_append, length_filter_nodes c,
      length_filter_nodesOf cs]
end

/-- Listing a tree's nodes with a stack lists them in pre-order: the root,
then the listing of each child in turn, children in the order the tree keeps
them, which is by id. It is the recursive pre-order `Tree.nodes`, so each
node is listed once: the list is as long as the tree has nodes, and the
nodes it counts as converged are those holding a state. -/
theorem listed_preorder (t : Tree α) :
    t.listed = t.nodes ∧ t.listed = t :: t.children.flatMap (fun e => e.2.listed) ∧
      t.listed.length = t.nodeCount ∧ t.converged = t.stateCount := by
  have children : t.children.flatMap (fun e => e.2.listed) = nodesOf t.children := by
    simp only [listed_eq_nodes, nodesOf_eq_flatMap, List.flatMap_map]
  refine ⟨listed_eq_nodes t, ?_, ?_, ?_⟩
  · rw [children, listed_eq_nodes, nodes_eq]
  · rw [listed_eq_nodes, length_nodes]
  · rw [converged, listed_eq_nodes, length_filter_nodes]

end Tree

end Reconcile
