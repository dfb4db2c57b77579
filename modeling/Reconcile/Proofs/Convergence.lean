import Reconcile.Proofs.Placement

/-!
# Convergence, node by node

Converging a tree forgets every state the nodes held and asks each node's
adapter at most once, children first. A node converges all of its children,
also after one of them failed; it is checked only if every child's adapter
answered with a state, and asked only if, when checked, the context is
neither cancelled nor past its deadline. It then holds what its adapter
answered: the state, or the partial state that came with a failure.

`convergeTraced` runs the same convergence and marks every node with what
happened there (`Outcome`); forgetting the marks gives the run of `converge`
back. At every node of every tree, under any adapter and whatever the
cancellation, the marks are `Faithful`, and the checks, taken children
first, hand the session along from one to the next (`converge_outcomes`).
-/

namespace Reconcile

namespace Tree

variable {α β : Type}

theorem states_mapAdapterOf (f : α → β) :
    ∀ cs : List (String × Tree α), (mapAdapterOf f cs).filterMap (fun e => e.2.state.map fun st => (e.1, st)) =
      cs.filterMap fun e => e.2.state.map fun st => (e.1, st)
  | [] => rfl
  | (_, ⟨_, _, _, _, _, _, _, _, _⟩) :: cs => by
    simp only [mapAdapterOf, mapAdapter, List.filterMap_cons, states_mapAdapterOf f cs]

theorem mem_nodes_of_child {t : Tree α} {e : String × Tree α} (mem : e ∈ t.children) : e.2 ∈ t.nodes :=
  mem_nodes.mpr (.inr ⟨e, mem, mem_nodes_self _⟩)

theorem forall_mem_nodes {P : Tree α → Prop} {t : Tree α} (here : P t) (below : ∀ v ∈ nodesOf t.children, P v) :
    ∀ v ∈ t.nodes, P v := by
  intro v hv
  rw [nodes_eq] at hv
  rcases List.mem_cons.mp hv with rfl | inner
  · exact here
  · exact below v inner

end Tree

namespace Convergence

variable {α : Type}

/-- What converging did at one node, once its children were done. -/
inductive Outcome where
  /-- Some child failed, so the node was not checked. -/
  | blocked
  /-- Checked with the session at hand, the context cancelled or past its
  deadline, so the adapter was not asked. -/
  | cancelled (checked : Session)
  /-- Checked with the session at hand and asked, given the states of the
  children; the adapter answered and returned a session. -/
  | asked (checked : Session) (states : List (String × Payload)) (answer : Except EnsureFailure Payload)
      (returned : Session)

namespace Outcome

/-- The state the node holds afterwards: the adapter's state, or the partial
state of its failure. -/
def state : Outcome → Option Payload
  | asked _ _ (.ok st) _ => some st
  | asked _ _ (.error f) _ => f.leftover
  | _ => none

/-- The adapter was asked and answered with a state. -/
def succeeded : Outcome → Bool
  | asked _ _ (.ok _) _ => true
  | _ => false

/-- The session the node was checked with, if it was. -/
def checked? : Outcome → Option Session
  | blocked => none
  | cancelled s => some s
  | asked s _ _ _ => some s

/-- The session a check was given and the one it passed on. -/
def handoff : Outcome → Option (Session × Session)
  | blocked => none
  | cancelled s => some (s, s)
  | asked s _ _ s' => some (s, s')

theorem state_of_succeeded {o : Outcome} (h : o.succeeded) : ∃ st, o.state = some st := by
  cases o with
  | asked _ _ answer _ =>
    cases answer with
    | ok st => exact ⟨st, rfl⟩
    | error f => cases h
  | _ => cases h

theorem asked_of_state {o : Outcome} {st : Payload} (h : o.state = some st) :
    ∃ c states answer r, o = asked c states answer r := by
  cases o with
  | asked c states answer r => exact ⟨c, states, answer, r, rfl⟩
  | _ => cases h

end Outcome

/-- Sessions handed along a list of steps from `s` to `s'`: each step is
given the session the previous one returned. -/
def Threads : Session → List (Session × Session) → Session → Prop
  | s, [], s' => s = s'
  | s, (given, returned) :: rest, s' => given = s ∧ Threads returned rest s'

theorem Threads.append {s s' s'' : Session} :
    ∀ {l : List (Session × Session)} (l' : List (Session × Session)), Threads s l s' → Threads s' l' s'' →
      Threads s (l ++ l') s''
  | [], _, first, second => by
    cases first
    exact second
  | (_, _) :: _, l', first, second => ⟨first.1, Threads.append l' first.2 second⟩

mutual
/-- Converges a subtree as `converge` does, marking every node with what
converging did there. -/
def convergeTraced (A : Adapter α) (expired : Bool) :
    Tree α → Session → Tree (α × Outcome) × Option EnsureError × Session
  | ⟨path, relative, identity, a, kind, version, _, queue, children⟩, s =>
    match convergeAllTraced A expired children s with
    | (children, failure, s) =>
      let node (o : Outcome) (state : Option Payload) : Tree (α × Outcome) :=
        ⟨path, relative, identity, (a, o), kind, version, state, queue, children⟩
      match failure with
      | some e => (node .blocked none, some e, s)
      | none =>
        if s.cancelled || expired then (node (.cancelled s) none, some (.cancelled identity (Path.format path)), s)
        else
          let states := children.filterMap fun entry => entry.2.state.map fun st => (entry.1, st)
          match A.ensure a states s with
          | (.ok st, s') => (node (.asked s states (.ok st) s') (some st), none, s')
          | (.error f, s') =>
            (node (.asked s states (.error f) s') f.leftover, some (.adapter identity (Path.format path) f.fault), s')
/-- Converges sibling subtrees as `convergeAll` does, marking their nodes. -/
def convergeAllTraced (A : Adapter α) (expired : Bool) :
    List (String × Tree α) → Session → List (String × Tree (α × Outcome)) × Option EnsureError × Session
  | [], s => ([], none, s)
  | (id, c) :: rest, s =>
    match convergeTraced A expired c s with
    | (c, first, s) =>
      match convergeAllTraced A expired rest s with
      | (rest, later, s) => ((id, c) :: rest, first.orElse fun _ => later, s)
end

mutual
/-- The marked run, its marks forgotten, is the run of `converge`. -/
theorem converge_eq_traced (A : Adapter α) (expired : Bool) : (t : Tree α) → (s : Session) →
    converge A expired t s =
      ((convergeTraced A expired t s).1.mapAdapter Prod.fst, (convergeTraced A expired t s).2)
  | ⟨path, relative, identity, a, kind, version, st, queue, children⟩, s => by
    have rest := convergeAll_eq_traced A expired children s
    rw [converge, convergeTraced, rest]
    rcases convergeAllTraced A expired children s with ⟨cs, failure, s₁⟩
    dsimp only
    rw [Tree.states_mapAdapterOf]
    rcases failure with _ | e
    · by_cases stop : (s₁.cancelled || expired) = true
      · simp only [stop, if_true]
        rfl
      · simp only [stop, if_false, Bool.false_eq_true]
        generalize A.ensure a (cs.filterMap fun entry => entry.2.state.map fun st => (entry.1, st)) s₁ = answer
        rcases answer with ⟨f | st', s'⟩ <;> rfl
    · rfl
/-- The marked run of siblings, its marks forgotten, is that of
`convergeAll`. -/
theorem convergeAll_eq_traced (A : Adapter α) (expired : Bool) : (cs : List (String × Tree α)) → (s : Session) →
    convergeAll A expired cs s =
      (Tree.mapAdapterOf Prod.fst (convergeAllTraced A expired cs s).1, (convergeAllTraced A expired cs s).2)
  | [], _ => rfl
  | (id, c) :: rest, s => by
    have first := converge_eq_traced A expired c s
    rw [convergeAll, convergeAllTraced, first]
    rcases convergeTraced A expired c s with ⟨c', failure, s₁⟩
    dsimp only
    have later := convergeAll_eq_traced A expired rest s₁
    rw [later]
    rcases convergeAllTraced A expired rest s₁ with ⟨rest', failure', s₂⟩
    rfl
end

/-- What its mark says of a node of a marked run: the node holds the state
the mark gives; it was checked exactly when every child's adapter answered
with a state; it was asked exactly when it was checked with the context
neither cancelled nor past its deadline; and then its adapter was given the
states of all its children, by id and in order, and answered as marked. -/
structure Faithful (A : Adapter α) (expired : Bool) (v : Tree (α × Outcome)) : Prop where
  state : v.state = v.adapter.2.state
  checked : v.adapter.2.checked?.isSome ↔ ∀ e ∈ v.children, e.2.adapter.2.succeeded
  asked : (∃ c states answer r, v.adapter.2 = .asked c states answer r) ↔
    ∃ c, v.adapter.2.checked? = some c ∧ (c.cancelled || expired) = false
  states : ∀ c states answer r, v.adapter.2 = .asked c states answer r →
    v.children.map (fun e => e.2.state.map fun st => (e.1, st)) = states.map some
  answered : ∀ c states answer r, v.adapter.2 = .asked c states answer r →
    A.ensure v.adapter.1 states c = (answer, r)

section Marks

variable {A : Adapter α} {expired : Bool}

/-- Children whose adapters all answered with a state all hold one, so the
states they hand on list every child by id, in order. -/
theorem children_states {cs : List (String × Tree (α × Outcome))}
    (faithful : ∀ v ∈ Tree.nodesOf cs, Faithful A expired v) (succeeded : ∀ e ∈ cs, e.2.adapter.2.succeeded) :
    cs.map (fun e => e.2.state.map fun st => (e.1, st)) =
      (cs.filterMap fun e => e.2.state.map fun st => (e.1, st)).map some := by
  rw [List.map_filterMap_some_eq_filter_map_isSome, eq_comm, List.filter_eq_self]
  intro x mem
  obtain ⟨e, emem, rfl⟩ := List.mem_map.mp mem
  have held := (faithful e.2 (Tree.mem_nodesOf.mpr ⟨e, emem, Tree.mem_nodes_self _⟩)).state
  obtain ⟨st, hst⟩ := Outcome.state_of_succeeded (succeeded e emem)
  simp [held, hst]

/-- In a marked run, a node holding a state has all its children holding
one: the nodes holding a state are closed under descendants. -/
theorem children_hold {T : Tree (α × Outcome)} (faithful : ∀ v ∈ T.nodes, Faithful A expired v)
    {v : Tree (α × Outcome)} (hv : v ∈ T.nodes) (holds : v.state.isSome) : ∀ e ∈ v.children, e.2.state.isSome := by
  obtain ⟨st, hst⟩ := Option.isSome_iff_exists.mp holds
  rw [(faithful v hv).state] at hst
  obtain ⟨c, states, answer, r, asked⟩ := Outcome.asked_of_state hst
  have succeeded := (faithful v hv).checked.mp (by rw [asked]; rfl)
  intro e emem
  obtain ⟨st', hst'⟩ := Outcome.state_of_succeeded (succeeded e emem)
  rw [(faithful e.2 (Tree.nodes_trans T hv (Tree.mem_nodes_of_child emem))).state, hst']
  rfl

end Marks

mutual
/-- A marked run succeeds exactly when the root's adapter answered with a
state, every node's mark is faithful, and the checks, children first, hand
the session along. -/
theorem convergeTraced_spec (A : Adapter α) (expired : Bool) : (t : Tree α) → (s : Session) →
    ((convergeTraced A expired t s).2.1 = none ↔ (convergeTraced A expired t s).1.adapter.2.succeeded) ∧
      (∀ v ∈ (convergeTraced A expired t s).1.nodes, Faithful A expired v) ∧
      Threads s ((convergeTraced A expired t s).1.postorder.filterMap fun v => v.adapter.2.handoff)
        (convergeTraced A expired t s).2.2
  | ⟨path, relative, identity, a, kind, version, st, queue, children⟩, s => by
    obtain ⟨ok, faithful, threads⟩ := convergeAllTraced_spec A expired children s
    rw [convergeTraced]
    rcases h : convergeAllTraced A expired children s with ⟨cs, failure, s₁⟩
    rw [h] at ok faithful threads
    dsimp only at ok faithful threads ⊢
    rcases failure with _ | e
    · have allOk := ok.mp rfl
      by_cases stop : (s₁.cancelled || expired) = true
      · simp only [stop, if_true]
        refine ⟨by simp [Outcome.succeeded], Tree.forall_mem_nodes ?_ faithful, ?_⟩
        · refine ⟨rfl, by simpa [Outcome.checked?] using allOk, ⟨(fun ⟨_, _, _, _, h⟩ => nomatch h), ?_⟩,
            (fun _ _ _ _ h => nomatch h), (fun _ _ _ _ h => nomatch h)⟩
          -- checked with the context cancelled or past its deadline
          rintro ⟨c, checkedWith, fine⟩
          cases checkedWith
          rw [stop] at fine
          cases fine
        · rw [Tree.postorder, List.filterMap_append]
          exact Threads.append _ threads ⟨rfl, rfl⟩
      · simp only [stop, if_false, Bool.false_eq_true]
        have states := children_states faithful allOk
        split
        all_goals
          rename_i answer s' answered
          refine ⟨by simp [Outcome.succeeded], Tree.forall_mem_nodes ?_ faithful, ?_⟩
          · refine ⟨rfl, by simpa [Outcome.checked?] using allOk, ?_, fun _ _ _ _ h => ?_, fun _ _ _ _ h => ?_⟩
            · simp [Outcome.checked?] at stop ⊢
              exact stop
            · cases h
              exact states
            · cases h
              exact answered
          · rw [Tree.postorder, List.filterMap_append]
            exact Threads.append _ threads ⟨rfl, rfl⟩
    · have notAll : ¬ ∀ e ∈ cs, e.2.adapter.2.succeeded := fun all => nomatch ok.mpr all
      refine ⟨by simp [Outcome.succeeded], Tree.forall_mem_nodes ?_ faithful, ?_⟩
      · exact ⟨rfl, by simpa [Outcome.checked?] using notAll, by simp [Outcome.checked?], (fun _ _ _ _ h => nomatch h),
          (fun _ _ _ _ h => nomatch h)⟩
      · rw [Tree.postorder, List.filterMap_append]
        exact Threads.append _ threads rfl
/-- A marked run of siblings succeeds exactly when every sibling's adapter
answered with a state, every node's mark is faithful, and the checks hand
the session along. -/
theorem convergeAllTraced_spec (A : Adapter α) (expired : Bool) : (cs : List (String × Tree α)) → (s : Session) →
    ((convergeAllTraced A expired cs s).2.1 = none ↔ ∀ e ∈ (convergeAllTraced A expired cs s).1, e.2.adapter.2.succeeded) ∧
      (∀ v ∈ Tree.nodesOf (convergeAllTraced A expired cs s).1, Faithful A expired v) ∧
      Threads s ((Tree.postorderOf (convergeAllTraced A expired cs s).1).filterMap fun v => v.adapter.2.handoff)
        (convergeAllTraced A expired cs s).2.2
  | [], _ => ⟨by simp [convergeAllTraced], by simp [convergeAllTraced, Tree.nodesOf], rfl⟩
  | (id, c) :: rest, s => by
    obtain ⟨okC, faithfulC, threadsC⟩ := convergeTraced_spec A expired c s
    rw [convergeAllTraced]
    rcases h : convergeTraced A expired c s with ⟨c', first, s₁⟩
    rw [h] at okC faithfulC threadsC
    dsimp only at okC faithfulC threadsC ⊢
    obtain ⟨okR, faithfulR, threadsR⟩ := convergeAllTraced_spec A expired rest s₁
    rcases h' : convergeAllTraced A expired rest s₁ with ⟨rest', later, s₂⟩
    rw [h'] at okR faithfulR threadsR
    dsimp only at okR faithfulR threadsR ⊢
    refine ⟨?_, fun v hv => ?_, ?_⟩
    · rw [List.forall_mem_cons, ← okC, ← okR]
      cases first <;> simp
    · rcases List.mem_append.mp hv with inner | inner
      · exact faithfulC v inner
      · exact faithfulR v inner
    · rw [Tree.postorderOf, List.filterMap_append]
      exact Threads.append _ threadsC threadsR
end

theorem ensure_parts (A : Adapter α) (expired : Bool) (t : Tree α) (s : Session) :
    (ensure A expired t s).1 = (converge A expired t s).1 ∧
      ((ensure A expired t s).2.1 = .ok () ↔ (converge A expired t s).2.1 = none) ∧
      (ensure A expired t s).2.2 = (converge A expired t s).2.2 := by
  unfold ensure
  split <;> rename_i same <;> simp [same]

/-- Converging any tree from any session, under any adapter, whether or not
the context is cancelled or past its deadline: the tree `ensure` answers is
the marked run's with its marks forgotten; it succeeds exactly when the
root's adapter answered with a state; the checks, taken children first, are
handed the session one after the other, from the session it started with to
the one it ends with, so each adapter is asked at most once and after the
adapters of all its descendants; every mark is `Faithful`; and a node
holding a state has all its children holding one. -/
theorem ensure_outcomes (A : Adapter α) (expired : Bool) (t : Tree α) (s : Session) :
    (ensure A expired t s).1 = (convergeTraced A expired t s).1.mapAdapter Prod.fst ∧
      ((ensure A expired t s).2.1 = .ok () ↔ (convergeTraced A expired t s).1.adapter.2.succeeded) ∧
      Threads s ((convergeTraced A expired t s).1.postorder.filterMap fun v => v.adapter.2.handoff)
        (ensure A expired t s).2.2 ∧
      ∀ v ∈ (convergeTraced A expired t s).1.nodes,
        Faithful A expired v ∧ (v.state.isSome → ∀ e ∈ v.children, e.2.state.isSome) := by
  obtain ⟨tree, ok, session⟩ := ensure_parts A expired t s
  obtain ⟨succeeded, faithful, threads⟩ := convergeTraced_spec A expired t s
  rw [converge_eq_traced] at tree ok session
  exact ⟨tree, ok.trans succeeded, session ▸ threads, fun v hv => ⟨faithful v hv, children_hold faithful hv⟩⟩

end Convergence

end Reconcile
