import Reconcile.Proofs.Preorder
import Reconcile.Proofs.RebuildAgain

/-!
# What a built node's queue holds

A node declares its agents through the accessor it is built with, which is
bound to the node's path and to the node's slice of the current document.
Each declaration names an agent by a path relative to the node. The accessor
refuses an empty path and one whose section cannot be looked up in the slice,
and the declaration refuses a spec with no document form; every other
declaration is pushed onto the node's queue (`AgentAccessor.declareAll_eq`).

The slice is what a lenient lookup finds at the node's path, null when it
finds nothing, and a lookup below it answers as one from the whole document
at the node's path continued (`lookup_slice`). So after a build every node's
queue is open, within its capacity, and holds exactly the changes of the
declarations that passed, in the order they were made: each at the node's
path continued by the declared one, with the spec's document form and the
section the whole current document holds there (`built_queues`). No rebuild
of the built tree then meets an agent path outside its node.
-/

namespace Reconcile

open Document

variable {α : Type}

/-! ## Lookups below a node's slice -/

/-- Below a lookup that went through, a lookup from the slice it found goes
through exactly when the lookup from the whole document does, with the same
answer. -/
theorem lookup_slice {D : Document} {path relative : List String} {found : Option Document}
    (looked : D.lookup path .current = .ok found) (nonempty : relative ≠ []) {r : Option Document} :
    (found.getD .null).lookup relative .current = .ok r ↔ D.lookup (path ++ relative) .current = .ok r := by
  refine ⟨lookup_append looked nonempty, fun whole => ?_⟩
  cases slice : (found.getD .null).lookup relative .current with
  | ok r' =>
    rw [lookup_append looked nonempty slice] at whole
    exact whole
  | error e =>
    cases found with
    | none =>
      obtain ⟨seg, rest, rfl⟩ := List.exists_cons_of_ne_nil nonempty
      rw [Option.getD_none, null_lookup] at slice
      cases slice
    | some v =>
      have route : D.navigate (path ++ relative) .current = follow (Route.below .current path relative) v := by
        rw [navigate, Route.ofPath, Route.below_append, follow_append, List.nil_append, ← Route.ofPath, ← navigate,
          lookup_eq_some.mp looked]
        rfl
      have same := @follow_same_keys (Route.below .current path relative) (Route.ofPath .current relative)
        (by rw [Route.ofPath, below_keys, below_keys]) v
      rw [Option.getD_some] at slice
      cases below : follow (Route.below .current path relative) v with
      | ok w =>
        have found : v.lookup relative .current = .ok (some w) := lookup_eq_some.mpr (same.1 w below)
        rw [slice] at found
        cases found
      | error e' =>
        cases e' with
        | pathNotFound l k =>
          obtain ⟨l', k', missing⟩ := same.2 ⟨l, k, below⟩
          have found : v.lookup relative .current = .ok none := lookup_eq_none.mpr ⟨l', k', missing⟩
          rw [slice] at found
          cases found
        | shapeMismatch l f => simp [lookup, route, below] at whole

/-- The section observed below a node's slice is the one observed in the
whole document at the node's path continued, and one is refused exactly when
the other is. -/
theorem observedSection_slice {D : Document} {path relative : List String} {found : Option Document}
    (looked : D.lookup path .current = .ok found) (nonempty : relative ≠ []) {observed : Document} :
    observedSection (found.getD .null) relative = .ok observed ↔ observedSection D (path ++ relative) = .ok observed := by
  refine ⟨observedSection_append looked nonempty, fun whole => ?_⟩
  cases below : D.lookup (path ++ relative) .current with
  | error e => simp [observedSection, below] at whole
  | ok r =>
    unfold observedSection at whole ⊢
    rw [(lookup_slice looked nonempty).mpr below]
    rw [below] at whole
    exact whole

/-! ## Declarations, one after another -/

namespace AgentAccessor

/-- One declaration through an accessor: the agent at the call's path is
asked for, and the call's spec declared on it. An agent the accessor refuses
leaves the queue as it is. -/
def declareOn (a : AgentAccessor) (q : AgentQueue) (call : List String × Payload) : AgentQueue :=
  match a.agent call.1 with
  | .error _ => q
  | .ok h => (h.declare call.2 q).1

/-- Declarations made one after another. -/
def declareAll (a : AgentAccessor) (q : AgentQueue) (calls : List (List String × Payload)) : AgentQueue :=
  calls.foldl a.declareOn q

/-- The change a declaration pushes: none when the accessor refuses the
agent or the spec has no document form. -/
def pushed (a : AgentAccessor) (call : List String × Payload) : Option AgentChange :=
  match a.agent call.1, call.2.encode with
  | .ok h, .ok spec => some ⟨h.path, spec, h.observed⟩
  | _, _ => none

theorem declareOn_eq (a : AgentAccessor) (q : AgentQueue) (call : List String × Payload) :
    a.declareOn q call = q.pushAll (a.pushed call).toList := by
  unfold declareOn pushed
  cases a.agent call.1 with
  | error e => rfl
  | ok h =>
    unfold AgentHandle.declare
    cases call.2.encode <;> rfl

theorem declareAll_eq (a : AgentAccessor) (q : AgentQueue) (calls : List (List String × Payload)) :
    a.declareAll q calls = q.pushAll (calls.filterMap a.pushed) := by
  induction calls generalizing q with
  | nil => rfl
  | cons call calls ih =>
    rw [declareAll, List.foldl_cons, ← declareAll, ih, declareOn_eq, List.filterMap_cons]
    cases a.pushed call <;> rfl

end AgentAccessor

/-- A queue reached by declarations through an accessor is the one a list of
calls declares. -/
theorem Declared.calls {a : AgentAccessor} {q q' : AgentQueue} (h : Declared a q q') :
    ∃ calls, q' = a.declareAll q calls := by
  induction h with
  | start => exact ⟨[], rfl⟩
  | @declare q'' relative handle spec _ handed ih =>
    obtain ⟨calls, rfl⟩ := ih
    refine ⟨calls ++ [(relative, spec)], ?_⟩
    simp only [AgentAccessor.declareAll, List.foldl_append, List.foldl_cons, List.foldl_nil,
      AgentAccessor.declareOn, handed]

/-- The change a declaration through the accessor of the node at `path`
pushes, told from the whole current document `D`: the agent at the node's
path continued by the call's non-empty one, the spec's document form, and
the section `D` holds for the agent. -/
def declaredChange (D : Document) (path : List String) (call : List String × Payload) : Option AgentChange :=
  if call.1 = [] then none
  else match observedSection D (path ++ call.1), call.2.encode with
    | .ok observed, .ok spec => some ⟨path ++ call.1, spec, observed⟩
    | _, _ => none

/-- A node's accessor pushes what the whole document says it declares. -/
theorem pushed_slice {D : Document} {path : List String} {found : Option Document}
    (looked : D.lookup path .current = .ok found) (call : List String × Payload) :
    (⟨path, found.getD .null⟩ : AgentAccessor).pushed call = declaredChange D path call := by
  unfold AgentAccessor.pushed declaredChange AgentAccessor.agent
  by_cases empty : call.1 = []
  · simp [empty]
  · simp only [empty, if_false, List.isEmpty_iff]
    cases slice : observedSection (found.getD .null) call.1 with
    | ok observed =>
      rw [(observedSection_slice looked empty).mp slice]
      cases call.2.encode <;> rfl
    | error e =>
      cases whole : observedSection D (path ++ call.1) with
      | ok observed =>
        rw [(observedSection_slice looked empty).mpr whole] at slice
        cases slice
      | error e' => rfl

/-- Declarations through a node's accessor on a fresh queue that did not
overflow leave it open and within its capacity, holding the declared changes
in call order. -/
theorem declareAll_create {D : Document} {path : List String} {found : Option Document}
    (looked : D.lookup path .current = .ok found) {capacity : Nat} (calls : List (List String × Payload))
    (fits : (AgentAccessor.declareAll ⟨path, found.getD .null⟩ (AgentQueue.create capacity) calls).overflow = none) :
    (AgentAccessor.declareAll ⟨path, found.getD .null⟩ (AgentQueue.create capacity) calls).closed = false ∧
      (AgentAccessor.declareAll ⟨path, found.getD .null⟩ (AgentQueue.create capacity) calls).size ≤ capacity ∧
      (AgentAccessor.declareAll ⟨path, found.getD .null⟩ (AgentQueue.create capacity) calls).changes =
        calls.filterMap (declaredChange D path) := by
  have same : calls.filterMap (AgentAccessor.pushed ⟨path, found.getD .null⟩) =
      calls.filterMap (declaredChange D path) :=
    List.filterMap_congr fun call _ => pushed_slice looked call
  rw [AgentAccessor.declareAll_eq, same] at fits ⊢
  obtain ⟨queued, overflow⟩ := AgentQueue.pushAll_create capacity (calls.filterMap (declaredChange D path))
  rw [overflow, Option.map_eq_none_iff, List.getElem?_eq_none_iff] at fits
  have taken := List.take_of_length_le fits
  refine ⟨by simp [AgentQueue.create], ?_, by rw [queued, taken]⟩
  rw [AgentQueue.size, queued, taken]
  exact fits

/-! ## No agent path outside its node -/

namespace Rebuild

theorem foldlM_error_mem {β γ ε : Type} (f : β → γ → Except ε β) :
    ∀ (l : List γ) (b : β) (e : ε), l.foldlM f b = .error e → ∃ c ∈ l, ∃ b', f b' c = .error e
  | [], b, e, h => by cases h
  | c :: l, b, e, h => by
    rw [List.foldlM_cons] at h
    cases first : f b c with
    | error e' =>
      rw [first] at h
      cases h
      exact ⟨c, List.mem_cons_self, b, first⟩
    | ok b' =>
      rw [first] at h
      obtain ⟨c', mem, b'', step⟩ := foldlM_error_mem f l b' e h
      exact ⟨c', List.mem_cons_of_mem _ mem, b'', step⟩

/-- Writing agent records into a fresh state meets an agent path only at a
change it cannot take below the node. -/
theorem applyAgentChanges_agentPath {n : Tree α} {tags : RecordTags} {entries : Mapping}
    {changes : List AgentChange} {a p q : String}
    (h : applyAgentChanges n tags entries changes = .error (.agentPath a p q)) :
    ∃ c ∈ changes, agentRelative n c = .error (.agentPath a p q) := by
  unfold applyAgentChanges at h
  extract_lets scratch written at h
  cases found : written with
  | ok scratch' =>
    rw [found] at h
    cases h
  | error e =>
    rw [found] at h
    cases h
    obtain ⟨c, mem, b, step⟩ := foldlM_error_mem _ changes _ _ found
    refine ⟨c, mem, ?_⟩
    split at step
    · rename_i refused
      cases step
      exact refused
    · split at step <;> cases step

/-- Writing a node's entry meets an agent path only at a change of the node
it cannot take below the node. -/
theorem writeNode_agentPath {n : Tree α} {tags : RecordTags} {changes : List AgentChange} {out : Document}
    {a p q : String} (h : (writeNode n tags changes out).2 = some (.agentPath a p q)) :
    ∃ c ∈ changes, agentRelative n c = .error (.agentPath a p q) := by
  unfold writeNode at h
  split at h
  · cases h
  split at h
  · cases h
  split at h
  · rename_i refused
    unfold stateEntries at refused
    split at refused <;> cases refused
    cases h
  rename_i entries _
  split at h
  · rename_i e out₁ took
    obtain ⟨cause, rfl⟩ := (takeChildren_spec n entries out).2 e (by rw [took])
    cases h
  rename_i entries₁ out₁ took
  have agentFailure : (if changes.isEmpty = true then .ok entries₁ else applyAgentChanges n tags entries₁ changes) =
      .error (.agentPath a p q) → ∃ c ∈ changes, agentRelative n c = .error (.agentPath a p q) := by
    intro agents
    by_cases empty : changes.isEmpty = true
    · simp [empty] at agents
    · rw [if_neg empty] at agents
      exact applyAgentChanges_agentPath agents
  generalize (if changes.isEmpty = true then .ok entries₁ else applyAgentChanges n tags entries₁ changes) =
    withAgents at agentFailure h
  cases withAgents with
  | error e =>
    dsimp only at h
    cases h
    exact agentFailure rfl
  | ok entries₂ =>
    dsimp only at h
    split at h <;> cases h

/-- A write for a node meets an agent path only at a change the node queued
and cannot take below itself. -/
theorem perform_agentPath {m : Tree α} {w : Write α} (mem : w ∈ writesOf m) {tags : RecordTags}
    {out : Document} {a p q : String} (h : (w.perform tags out).2 = some (.agentPath a p q)) :
    ∃ c ∈ m.queue.changes, agentRelative m c = .error (.agentPath a p q) := by
  unfold writesOf at mem
  split at mem
  · obtain ⟨c, queued, rfl⟩ := List.mem_map.mp mem
    refine ⟨c, queued, ?_⟩
    simp only [Write.perform] at h
    split at h
    · cases h
    · rename_i e refused
      cases h
      unfold writeAgentRecord at refused
      split at refused
      · rename_i outside
        cases refused
        exact outside
      · split at refused <;> cases refused
  · rw [List.mem_singleton.mp mem] at h
    exact writeNode_agentPath h

/-- A rebuild reports an agent path only for a change some node queued and
cannot take below itself. -/
theorem rebuild_agentPath {t : Tree α} {tags : RecordTags} {out : Document} {a p q : String}
    (h : .agentPath a p q ∈ (rebuild tags out t).failures) :
    ∃ m ∈ t.nodes, ∃ c ∈ m.queue.changes, agentRelative m c = .error (.agentPath a p q) := by
  rw [(rebuild_eq_run tags out t).2, List.mem_filterMap] at h
  obtain ⟨entry, logged, failed⟩ := h
  obtain ⟨out', performed⟩ := log_performed tags (writes t) out entry logged
  obtain ⟨m, inTree, mem⟩ := writes_inTree t entry.1 (mem_of_mem_log logged)
  exact ⟨m, inTree, perform_agentPath mem (performed ▸ failed)⟩

/-- A rebuild of a tree whose every queued change lies strictly below its
node reports no agent path. -/
theorem rebuild_no_agentPath {t : Tree α}
    (below : ∀ x ∈ t.nodes, ∀ c ∈ x.queue.changes, ∃ r, r ≠ [] ∧ c.path = x.path ++ r)
    (tags : RecordTags) (out : Document) :
    ∀ e ∈ (rebuild tags out t).failures, ∀ a p q, e ≠ .agentPath a p q := by
  rintro e mem a p q rfl
  obtain ⟨m, inTree, c, queued, refused⟩ := rebuild_agentPath mem
  obtain ⟨r, nonempty, pathIs⟩ := below m inTree c queued
  have taken : agentRelative m c = .ok r := by
    rw [agentRelative_eq_ok, pathIs]
    refine ⟨List.prefix_append _ _, ?_, by simp⟩
    simpa [List.length_append] using List.length_pos_iff.mpr nonempty
  rw [refused] at taken
  cases taken

end Rebuild

/-! ## The queues of a built tree -/

theorem Build.build_fits {A : Adapter α} {root : α} {desired D : Document} {capacity : Nat} {s s' : Session}
    {t : Tree α} (built : build A root desired D capacity s = (.ok t, s')) : ∀ x ∈ t.nodes, x.queue.overflow = none := by
  unfold build at built
  split at built
  · rename_i t' w s'' grown
    simp only [Prod.mk.injEq, Except.ok.injEq] at built
    obtain ⟨rfl, rfl⟩ := built
    intro x hx
    obtain ⟨parent, w, s₀, v, s₁, visited, -, queue⟩ := Build.node_visits root none desired s grown x hx
    obtain ⟨-, -, -, -, -, fits⟩ := Build.visit_ok visited
    rw [queue]
    exact fits
  · cases built

theorem queued_below {A : Adapter α} (declared : ∀ a input s q, Declared input.agents q (A.build a input s q).2.2)
    {D : Document} {capacity : Nat} {u : Tree α} (queued : ∀ x ∈ u.nodes, Build.Queued A ⟨D, capacity⟩ x) :
    ∀ x ∈ u.nodes, ∀ c ∈ x.queue.changes, ∃ r, r ≠ [] ∧ c.path = x.path ++ r := by
  intro x hx c hc
  obtain ⟨r, nonempty, pathIs, -⟩ := Build.Queued.change declared (queued x hx) hc
  exact ⟨r, nonempty, pathIs⟩

/-- After a build from the current document `D`, every node's queue is open
and within its capacity, and holds exactly the changes of the declarations
its adapter made through the node's accessor that passed, in call order:
each names the node's path continued by the declared one, with the spec's
document form and the section `D` holds there. No rebuild of the built tree,
or of it converged, then meets an agent path outside its node. -/
theorem built_queues {A : Adapter α} (declared : ∀ a input s q, Declared input.agents q (A.build a input s q).2.2)
    {root : α} {desired D : Document} {capacity : Nat} {s s' : Session} {t : Tree α}
    (built : build A root desired D capacity s = (.ok t, s')) :
    (∀ n ∈ t.nodes, n.queue.closed = false ∧ n.queue.size ≤ capacity ∧
      ∃ found, D.lookup n.path .current = .ok found ∧
        (∃ calls, n.queue = AgentAccessor.declareAll ⟨n.path, found.getD .null⟩ (AgentQueue.create capacity) calls) ∧
        ∀ calls, n.queue = AgentAccessor.declareAll ⟨n.path, found.getD .null⟩ (AgentQueue.create capacity) calls →
          n.queue.changes = calls.filterMap (declaredChange D n.path)) ∧
    ∀ tags out expired s₂,
      ∀ e ∈ (rebuild tags out t).failures ++ (rebuild tags out (ensure A expired t s₂).1).failures,
        ∀ a p q, e ≠ .agentPath a p q := by
  obtain ⟨-, -, queued⟩ := build_placed built
  have fits := Build.build_fits built
  refine ⟨fun n mem => ?_, fun tags out expired s₂ e mem => ?_⟩
  · obtain ⟨input, s₀, found, looked, agents, queue⟩ := queued n mem
    have reached := declared n.adapter input s₀ (AgentQueue.create capacity)
    rw [queue, agents] at reached
    obtain ⟨calls, made⟩ := reached.calls
    have fit : ∀ calls, n.queue = AgentAccessor.declareAll ⟨n.path, found.getD .null⟩ (AgentQueue.create capacity) calls →
        (AgentAccessor.declareAll ⟨n.path, found.getD .null⟩ (AgentQueue.create capacity) calls).overflow = none :=
      fun calls made => made ▸ fits n mem
    obtain ⟨opened, bounded, -⟩ := declareAll_create looked calls (fit calls made)
    rw [← made] at opened bounded
    refine ⟨opened, bounded, found, looked, ⟨calls, made⟩, fun calls' made' => ?_⟩
    rw [made']
    exact (declareAll_create looked calls' (fit calls' made')).2.2
  · rcases List.mem_append.mp mem with before | after
    · exact Rebuild.rebuild_no_agentPath (queued_below declared queued) tags out e before
    · exact Rebuild.rebuild_no_agentPath (queued_below declared (ensure_placed built expired s₂).2.2) tags out e after

namespace Rebuild

/-- The scripted pair built from a null current document: its leaf queues
the one change it declares, and a rebuild of the pair converged meets no
agent path outside its node. -/
theorem scripted_leaf_declares :
    scriptedAgentLeaf.queue.changes =
        [(["m"], Payload.document (.object [("v", Document.nat 2)]))].filterMap (declaredChange .null ["a"]) ∧
      ∀ expired s₂, ∀ e ∈ (rebuild {} .null (ensure Script.adapter expired
        { scriptedAgentPair with
          state := none, children := [("a", { scriptedAgentLeaf with state := none })] } s₂).1).failures,
        ∀ a p q, e ≠ .agentPath a p q := by
  have built : build Script.adapter scriptedAgentPair.adapter (.object [("spec", .object [("a", .object [])])])
      .null 4 {} = (.ok { scriptedAgentPair with
          state := none, children := [("a", { scriptedAgentLeaf with state := none })] },
        { log := ["build:root", "desired:root:\x7b\"spec\":\x7b\"a\":\x7b\x7d\x7d\x7d", "build:a", "desired:a:\x7b\x7d",
                  "agent:a:a/m:\x7b\x7d"] }) := by
    unfold build
    unfold Build.node
    unfold Build.node
    rfl
  obtain ⟨nodes, records⟩ := built_queues (fun a input s q => Script.build_declared a input s q) built
  obtain ⟨-, -, found, looked, -, changes⟩ := nodes { scriptedAgentLeaf with state := none }
    (Tree.mem_nodes.mpr (.inr ⟨_, List.mem_cons_self, Tree.mem_nodes_self _⟩))
  have nothing : found = none := by
    have missing : Document.null.lookup ["a"] .current = .ok none := rfl
    change Document.null.lookup ["a"] .current = .ok found at looked
    rw [missing] at looked
    cases looked
    rfl
  subst nothing
  exact ⟨changes _ rfl, fun expired s₂ e mem => records {} .null expired s₂ e (List.mem_append_right _ mem)⟩

end Rebuild

end Reconcile
