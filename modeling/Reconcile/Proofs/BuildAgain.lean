import Reconcile.Proofs.Placement
import Reconcile.Proofs.AgentRecords

/-!
# Building again from another current document

A build reads the current document only where it looks up a node's slice,
which hands each node's adapter an accessor for its agents. Two current
documents that agree at every node of a built tree, each finding a slice
there that the node's adapter builds alike from, build the same tree, with
the same working document and session (`build_congr`).

A scripted node reads its accessor only for the agents it declares
(`Script.build_congr`). A scripted node that heeds every refusal and built
all the same was handed each of its agents and queued its change
(`Script.build_heeded`).
-/

namespace Reconcile

variable {α : Type}

namespace Build

/-- One child's turn in building a node's children, each child built by
`child`: the first failure stops the rest. -/
def childStep {β : Type} (child : β → Document → Session → Except BuildError (Tree α × Document) × Session)
    (acc : Except BuildError (List (String × Tree α) × Document) × Session) (entry : String × β) :
    Except BuildError (List (String × Tree α) × Document) × Session :=
  match acc with
  | (.error e, s) => (.error e, s)
  | (.ok (done, w), s) =>
    match child entry.2 w s with
    | (.ok (t, w'), s') => (.ok (done ++ [(entry.1, t)], w'), s')
    | (.error e, s') => (.error e, s')

section Children

variable {β : Type} {child child' : β → Document → Session → Except BuildError (Tree α × Document) × Session}

theorem foldl_childStep_error (e : BuildError) :
    ∀ (l : List (String × β)) (s : Session), l.foldl (childStep child) (.error e, s) = (.error e, s)
  | [], _ => rfl
  | _ :: l, s => foldl_childStep_error e l s

/-- The children built so far stay the first of the children built in the
end. -/
theorem foldl_childStep_extends :
    ∀ (l : List (String × β)) {done w s children w' s'},
      l.foldl (childStep child) (.ok (done, w), s) = (.ok (children, w'), s') → done <+: children
  | [], _, _, _, _, _, _, h => by
    simp only [List.foldl_nil, Prod.mk.injEq, Except.ok.injEq] at h
    exact h.1.1 ▸ List.prefix_rfl
  | entry :: l, done, w, s, children, w', s', h => by
    rw [List.foldl_cons] at h
    cases built : child entry.2 w s with
    | mk r s₁ =>
      cases r with
      | error e => simp [childStep, built, foldl_childStep_error] at h
      | ok r =>
        simp only [childStep, built] at h
        exact (List.prefix_append done _).trans (foldl_childStep_extends l h)

/-- Two ways of building children agree on a list of entries when the second
builds alike every child the first built into its result. -/
theorem foldl_childStep_congr :
    ∀ (l : List (String × β)) (acc : Except BuildError (List (String × Tree α) × Document) × Session)
      {children w s}, l.foldl (childStep child) acc = (.ok (children, w), s) →
      (∀ entry ∈ l, ∀ w s t w' s', child entry.2 w s = (.ok (t, w'), s') → (entry.1, t) ∈ children →
        child' entry.2 w s = (.ok (t, w'), s')) →
      l.foldl (childStep child') acc = l.foldl (childStep child) acc
  | [], _, _, _, _, _, _ => rfl
  | entry :: l, (.error e, s₀), _, _, _, _, _ => by
    simp only [List.foldl_cons, childStep, foldl_childStep_error]
  | entry :: l, (.ok (done, w₀), s₀), children, w, s, h, alike => by
    rw [List.foldl_cons] at h
    rw [List.foldl_cons, List.foldl_cons]
    cases built : child entry.2 w₀ s₀ with
    | mk r s₁ =>
      cases r with
      | error e => simp [childStep, built, foldl_childStep_error] at h
      | ok r =>
        obtain ⟨t, w₁⟩ := r
        have step : childStep child (.ok (done, w₀), s₀) entry = (.ok (done ++ [(entry.1, t)], w₁), s₁) := by
          simp only [childStep, built]
        rw [step] at h ⊢
        have kept : (entry.1, t) ∈ children :=
          (foldl_childStep_extends l h).subset (List.mem_append_right _ (List.mem_singleton_self _))
        have step' : childStep child' (.ok (done, w₀), s₀) entry = (.ok (done ++ [(entry.1, t)], w₁), s₁) := by
          simp only [childStep, alike entry List.mem_cons_self w₀ s₀ t w₁ s₁ built kept]
        rw [step']
        exact foldl_childStep_congr l _ h fun e mem => alike e (List.mem_cons_of_mem _ mem)

end Children

/-- Two scopes agree at a node when both find a slice at its path, and the
node's adapter builds alike from either slice. -/
def Agrees (A : Adapter α) (scope scope' : Scope) (x : Tree α) : Prop :=
  ∃ found found', scope.current.lookup x.path .current = .ok found ∧
    scope'.current.lookup x.path .current = .ok found' ∧
    ∀ desired handedDown s q, A.build x.adapter ⟨desired, ⟨x.path, found.getD .null⟩, handedDown⟩ s q =
      A.build x.adapter ⟨desired, ⟨x.path, found'.getD .null⟩, handedDown⟩ s q

/-- A subtree built from one scope is built alike from another scope of the
same capacity that agrees with it at every node of the subtree. -/
theorem node_congr {A : Adapter α} {scope scope' : Scope} (capacity : scope'.capacity = scope.capacity)
    (a : α) (parent : Option (List String × Option Document)) (w : Document) (s : Session) {t : Tree α}
    {w' : Document} {s' : Session} (h : node A scope a parent w s = (.ok (t, w'), s'))
    (agree : ∀ x ∈ t.nodes, Agrees A scope scope' x) : node A scope' a parent w s = (.ok (t, w'), s') := by
  unfold node at h
  split at h
  · cases h
  rename_i relative path edit s₁ placed
  split at h
  · cases h
  rename_i working edited
  split at h
  · cases h
  rename_i desired navigated
  split at h
  · cases h
  rename_i found looked
  extract_lets identity here handedDown input at h
  split at h
  rename_i result s₂ queue built_eq
  split at h
  · cases h
  rename_i noOverflow
  split at h
  · cases h
  rename_i built
  extract_lets start step at h
  split at h
  · cases h
  rename_i children w₂ s₃ folded
  simp only [Prod.mk.injEq, Except.ok.injEq] at h
  obtain ⟨⟨rfl, rfl⟩, rfl⟩ := h
  obtain ⟨found₀, found', looked₀, looked', alike⟩ := agree _ (Tree.mem_nodes_self _)
  rw [looked] at looked₀
  cases looked₀
  have rebuilt := alike desired handedDown s₁ (AgentQueue.create scope.capacity)
  have children_alike : (Keyed.ofList built.children).foldl
      (childStep fun (c : { c : α // A.rank c < A.rank a }) w s => node A scope' c.1 (some (path, built.handDown)) w s)
        start = (Keyed.ofList built.children).foldl step start := by
    refine @foldl_childStep_congr α { c : α // A.rank c < A.rank a }
      (fun c w s => node A scope c.1 (some (path, built.handDown)) w s)
      (fun c w s => node A scope' c.1 (some (path, built.handDown)) w s) _ start _ _ _ folded
      fun (entry : String × { c : α // A.rank c < A.rank a }) _ w s t w' s' call kept =>
        node_congr capacity entry.2.1 _ w s call fun x hx => ?_
    exact agree x (Tree.mem_nodes.mpr (.inr ⟨(entry.1, t), kept, hx⟩))
  have rb : A.build a ⟨desired, ⟨path, found'.getD .null⟩, handedDown⟩ s₁ (AgentQueue.create scope.capacity) =
      (.ok built, s₂, queue) := rebuilt.symm.trans built_eq
  unfold Adapter.build at rb
  unfold node
  simp only [placed, edited, navigated, looked', capacity]
  simp only [handedDown] at rb
  rw [rb]
  simp only [noOverflow]
  erw [children_alike.trans folded]
termination_by A.rank a
decreasing_by exact entry.2.2

/-- Two current documents that agree at every node of a tree built from the
first build the same tree from the second. -/
theorem build_congr {A : Adapter α} {root : α} {desired D D' : Document} {capacity : Nat} {s s' : Session}
    {t : Tree α} (h : build A root desired D capacity s = (.ok t, s'))
    (agree : ∀ x ∈ t.nodes, Agrees A ⟨D, capacity⟩ ⟨D', capacity⟩ x) :
    build A root desired D' capacity s = (.ok t, s') := by
  unfold build at h ⊢
  split at h
  · rename_i t' w s'' built
    simp only [Prod.mk.injEq, Except.ok.injEq] at h
    obtain ⟨rfl, rfl⟩ := h
    rw [@node_congr α A ⟨D, capacity⟩ ⟨D', capacity⟩ rfl root none desired s _ _ _ built agree]
  · cases h

end Build

namespace Script

/-- A scripted build reads its accessor only for the agents the node
declares. -/
theorem declareAgents_congr (s : Script) {agents agents' : AgentAccessor} :
    ∀ {as : List AgentScript}, (∀ a ∈ as, agents.agent a.path = agents'.agent a.path) →
      ∀ ignore session q, declareAgents s agents ignore as session q = declareAgents s agents' ignore as session q
  | [], _, _, _, _ => rfl
  | a :: rest, same, ignore, session, q => by
    have first : declareAgent s agents ignore a session q = declareAgent s agents' ignore a session q := by
      unfold declareAgent
      rw [same a List.mem_cons_self]
    simp only [declareAgents, first]
    split
    · exact declareAgents_congr s (fun a' mem => same a' (List.mem_cons_of_mem _ mem)) ignore _ _
    · rfl

theorem build_congr (s : Script) {agents agents' : AgentAccessor}
    (same : ∀ a ∈ s.agents, agents.agent a.path = agents'.agent a.path) (desired : Document)
    (handedDown : Option Document) (session : Session) (q : AgentQueue) :
    Script.build s ⟨desired, agents, handedDown⟩ session q =
      Script.build s ⟨desired, agents', handedDown⟩ session q := by
  unfold Script.build
  simp only [declareAgents_congr s same]

theorem AgentHandle.declare_ok {h : AgentHandle} {spec : Payload} {q q' : AgentQueue}
    (declared : h.declare spec q = (q', .ok ())) : ∃ d, q'.changes = q.changes ++ [⟨h.path, d, h.observed⟩] := by
  unfold AgentHandle.declare at declared
  split at declared
  · cases declared
  · rename_i d _
    unfold AgentQueue.push at declared
    split at declared
    · cases declared
    · split at declared
      · cases declared
      · cases declared
        exact ⟨d, rfl⟩

/-- An agent that heeds refusals and was declared all the same was handed
out by the accessor, and its change was queued. -/
theorem declareAgent_heeded (s : Script) {agents : AgentAccessor} {a : AgentScript} (heeded : a.ignoreErrors = false)
    {session session' : Session} {q q' : AgentQueue}
    (h : declareAgent s agents false a session q = (.ok (), session', q')) :
    ∃ handle, agents.agent a.path = .ok handle ∧
      ∃ d, q'.changes = q.changes ++ [⟨handle.path, d, handle.observed⟩] := by
  unfold declareAgent at h
  cases handed : agents.agent a.path with
  | error e => simp [handed, heeded] at h
  | ok handle =>
    rcases declared : handle.declare (if a.badSpec then pairKeyed else .document a.spec) q with ⟨q₁, _ | _⟩
    · simp [handed, declared, heeded] at h
    · simp only [handed, declared, Prod.mk.injEq] at h
      obtain ⟨-, -, rfl⟩ := h
      exact ⟨handle, rfl, AgentHandle.declare_ok declared⟩

theorem declareAgents_heeded (s : Script) {agents : AgentAccessor} :
    ∀ {as : List AgentScript}, (∀ a ∈ as, a.ignoreErrors = false) →
      ∀ {session session' : Session} {q q' : AgentQueue},
        declareAgents s agents false as session q = (.ok (), session', q') →
        q.changes <+: q'.changes ∧ ∀ a ∈ as, ∃ handle, agents.agent a.path = .ok handle ∧
          ∃ c ∈ q'.changes, c.path = handle.path ∧ c.observed = handle.observed
  | [], _, _, _, _, _, h => by
    simp only [declareAgents, Prod.mk.injEq] at h
    obtain ⟨-, -, rfl⟩ := h
    exact ⟨List.prefix_rfl, fun a mem => absurd mem List.not_mem_nil⟩
  | a :: rest, heeded, session, session', q, q', h => by
    unfold declareAgents at h
    rcases first : declareAgent s agents false a session q with ⟨_ | _, session₁, q₁⟩
    · rw [first] at h
      cases h
    · rw [first] at h
      obtain ⟨handle, handed, d, appended⟩ := declareAgent_heeded s (heeded a List.mem_cons_self) first
      obtain ⟨grown, later⟩ := declareAgents_heeded s (fun a' mem => heeded a' (List.mem_cons_of_mem _ mem)) h
      refine ⟨?_, fun a' mem => ?_⟩
      · rw [appended] at grown
        exact (List.prefix_append _ _).trans grown
      · rcases List.mem_cons.mp mem with rfl | later'
        · refine ⟨handle, handed, ⟨handle.path, d, handle.observed⟩, grown.subset ?_, rfl, rfl⟩
          rw [appended]
          exact List.mem_append_right _ (List.mem_singleton_self _)
        · exact later a' later'

/-- A scripted node that heeds every refusal and built all the same was
handed each of its agents by the accessor, and queued each one's change with
the section it was handed. -/
theorem build_heeded {s : Script} {input : BuildInput} {session session' : Session} {q q' : AgentQueue}
    {built : Built { c : Script // c.weight < s.weight }} (heeded : ∀ a ∈ s.agents, a.ignoreErrors = false)
    (h : Script.build s input session q = (.ok built, session', q')) :
    ∀ a ∈ s.agents, ∃ handle, input.agents.agent a.path = .ok handle ∧
      ∃ c ∈ q'.changes, c.path = handle.path ∧ c.observed = handle.observed := by
  unfold Script.build at h
  dsimp only at h
  split at h
  · cases h
  split at h
  · cases h
  split at h
  · cases h
  split at h
  · cases h
  · rename_i declared
    simp only [Prod.mk.injEq] at h
    obtain ⟨-, -, rfl⟩ := h
    exact (declareAgents_heeded s heeded declared).2

end Script

end Reconcile
