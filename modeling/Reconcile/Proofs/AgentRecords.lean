import Reconcile.Proofs.RebuildEntry

/-!
# Agent records after a rebuild

A node declares its agents through the accessor it is built with, so every
change it queues names an agent strictly below it, with the section the
current document holds for that agent (`Build.Queued.change`). An adapter
that reaches its queue only that way is one whose queues are `Declared`.

The rebuild writes each change's record at the agent's path: straight into
the document for a node without a state, into the scratch copy of its fresh
state otherwise. The writes run children first, and every ancestor's write
carries what lies below it along. So of the nodes declaring one path it is
the one nearest the root whose record stays, and of its declarations the
last one (`rebuild_agent_record`): the order in which the build made the
declarations does not decide.
-/

namespace Reconcile

open Document

/-- The section observed below a node's slice is the one observed in the
whole document at the node's path continued by the agent's. -/
theorem observedSection_append {D : Document} {path relative : List String} {found : Option Document}
    (looked : D.lookup path .current = .ok found) (nonempty : relative ≠ []) {observed : Document}
    (h : observedSection (found.getD .null) relative = .ok observed) :
    observedSection D (path ++ relative) = .ok observed := by
  cases below : (found.getD .null).lookup relative .current with
  | error e => simp [observedSection, below] at h
  | ok r =>
    unfold observedSection at h ⊢
    rw [lookup_append looked nonempty below]
    rw [below] at h
    exact h

/-! ## Declaring agents -/

/-- The queues reached from `q` by declarations through the accessor
`agents`: each one declares a spec on a handle the accessor gave out. -/
inductive Declared (agents : AgentAccessor) (q : AgentQueue) : AgentQueue → Prop
  | start : Declared agents q q
  | declare {q' : AgentQueue} {relative : List String} {h : AgentHandle} (spec : Payload) :
      Declared agents q q' → agents.agent relative = .ok h → Declared agents q (h.declare spec q').1

/-- The accessor hands out agents strictly below the node, each with the
section the node's slice holds for it. -/
theorem AgentAccessor.agent_ok {a : AgentAccessor} {relative : List String} {h : AgentHandle}
    (handed : a.agent relative = .ok h) :
    relative ≠ [] ∧ h.path = a.nodePath ++ relative ∧ observedSection a.current relative = .ok h.observed := by
  unfold AgentAccessor.agent at handed
  split at handed
  · cases handed
  · rename_i nonempty
    split at handed
    · cases handed
    · rename_i observed found
      cases handed
      exact ⟨by simpa using nonempty, rfl, found⟩

theorem AgentHandle.declare_changes (h : AgentHandle) (spec : Payload) (q : AgentQueue) :
    (h.declare spec q).1.changes = q.changes ∨
      ∃ d, (h.declare spec q).1.changes = q.changes ++ [⟨h.path, d, h.observed⟩] := by
  unfold AgentHandle.declare
  split
  · exact .inl rfl
  · rename_i d _
    unfold AgentQueue.push
    split
    · exact .inl rfl
    · split
      · exact .inl rfl
      · exact .inr ⟨d, rfl⟩

/-- A change of a queue reached through an accessor was queued before, or
names an agent the accessor handed out, with the section it observed. -/
theorem Declared.changes {agents : AgentAccessor} {q q' : AgentQueue} (h : Declared agents q q') :
    ∀ c ∈ q'.changes, c ∈ q.changes ∨ ∃ relative, relative ≠ [] ∧ c.path = agents.nodePath ++ relative ∧
      observedSection agents.current relative = .ok c.observed := by
  induction h with
  | start => exact fun c mem => .inl mem
  | declare spec _ handed ih =>
    intro c mem
    rcases AgentHandle.declare_changes _ spec _ with same | ⟨d, appended⟩
    · exact ih c (same ▸ mem)
    · rw [appended, List.mem_append, List.mem_singleton] at mem
      rcases mem with earlier | rfl
      · exact ih c earlier
      · obtain ⟨nonempty, pathIs, observed⟩ := AgentAccessor.agent_ok handed
        exact .inr ⟨_, nonempty, pathIs, observed⟩

namespace Build

variable {α : Type}

/-- On a built node of an adapter that declares only through its accessor,
every queued change names an agent strictly below the node, with the
section the current document holds at the agent's path. -/
theorem Queued.change {A : Adapter α} (declared : ∀ a input s q, Declared input.agents q (A.build a input s q).2.2)
    {D : Document} {capacity : Nat} {x : Tree α} (queued : Queued A ⟨D, capacity⟩ x) {c : AgentChange}
    (mem : c ∈ x.queue.changes) :
    ∃ relative, relative ≠ [] ∧ c.path = x.path ++ relative ∧ observedSection D c.path = .ok c.observed := by
  obtain ⟨input, s, found, looked, agents, built⟩ := queued
  have reached := declared x.adapter input s (AgentQueue.create capacity)
  rw [built] at reached
  rcases reached.changes c mem with fresh | ⟨relative, nonempty, pathIs, observed⟩
  · exact absurd fresh List.not_mem_nil
  · rw [agents] at pathIs observed
    refine ⟨relative, nonempty, pathIs, ?_⟩
    rw [pathIs]
    exact observedSection_append looked nonempty observed

end Build

namespace Rebuild

variable {α : Type}

/-! ## One node's records -/

/-- A record written straight into the document stands at its agent's
path. -/
theorem writeAgentRecord_record {n : Tree α} {tags : RecordTags} {out out' : Document} {c : AgentChange}
    (h : writeAgentRecord n tags out c = .ok out') :
    out'.valueAt (Mode.current.keysOf c.path) = some (.object (tags.record c.spec c.observed)) := by
  unfold writeAgentRecord at h
  split at h
  · cases h
  · split at h
    · rename_i m doc written
      cases h
      have spec := materialize_spec written
      rw [spec.target, spec.entries]
    · cases h

/-- Records written one after the other into a scratch document leave, at
the position of a change that no later change lies at or above, that
change's record. -/
theorem foldlM_recordStep_last {n : Tree α} {tags : RecordTags} {before after : List AgentChange}
    {c : AgentChange} {d d' : Document} (h : (before ++ c :: after).foldlM (recordStep n tags) d = .ok d')
    (later : ∀ c' ∈ after, Apart c'.path c.path) :
    d'.valueAt (Mode.current.keysOf (c.path.drop n.path.length)) = some (.object (tags.record c.spec c.observed)) := by
  rw [List.foldlM_append] at h
  cases first : before.foldlM (recordStep n tags) d with
  | error e =>
    rw [first] at h
    cases h
  | ok d₁ =>
    rw [first] at h
    change (c :: after).foldlM (recordStep n tags) d₁ = .ok d' at h
    rw [List.foldlM_cons] at h
    cases written : recordStep n tags d₁ c with
    | error e =>
      rw [written] at h
      cases h
    | ok d₂ =>
      rw [written] at h
      obtain ⟨inside, -, m, spec⟩ := recordStep_ok written
      obtain ⟨below, touched⟩ := foldlM_touches
        (P := fun c' => n.path <+: c'.path ∧ n.path.length < c'.path.length) (recordStep n tags)
        (fun c' => Mode.current.keysOf (c'.path.drop n.path.length)) (fun _ _ _ step => recordStep_touches step)
        after d₂ d' h
      rw [touched.apart _ fun w wmem => ?_, spec.target, spec.entries]
      obtain ⟨c', cmem, rfl⟩ := List.mem_map.mp wmem
      exact ((later c' cmem).drop (below c' cmem).1 inside).symm.keysOf

/-- An entry write that succeeded leaves, at the position of a change of the
node's queue that no later change lies at or above, that change's record:
the scratch state holding it became the node's fresh state. -/
theorem writeNode_record {m : Tree α} {tags : RecordTags} {before after : List AgentChange} {c : AgentChange}
    {out out' : Document} {st : Payload} (state : m.state = some st)
    (h : writeNode m tags (before ++ c :: after) out = (out', none)) (later : ∀ c' ∈ after, Apart c'.path c.path) :
    out'.valueAt (Mode.current.keysOf c.path) = some (.object (tags.record c.spec c.observed)) := by
  obtain ⟨_, _, _, _, entries₂, _, -, -, -, agents, written⟩ := writeNode_ok state h
  obtain ⟨below, scratch, folded, -, stateIs⟩ := withAgents_spec agents
  have inScratch := foldlM_recordStep_last folded later
  have cmem : c ∈ before ++ c :: after := by simp
  obtain ⟨seg, rest, dropped, pathIs⟩ := eq_append_cons_of_below (below c cmem).1 (below c cmem).2
  rw [dropped, Mode.keysOf_current_cons, valueAt_state stateIs] at inScratch
  rw [pathIs, Mode.keysOf_append, Mode.keysOf_current_cons, ← entryKeys, fresh_state written, inScratch]

/-- Record writes of a node at paths apart from a position keep the value
there. -/
theorem run_records_keep {m : Tree α} {tags : RecordTags} {changes : List AgentChange} {p : List String}
    (apart : ∀ c' ∈ changes, Apart c'.path p) {out v : Document} (holds : out.valueAt (Mode.current.keysOf p) = some v) :
    (run tags (changes.map (.record m)) out).1.valueAt (Mode.current.keysOf p) = some v := by
  refine run_invariant tags (I := fun d => d.valueAt (Mode.current.keysOf p) = some v) (Q := fun _ => True) _
    (fun w wmem d kept _ => ?_) _ holds fun _ _ => trivial
  obtain ⟨c', cmem, rfl⟩ := List.mem_map.mp wmem
  rw [(perform_touches_span tags _ d).apart _ fun y ymem => ?_, kept]
  rw [(mem_span_record ymem).1]
  exact (apart c' cmem).symm.keysOf

/-- The record writes of a node without a state, none of which failed,
leave at the position of a change that no later change lies at or above
that change's record. -/
theorem run_records_last {m : Tree α} {tags : RecordTags} {before after : List AgentChange} {c : AgentChange}
    {out : Document} (clean : ∀ e ∈ (run tags ((before ++ c :: after).map (.record m)) out).2, e.2 = none)
    (later : ∀ c' ∈ after, Apart c'.path c.path) :
    (run tags ((before ++ c :: after).map (.record m)) out).1.valueAt (Mode.current.keysOf c.path) =
      some (.object (tags.record c.spec c.observed)) := by
  rw [List.map_append, List.map_cons, run_append, run_cons] at clean ⊢
  generalize (run tags (before.map (.record m)) out).1 = out₁ at clean ⊢
  have recorded : ((Write.record m c).perform tags out₁).1.valueAt (Mode.current.keysOf c.path) =
      some (.object (tags.record c.spec c.observed)) := by
    have none := clean _ (List.mem_append_right _ List.mem_cons_self)
    simp only [Write.perform] at none ⊢
    cases written : writeAgentRecord m tags out₁ c with
    | ok out₂ => exact writeAgentRecord_record written
    | error e => simp [written] at none
  exact run_records_keep later recorded

/-- The writes of a node, none of which failed, leave at the position of a
change of its queue that no later change lies at or above that change's
record. -/
theorem writesOf_record {m : Tree α} (tags : RecordTags) {before after : List AgentChange} {c : AgentChange}
    (split : m.queue.changes = before ++ c :: after) (later : ∀ c' ∈ after, Apart c'.path c.path) (out : Document)
    (clean : ∀ e ∈ (run tags (writesOf m) out).2, e.2 = none) :
    (run tags (writesOf m) out).1.valueAt (Mode.current.keysOf c.path) =
      some (.object (tags.record c.spec c.observed)) := by
  cases state : m.state with
  | none =>
    simp only [writesOf, state, split] at clean ⊢
    exact run_records_last clean later
  | some st =>
    simp only [writesOf, state, run_cons, run_nil] at clean ⊢
    have written : writeNode m tags (before ++ c :: after) out = (((Write.entry m).perform tags out).1, none) := by
      rw [← split]
      exact Prod.ext rfl (clean _ List.mem_cons_self)
    exact writeNode_record state written later

/-! ## After a whole rebuild -/

/-- No agent path queued on a node of `t` lies strictly above another; equal
paths are allowed. -/
def AgentAntichain (t : Tree α) : Prop :=
  ∀ x ∈ t.nodes, ∀ c ∈ x.queue.changes, ∀ y ∈ t.nodes, ∀ c' ∈ y.queue.changes, c.path <+: c'.path → c.path = c'.path

theorem AgentAntichain.apart {t : Tree α} (antichain : AgentAntichain t) {x y : Tree α} (hx : x ∈ t.nodes)
    (hy : y ∈ t.nodes) {c c' : AgentChange} (hc : c ∈ x.queue.changes) (hc' : c' ∈ y.queue.changes)
    (ne : c.path ≠ c'.path) : Apart c.path c'.path :=
  ⟨fun pre => ne (antichain x hx c hc y hy c' hc' pre), fun pre => ne (antichain y hy c' hc' x hx c hc pre).symm⟩

section Records

variable {t m : Tree α}

/-- After a rebuild of a placed tree with distinct node paths and agent
paths in an antichain, the record of a change of node `m` that no later
change of `m` shares, and that no node outside `m`'s subtree declares, stands
at its path, as long as the nodes nest around `m` as their paths do and the
writes of `m` and of its ancestors met no failure. -/
theorem record_of_placed (tags : RecordTags) (D : Document) (placed : t.Placed)
    (distinct : (t.nodes.map Tree.path).Nodup) (antichain : AgentAntichain t) (mem : m ∈ t.nodes)
    (above : ∀ x ∈ t.nodes, x.path <+: m.path → m ∈ x.nodes)
    (below : ∀ x ∈ t.nodes, m.path <+: x.path → x ∈ m.nodes) {before after : List AgentChange} {c : AgentChange}
    (split : m.queue.changes = before ++ c :: after) (inside : m.path <+: c.path)
    (last : ∀ c' ∈ after, c'.path ≠ c.path)
    (nearest : ∀ x ∈ t.nodes, ∀ c' ∈ x.queue.changes, c'.path = c.path → x ∈ m.nodes)
    (clean : ∀ e ∈ log tags t D, m ∈ e.1.node.nodes → e.2 = none) :
    (rebuild tags D t).document.valueAt (Mode.current.keysOf c.path) =
      some (.object (tags.record c.spec c.observed)) := by
  have cmem : c ∈ m.queue.changes := by simp [split]
  obtain ⟨pre, post, writesIs, -, inPost, -, notBelow⟩ := writes_split distinct mem
  rw [log, writesIs, run_append, run_append] at clean
  rw [(rebuild_eq_run tags D t).1, writesIs, run_append, run_append]
  have written := writesOf_record tags split
    (fun c' cmem' => antichain.apart mem mem (by simp [split, cmem']) cmem (last c' cmem'))
    (run tags (pre.flatMap writesOf) D).1 fun e emem => clean e (by simp [emem])
      (by rw [node_of_mem_writesOf (mem_of_mem_log emem)]; exact Tree.mem_nodes_self m)
  refine after_keeps (portable_value _) tags placed above below inside
    (fun x xTree ancestor ne c' cmem' => .inl (antichain.apart xTree mem cmem' cmem fun same => ne ?_))
    inPost notBelow written fun x ancestor f fmem => clean (.entry x, f) (by simp [fmem]) ancestor
  exact Tree.eq_of_mem_nodes_of_mem_nodes placed mem (nearest x xTree c' cmem' same) ancestor

end Records

/-- After a build of an adapter that declares agents only through its
accessor, on a current document `D`, a convergence and a rebuild of the
converged tree into `D`: take a node `m` whose subtree holds every node
declaring the path of a change `c` of `m`'s queue, with `c` the last such
change of `m`. The record at that path holds `c`'s spec and the section `D`
had at the path when the build declared it. Node paths must be distinct,
agent paths must form an antichain, the nodes must nest around `m` as their
paths do, and the writes of `m` and of its ancestors must meet no failure. -/
theorem rebuild_agent_record {A : Adapter α}
    (declared : ∀ a input s q, Declared input.agents q (A.build a input s q).2.2) {root : α}
    {desired D : Document} {capacity : Nat} {s s' : Session} {built : Tree α}
    (hbuild : build A root desired D capacity s = (.ok built, s')) (expired : Bool) (s₂ : Session)
    {t : Tree α} (ensured : (ensure A expired built s₂).1 = t) (tags : RecordTags)
    (distinct : (t.nodes.map Tree.path).Nodup) (antichain : AgentAntichain t) {m : Tree α} (mem : m ∈ t.nodes)
    (above : ∀ x ∈ t.nodes, x.path <+: m.path → m ∈ x.nodes)
    (below : ∀ x ∈ t.nodes, m.path <+: x.path → x ∈ m.nodes) {before after : List AgentChange}
    {c : AgentChange} (split : m.queue.changes = before ++ c :: after) (last : ∀ c' ∈ after, c'.path ≠ c.path)
    (nearest : ∀ x ∈ t.nodes, ∀ c' ∈ x.queue.changes, c'.path = c.path → x ∈ m.nodes)
    (clean : ∀ e ∈ log tags t D, m ∈ e.1.node.nodes → e.2 = none) :
    ∃ C, observedSection D c.path = .ok C ∧
      (rebuild tags D t).document.navigate c.path .current = .ok (.object (tags.record c.spec C)) := by
  obtain ⟨-, placed, queued⟩ := ensure_placed hbuild expired s₂
  rw [ensured] at placed queued
  have cmem : c ∈ m.queue.changes := by simp [split]
  obtain ⟨relative, -, pathIs, observed⟩ := (queued m mem).change declared cmem
  have kept := record_of_placed tags D placed distinct antichain mem above below split
    ⟨relative, pathIs.symm⟩ last nearest clean
  exact ⟨c.observed, observed, navigate_eq_ok_iff.mpr ⟨kept, .inr (by simp)⟩⟩

end Rebuild

/-! ## The scripted adapter -/

namespace Script

/-- Declaring one scripted agent reaches the queue only through the
accessor. -/
theorem declareAgent_declared (s : Script) {agents : AgentAccessor} (ignore : Bool) (a : AgentScript)
    (session : Session) {q₀ q : AgentQueue} (h : Declared agents q₀ q) :
    Declared agents q₀ (declareAgent s agents ignore a session q).2.2 := by
  unfold declareAgent
  cases handed : agents.agent a.path with
  | error e =>
    dsimp only
    split <;> exact h
  | ok handle =>
    have next := Declared.declare (if a.badSpec then pairKeyed else .document a.spec) h handed
    dsimp only
    rcases declared : handle.declare (if a.badSpec then pairKeyed else .document a.spec) q with ⟨q', _ | _⟩
    all_goals
      rw [declared] at next
      dsimp only
    · split <;> exact next
    · exact next

theorem declareAgents_declared (s : Script) {agents : AgentAccessor} (ignore : Bool) {q₀ : AgentQueue} :
    ∀ (as : List AgentScript) (session : Session) {q : AgentQueue}, Declared agents q₀ q →
      Declared agents q₀ (declareAgents s agents ignore as session q).2.2
  | [], _, _, h => h
  | a :: rest, session, q, h => by
    have first := declareAgent_declared s ignore a session h
    unfold declareAgents
    rcases step : declareAgent s agents ignore a session q with ⟨_ | _, session', q'⟩
    all_goals
      rw [step] at first
      dsimp only
    · exact first
    · exact declareAgents_declared s ignore rest session' first

/-- A scripted build declares agents only through its accessor. -/
theorem build_declared (s : Script) (input : BuildInput) (session : Session) (q : AgentQueue) :
    Declared input.agents q (Script.build s input session q).2.2 := by
  unfold Script.build
  dsimp only
  split
  · exact .start
  · rename_i _ session₁ _
    split
    · split
      · exact declareAgents_declared s true _ _ .start
      · exact .start
    · split
      · exact .start
      · have declared := declareAgents_declared s false s.agents session₁ (.start : Declared input.agents q q)
        split
        all_goals
          rename_i step
          rw [step] at declared
          exact declared

end Script

namespace Rebuild

/-- The scripted child `a` of `scriptedAgentPair`, converged, with the agent
it declared at `m`. -/
def scriptedAgentLeaf : Tree Script where
  path := ["a"]
  relative := ["a"]
  identity := "a"
  adapter := { name := "a", id := "a", path := ["a"], kind := "test/a", version := "v1",
               state := .object [("name", .string "a")],
               agents := [{ path := ["m"], spec := .object [("v", Document.nat 2)] }] }
  kind := "test/a"
  version := "v1"
  state := some (.document (.object [("name", .string "a")]))
  queue := { capacity := 4, changes := [⟨["a", "m"], .object [("v", Document.nat 2)], Document.empty⟩] }

/-- A scripted root over one child `a` that declares an agent, converged. -/
def scriptedAgentPair : Tree Script where
  path := []
  relative := []
  identity := "root"
  adapter := { name := "root", id := "root", path := [], kind := "test/root", version := "v1",
               state := .object [("name", .string "root")], children := [scriptedAgentLeaf.adapter] }
  kind := "test/root"
  version := "v1"
  state := some (.document (.object [("name", .string "root")]))
  queue := AgentQueue.create 4
  children := [("a", scriptedAgentLeaf)]

theorem scripted_agent_record :
    ∃ C, observedSection .null ["a", "m"] = .ok C ∧
      (rebuild {} .null scriptedAgentPair).document.navigate ["a", "m"] .current =
        .ok (.object (RecordTags.record {} (.object [("v", Document.nat 2)]) C)) := by
  have built : build Script.adapter scriptedAgentPair.adapter (.object [("spec", .object [("a", .object [])])]) .null 4
      {} = (.ok { scriptedAgentPair with state := none, children := [("a", { scriptedAgentLeaf with state := none })] },
        { log := ["build:root", "desired:root:\x7b\"spec\":\x7b\"a\":\x7b\x7d\x7d\x7d", "build:a", "desired:a:\x7b\x7d",
                  "agent:a:a/m:\x7b\x7d"] }) := by
    unfold build
    unfold Build.node
    unfold Build.node
    rfl
  have nodes : scriptedAgentPair.nodes = [scriptedAgentPair, scriptedAgentLeaf] := rfl
  have queues : ∀ x ∈ scriptedAgentPair.nodes, ∀ c ∈ x.queue.changes,
      x = scriptedAgentLeaf ∧ c = ⟨["a", "m"], .object [("v", Document.nat 2)], Document.empty⟩ := by
    intro x hx c hc
    simp only [nodes, List.mem_cons, List.not_mem_nil, or_false] at hx
    rcases hx with rfl | rfl
    · exact absurd hc List.not_mem_nil
    · exact ⟨rfl, List.mem_singleton.mp hc⟩
  refine rebuild_agent_record (t := scriptedAgentPair) (m := scriptedAgentLeaf)
    (fun a input s q => Script.build_declared a input s q) built false {} rfl {}
    (by decide) ?_ (Tree.mem_nodes.mpr (.inr ⟨_, List.mem_cons_self, Tree.mem_nodes_self _⟩)) ?_ ?_
    (show scriptedAgentLeaf.queue.changes = [] ++ _ :: [] from rfl) (fun _ none => absurd none List.not_mem_nil)
    ?_ ?_
  · intro x hx c hc y hy c' hc' _
    rw [(queues x hx c hc).2, (queues y hy c' hc').2]
  · intro x hx _
    simp only [nodes, List.mem_cons, List.not_mem_nil, or_false] at hx
    rcases hx with rfl | rfl
    · exact Tree.mem_nodes.mpr (.inr ⟨_, List.mem_cons_self, Tree.mem_nodes_self _⟩)
    · exact Tree.mem_nodes_self _
  · intro x hx pre
    simp only [nodes, List.mem_cons, List.not_mem_nil, or_false] at hx
    rcases hx with rfl | rfl
    · exact absurd pre (by decide)
    · exact Tree.mem_nodes_self _
  · intro x hx c hc _
    rw [(queues x hx c hc).1]
    exact Tree.mem_nodes_self _
  · exact fun e he _ => log_clean (by decide +kernel) e he

/-- The scripted child `a` of `scriptedOverride`, converged, which declares
the agent at `m` below it with spec `v: 2`. -/
def scriptedOverrideLeaf : Tree Script where
  path := ["a"]
  relative := ["a"]
  identity := "a"
  adapter := { name := "a", id := "a", path := ["a"], kind := "test/a", version := "v1",
               state := .object [("name", .string "a")],
               agents := [{ path := ["m"], spec := .object [("v", Document.nat 2)] }] }
  kind := "test/a"
  version := "v1"
  state := some (.document (.object [("name", .string "a")]))
  queue := { capacity := 4, changes := [⟨["a", "m"], .object [("v", Document.nat 2)], Document.empty⟩] }

/-- A scripted root that declares the agent at `a/m` with spec `v: 1`
before its child `a` declares it again, converged. -/
def scriptedOverride : Tree Script where
  path := []
  relative := []
  identity := "root"
  adapter := { name := "root", id := "root", path := [], kind := "test/root", version := "v1",
               state := .object [("name", .string "root")],
               agents := [{ path := ["a", "m"], spec := .object [("v", Document.nat 1)] }],
               children := [scriptedOverrideLeaf.adapter] }
  kind := "test/root"
  version := "v1"
  state := some (.document (.object [("name", .string "root")]))
  queue := { capacity := 4, changes := [⟨["a", "m"], .object [("v", Document.nat 1)], Document.empty⟩] }
  children := [("a", scriptedOverrideLeaf)]

/-- The last declaration the build makes need not be the one whose record
stays: the root declares the agent at `a/m` first and its child `a` then
declares it again with spec `v: 2`, but the root writes after its child and
the record holds the root's spec `v: 1`. The node paths are distinct, the
agent paths form an antichain, none lies at or above a node, and the rebuild
reports no failure. -/
theorem later_declaration_overwritten :
    (∃ built, build Script.adapter scriptedOverride.adapter (.object [("spec", .object [("a", .object [])])]) .null
        4 {} = (.ok built,
          { log := ["build:root", "desired:root:\x7b\"spec\":\x7b\"a\":\x7b\x7d\x7d\x7d", "agent:root:a/m:\x7b\x7d",
                    "build:a", "desired:a:\x7b\x7d", "agent:a:a/m:\x7b\x7d"] }) ∧
        (ensure Script.adapter false built {}).1 = scriptedOverride) ∧
      (scriptedOverride.nodes.map Tree.path).Nodup ∧ AgentAntichain scriptedOverride ∧
      (∀ x ∈ scriptedOverride.nodes, ∀ c ∈ x.queue.changes, ∀ y ∈ scriptedOverride.nodes, ¬ c.path <+: y.path) ∧
      (rebuild {} .null scriptedOverride).failures = [] ∧
      (rebuild {} .null scriptedOverride).document.navigate ["a", "m"] .current =
        .ok (.object (RecordTags.record {} (.object [("v", Document.nat 1)]) Document.empty)) := by
  refine ⟨⟨{ scriptedOverride with state := none, children := [("a", { scriptedOverrideLeaf with state := none })] },
    ?_, rfl⟩, by decide, by unfold AgentAntichain; decide, by decide, by decide +kernel, rfl⟩
  unfold build
  unfold Build.node
  unfold Build.node
  rfl

end Rebuild

end Reconcile
