import Reconcile.Proofs.AgentRecords

/-!
# No agent change is lost without a failure

A rebuild drains every queue of the tree, and each queue ends empty and
closed (`fold_drains`). Each change it drains then ends in one of three ways:
its record stands at its path; or the rebuild reports a failure naming the
change's path, as a node without a state does for a record it cannot write;
or the entry write of its node, or of a node above it, failed
(`rebuild_accounts_for_changes`).

The third way is that of a node holding a state. It writes all its records
into its fresh state in one step, so a single record that cannot be written,
or a state that cannot be written at all, loses every change of the node,
with a failure naming the node, and at most one of its changes.

This needs the nodes to nest as their paths do, and the agent paths to lie
apart from one another: otherwise one write may overwrite another's record.
-/

namespace Reconcile

namespace Tree

variable {α : Type}

/-- The nodes of a tree nest as their paths do: a node whose path lies at or
above another node's has that node in its subtree. -/
def Nested (t : Tree α) : Prop :=
  ∀ x ∈ t.nodes, ∀ y ∈ t.nodes, x.path <+: y.path → y ∈ x.nodes

end Tree

namespace Rebuild

open Document

variable {α : Type}

/-- The agent paths queued on a tree's nodes form a strict antichain: two
queued changes whose paths lie at or above one another are one change of one
node. -/
def AgentsApart (t : Tree α) : Prop :=
  ∀ x ∈ t.nodes, ∀ c ∈ x.queue.changes, ∀ y ∈ t.nodes, ∀ c' ∈ y.queue.changes,
    c.path <+: c'.path → x = y ∧ c = c'

theorem AgentsApart.apart {t x y : Tree α} (apart : AgentsApart t) (hx : x ∈ t.nodes) (hy : y ∈ t.nodes)
    {c c' : AgentChange} (hc : c ∈ x.queue.changes) (hc' : c' ∈ y.queue.changes) (differ : x ≠ y ∨ c ≠ c') :
    Apart c.path c'.path := by
  refine ⟨fun pre => ?_, fun pre => ?_⟩
  · obtain ⟨same, same'⟩ := apart x hx c hc y hy c' hc' pre
    exact differ.elim (· same) (· same')
  · obtain ⟨same, same'⟩ := apart y hy c' hc' x hx c hc pre
    exact differ.elim (· same.symm) (· same'.symm)

/-- A failure of node `m` that names the path of its change `c`: the change
does not lie below the node, or its record could not be placed. -/
def NamesChange (m : Tree α) (c : AgentChange) (e : RebuildError) : Prop :=
  e = .agentPath m.identity (Path.format m.path) (Path.format c.path) ∨
    ∃ cause, e = .navigation m.identity (Path.format c.path) cause

/-! ## Draining -/

mutual
theorem fold_drains (tags : RecordTags) : (t : Tree α) → (out : Document) →
    ∀ v ∈ (fold tags t out).1.nodes, v.queue.changes = [] ∧ v.queue.closed = true
  | ⟨path, relative, identity, a, kind, version, state, queue, cs⟩, out => by
    have folded : (fold tags ⟨path, relative, identity, a, kind, version, state, queue, cs⟩ out).1 =
        ⟨path, relative, identity, a, kind, version, state, { queue with changes := [], closed := true },
          (foldAll tags cs out).1⟩ := by
      unfold fold
      cases state <;> rfl
    rw [folded]
    intro v mem
    rcases Tree.mem_nodes.mp mem with rfl | ⟨e, emem, inside⟩
    · exact ⟨rfl, rfl⟩
    · exact foldAll_drains tags cs out e emem v inside
theorem foldAll_drains (tags : RecordTags) : (cs : List (String × Tree α)) → (out : Document) →
    ∀ e ∈ (foldAll tags cs out).1, ∀ v ∈ e.2.nodes, v.queue.changes = [] ∧ v.queue.closed = true
  | [], _ => fun _ mem => absurd mem List.not_mem_nil
  | (id, c) :: rest, out => by
    have folded : (foldAll tags ((id, c) :: rest) out).1 =
        (id, (fold tags c out).1) :: (foldAll tags rest (fold tags c out).2.1).1 := rfl
    rw [folded]
    intro e mem
    rcases List.mem_cons.mp mem with rfl | later
    · exact fold_drains tags c out
    · exact foldAll_drains tags rest _ e later
end

/-! ## One node's changes -/

section Node

variable {n : Tree α} {tags : RecordTags} {out out' : Document} {c : AgentChange}

theorem writeAgentRecord_below (h : writeAgentRecord n tags out c = .ok out') : n.path <+: c.path := by
  unfold writeAgentRecord at h
  split at h
  · cases h
  · rename_i relative taken
    exact (agentRelative_eq_ok.mp taken).1

/-- A record that cannot be written straight into the document fails naming
its change. -/
theorem writeAgentRecord_names {e : RebuildError} (h : writeAgentRecord n tags out c = .error e) :
    NamesChange n c e := by
  unfold writeAgentRecord at h
  split at h
  · rename_i e' outside
    cases h
    unfold agentRelative at outside
    split at outside
    · cases outside
    · cases outside
      exact .inl rfl
  · split at h
    · cases h
    · cases h
      exact .inr ⟨_, rfl⟩

theorem writeNode_below {changes : List AgentChange} {st : Payload} (state : n.state = some st)
    (h : writeNode n tags changes out = (out', none)) : ∀ c ∈ changes, n.path <+: c.path := by
  intro c cmem
  obtain ⟨_, _, _, _, _, _, -, -, -, agents, -⟩ := writeNode_ok state h
  exact ((withAgents_spec agents).1 c cmem).1

end Node

/-- The writes of one node account for each change of its queue, unless its
entry write failed: the change's record stands at its path, below the node,
or a failure names the change. Of the declarations of one change the last
one decides, so the other changes of the queue must lie apart from it. -/
theorem writesOf_accounts (tags : RecordTags) {m : Tree α} {c : AgentChange} (cmem : c ∈ m.queue.changes)
    (others : ∀ c' ∈ m.queue.changes, c' ≠ c → Apart c'.path c.path) (out : Document)
    (clean : ∀ f, (Write.entry m, f) ∈ (run tags (writesOf m) out).2 → f = none) :
    (m.path <+: c.path ∧ (run tags (writesOf m) out).1.valueAt (Mode.current.keysOf c.path) =
        some (.object (tags.record c.spec c.observed))) ∨
      ∃ e ∈ (run tags (writesOf m) out).2.filterMap Prod.snd, NamesChange m c e := by
  obtain ⟨after', before', reversed, notAfter⟩ := List.eq_append_cons_of_mem (List.mem_reverse.mpr cmem)
  have queueIs : m.queue.changes = before'.reverse ++ c :: after'.reverse := by
    rw [← List.reverse_reverse m.queue.changes, reversed]
    simp
  have later : ∀ c' ∈ after'.reverse, Apart c'.path c.path := fun c' mem =>
    others c' (by simp [queueIs, List.mem_reverse.mp mem])
      fun same => notAfter (List.mem_reverse.mp (same ▸ mem))
  cases state : m.state with
  | none =>
    simp only [writesOf, state, queueIs, List.map_append, List.map_cons, run_append, run_cons]
    generalize (run tags (before'.reverse.map (.record m)) out) = first
    cases written : writeAgentRecord m tags first.1 c with
    | error e =>
      refine .inr ⟨e, ?_, writeAgentRecord_names written⟩
      simp [Write.perform, written]
    | ok out₁ =>
      refine .inl ⟨writeAgentRecord_below written, ?_⟩
      simp only [Write.perform, written]
      exact run_records_keep later (writeAgentRecord_record written)
  | some st =>
    simp only [writesOf, state, run_cons, run_nil] at clean ⊢
    have written : writeNode m tags (before'.reverse ++ c :: after'.reverse) out =
        (((Write.entry m).perform tags out).1, none) := by
      rw [← queueIs]
      exact Prod.ext rfl (clean _ List.mem_cons_self)
    exact .inl ⟨writeNode_below state written c (by simp), writeNode_record state written later⟩

/-! ## A whole rebuild -/

section Accounts

variable {t m : Tree α}

/-- In a rebuild of a placed tree, every change queued on a node `m` has its
record at its path, or a failure names it, or the entry write of `m` or of a
node above it failed. Node paths must be distinct, agent paths apart and the
nodes nested as their paths are. -/
theorem change_accounted (tags : RecordTags) (D : Document) (placed : t.Placed)
    (distinct : (t.nodes.map Tree.path).Nodup) (apart : AgentsApart t) (nested : t.Nested) (mem : m ∈ t.nodes)
    {c : AgentChange} (cmem : c ∈ m.queue.changes) :
    (rebuild tags D t).document.valueAt (Mode.current.keysOf c.path) = some (.object (tags.record c.spec c.observed)) ∨
      (∃ e ∈ (rebuild tags D t).failures, NamesChange m c e) ∨
      ∃ x, m ∈ x.nodes ∧ ∃ e, (Write.entry x, some e) ∈ log tags t D := by
  by_cases failed : ∃ x, m ∈ x.nodes ∧ ∃ e, (Write.entry x, some e) ∈ log tags t D
  · exact .inr (.inr failed)
  have clean : ∀ x, m ∈ x.nodes → ∀ f, (Write.entry x, f) ∈ log tags t D → f = none := by
    intro x ancestor f logged
    cases f with
    | none => rfl
    | some e => exact absurd ⟨x, ancestor, e, logged⟩ failed
  obtain ⟨pre, post, writesIs, -, inPost, -, notBelow⟩ := writes_split distinct mem
  rw [log, writesIs, run_append, run_append] at clean
  rw [(rebuild_eq_run tags D t).1, (rebuild_eq_run tags D t).2, log, writesIs, run_append, run_append]
  generalize (run tags (pre.flatMap writesOf) D) = first at clean ⊢
  have own := writesOf_accounts tags cmem (fun c' mem' ne => apart.apart mem mem mem' cmem (.inr ne)) first.1
    fun f logged => clean m (Tree.mem_nodes_self m) f (by simp [logged])
  rcases own with ⟨inside, recorded⟩ | ⟨e, emem, names⟩
  · -- the record stands after the node's writes; the later writes carry it along
    refine .inl (after_keeps (portable_value _) tags placed (fun x xmem pre => nested x xmem m mem pre)
      (fun x xmem pre => nested m mem x xmem pre) inside
      (fun x xmem _ ne c' mem' => .inl (apart.apart xmem mem mem' cmem (.inl ne))) inPost notBelow recorded
      fun x ancestor f logged => clean x ancestor f (by simp [logged]))
  · exact .inr (.inl ⟨e, by simp only [List.filterMap_append, List.mem_append]; exact .inr (.inl emem), names⟩)

end Accounts

/-- After a build, a convergence and a rebuild of the converged tree into
any current document `D`, every queue of the rebuilt tree is empty and
closed, and every change drained from a node `m` has its record at its path,
or the rebuild reports a failure naming the change's path, or the entry write
of `m` or of a node above `m` failed. Node paths must be distinct, two agent
paths at or above one another must be one change of one node, and the nodes
must nest as their paths do. -/
theorem rebuild_accounts_for_changes {A : Adapter α} {root : α} {desired current : Document} {capacity : Nat}
    {s s' : Session} {built : Tree α} (hbuild : build A root desired current capacity s = (.ok built, s'))
    (expired : Bool) (s₂ : Session) {t : Tree α} (ensured : (ensure A expired built s₂).1 = t)
    (tags : RecordTags) (D : Document) (distinct : (t.nodes.map Tree.path).Nodup) (apart : AgentsApart t)
    (nested : t.Nested) :
    (∀ v ∈ (rebuild tags D t).tree.nodes, v.queue.changes = [] ∧ v.queue.closed = true) ∧
      ∀ m ∈ t.nodes, ∀ c ∈ m.queue.changes,
        (rebuild tags D t).document.navigate c.path .current = .ok (.object (tags.record c.spec c.observed)) ∨
          (∃ e ∈ (rebuild tags D t).failures, NamesChange m c e) ∨
          ∃ x, m ∈ x.nodes ∧ ∃ e, (Write.entry x, some e) ∈ log tags t D := by
  have placed : t.Placed := ensured ▸ (ensure_placed hbuild expired s₂).2.1
  refine ⟨fold_drains tags t D, fun m mem c cmem => ?_⟩
  rcases change_accounted tags D placed distinct apart nested mem cmem with recorded | named | failed
  · exact .inl (navigate_eq_ok_iff.mpr ⟨recorded, .inr (by simp)⟩)
  · exact .inr (.inl named)
  · exact .inr (.inr failed)

/-- A scripted root holding the state `x: 5` that declares agents at `y` and,
below its number, at `x/m`, converged. -/
def scriptedNumberAgents : Tree Script where
  path := []
  relative := []
  identity := "root"
  adapter := { name := "root", id := "root", path := [], kind := "test/root", version := "v1",
               state := .object [("x", Document.nat 5)],
               agents := [{ path := ["y"], spec := .object [("v", Document.nat 1)] },
                          { path := ["x", "m"], spec := .object [("v", Document.nat 2)] }] }
  kind := "test/root"
  version := "v1"
  state := some (.document (.object [("x", Document.nat 5)]))
  queue := { capacity := 4, changes := [⟨["y"], .object [("v", Document.nat 1)], Document.empty⟩,
    ⟨["x", "m"], .object [("v", Document.nat 2)], Document.empty⟩] }

/-- The root's record at `x/m` cannot be written through the number `5`, so
its entry write fails as a whole and the document stays as it was. The only
failure names `x/m`: the change at `y` is accounted for by the failed entry
write alone. -/
theorem number_state_loses_sibling_change :
    (build Script.adapter scriptedNumberAgents.adapter (.object [("spec", .object [])]) .null 4 {} =
        (.ok { scriptedNumberAgents with state := none },
          { log := ["build:root", "desired:root:\x7b\"spec\":\x7b\x7d\x7d", "agent:root:y:\x7b\x7d",
                    "agent:root:x/m:\x7b\x7d"] }) ∧
        (ensure Script.adapter false { scriptedNumberAgents with state := none } {}).1 = scriptedNumberAgents) ∧
      (scriptedNumberAgents.nodes.map Tree.path).Nodup ∧ AgentsApart scriptedNumberAgents ∧
      scriptedNumberAgents.Nested ∧
      ((∀ v ∈ (rebuild {} .null scriptedNumberAgents).tree.nodes, v.queue.changes = [] ∧ v.queue.closed = true) ∧
        ∀ m ∈ scriptedNumberAgents.nodes, ∀ c ∈ m.queue.changes,
          (rebuild {} .null scriptedNumberAgents).document.navigate c.path .current =
              .ok (.object (RecordTags.record {} c.spec c.observed)) ∨
            (∃ e ∈ (rebuild {} .null scriptedNumberAgents).failures, NamesChange m c e) ∨
            ∃ x, m ∈ x.nodes ∧ ∃ e, (Write.entry x, some e) ∈ log {} scriptedNumberAgents .null) ∧
      (rebuild {} .null scriptedNumberAgents).failures = [.navigation "root" "x/m" (.shapeMismatch "x/current" "number")] ∧
      (rebuild {} .null scriptedNumberAgents).document = .null := by
  have built : build Script.adapter scriptedNumberAgents.adapter (.object [("spec", .object [])]) .null 4 {} =
      (.ok { scriptedNumberAgents with state := none },
        { log := ["build:root", "desired:root:\x7b\"spec\":\x7b\x7d\x7d", "agent:root:y:\x7b\x7d",
                  "agent:root:x/m:\x7b\x7d"] }) := by
    unfold build
    unfold Build.node
    rfl
  have nodes : scriptedNumberAgents.nodes = [scriptedNumberAgents] := rfl
  have apart : AgentsApart scriptedNumberAgents := by
    intro x hx c hc y hy c' hc' pre
    rw [nodes, List.mem_singleton] at hx hy
    subst hx hy
    refine ⟨rfl, ?_⟩
    simp only [scriptedNumberAgents, List.mem_cons, List.not_mem_nil, or_false] at hc hc'
    rcases hc with rfl | rfl <;> rcases hc' with rfl | rfl
    · rfl
    · exact absurd pre (by decide)
    · exact absurd pre (by decide)
    · rfl
  have nested : scriptedNumberAgents.Nested := by
    intro x hx y hy _
    rw [nodes, List.mem_singleton] at hx hy
    rw [hx, hy]
    exact Tree.mem_nodes_self _
  exact ⟨⟨built, rfl⟩, by decide, apart, nested,
    rebuild_accounts_for_changes built false {} rfl {} .null (by decide) apart nested, by decide +kernel,
    by decide +kernel⟩

end Rebuild

end Reconcile
