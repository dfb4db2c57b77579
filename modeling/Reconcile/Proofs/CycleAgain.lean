import Reconcile.Cycle
import Reconcile.Proofs.BuildAgain
import Reconcile.Proofs.RebuildLookups
import Reconcile.Proofs.SiblingOrder

/-!
# Running a cycle again

A cycle that got past its build and rebuilt the current document without a
failure is a fixed point of `Reconciler.run`, which converges the tree one
node after another: run again on the document it produced, from the same
session, it gives the same cycle (`Reconciler.run_again`). The built tree
must be laid out as a rebuild needs it (`Rebuild.Layout`), its scripted
agents must heed refusals, and the documents must be normal, as the
program's are.

The second build reads the produced document where the first read the
previous one, and builds the same tree (`Reconciler.build_again`): every
node's lookup still goes through (`Rebuild.lookup_rebuilt`), and every agent
finds in its record the section the first build handed out
(`agrees_rebuilt`). The second rebuild then writes every entry and record
back where it stands (`Rebuild.rebuild_rebuilt`).
-/

namespace Reconcile

open Document Rebuild

variable {α : Type}

/-! ## Builds that went through -/

namespace Build

/-- A node's adapter built it: from the slice its path finds in the current
document, into a fresh queue that it left as the node's queue. -/
def Succeeded (A : Adapter α) (scope : Scope) (x : Tree α) : Prop :=
  ∃ input s found built s', scope.current.lookup x.path .current = .ok found ∧
    input.agents = ⟨x.path, found.getD .null⟩ ∧
    A.build x.adapter input s (AgentQueue.create scope.capacity) = (.ok built, s', x.queue)

theorem node_succeeded {A : Adapter α} {scope : Scope} (a : α) (parent : Option (List String × Option Document))
    (w : Document) (s : Session) {t : Tree α} {w' : Document} {s' : Session}
    (h : node A scope a parent w s = (.ok (t, w'), s')) : ∀ x ∈ t.nodes, Succeeded A scope x := by
  obtain ⟨edit, s₁, found, input, s₂, built, -, looked, agents, built_eq, adapter, children⟩ := node_ok h
  intro x hx
  rcases Tree.mem_nodes.mp hx with rfl | ⟨e, mem, inside⟩
  · subst adapter
    exact ⟨input, s₁, found, built, s₂, looked, agents, built_eq⟩
  · obtain ⟨entry, -, w, s, w', s', call⟩ := children e mem
    exact node_succeeded entry.2.1 _ w s call x inside
termination_by A.rank a
decreasing_by exact entry.2.2

end Build

theorem build_succeeded {A : Adapter α} {root : α} {desired current : Document} {capacity : Nat}
    {s s' : Session} {t : Tree α} (h : build A root desired current capacity s = (.ok t, s')) :
    ∀ x ∈ t.nodes, Build.Succeeded A ⟨current, capacity⟩ x := by
  unfold build at h
  split at h
  · rename_i t' w s'' built
    simp only [Prod.mk.injEq, Except.ok.injEq] at h
    obtain ⟨rfl, rfl⟩ := h
    exact Build.node_succeeded root none desired s built
  · cases h

/-! ## What agents are handed -/

/-- An accessor hands out only non-null sections. -/
theorem observedSection_isNull {d : Document} {relative : List String} {observed : Document}
    (h : observedSection d relative = .ok observed) : observed.isNull = false := by
  unfold observedSection at h
  split at h
  · cases h
  · cases h
    rfl
  · split at h
    · split at h
      · cases h
        rfl
      · rename_i notNull
        cases h
        simpa using notNull
    · cases h
      rfl

/-- The sections of a normal document are normal. -/
theorem normal_of_observedSection {d : Document} (normal : d.Normal) {relative : List String}
    {observed : Document} (h : observedSection d relative = .ok observed) : observed.Normal := by
  unfold observedSection at h
  split at h
  · cases h
  · cases h
    exact Normal.empty
  · rename_i agent looked
    have agentNormal : agent.Normal := normal.valueAt (navigate_eq_ok_iff.mp (lookup_eq_some.mp looked)).1
    split at h
    · rename_i part found
      split at h
      · cases h
        exact Normal.empty
      · cases h
        exact agentNormal.valueAt (by rw [valueAt_singleton]; exact found)
    · cases h
      exact Normal.empty

theorem observedSection_of_record {d : Document} {relative : List String} {tags : RecordTags}
    {spec observed : Document} (found : d.lookup relative .current = .ok (some (.object (tags.record spec observed))))
    (notNull : observed.isNull = false) : observedSection d relative = .ok observed := by
  simp [observedSection, found, RecordTags.record, get?, Keyed.get?, notNull]

theorem AgentAccessor.agent_of_observed {a a' : AgentAccessor} {relative : List String} {h : AgentHandle}
    (handed : a.agent relative = .ok h) (node : a'.nodePath = a.nodePath)
    (observed : observedSection a'.current relative = .ok h.observed) : a'.agent relative = .ok h := by
  obtain ⟨nonempty, pathIs, -⟩ := AgentAccessor.agent_ok handed
  unfold AgentAccessor.agent
  simp only [List.isEmpty_iff, nonempty, if_false, observed, node, ← pathIs]

/-! ## The second build -/

namespace Rebuild

/-- In a rebuild that met no failure, every change queued below its node has
its record in the rebuilt document, with the spec and the section it was
declared with. -/
theorem record_rebuilt (tags : RecordTags) (D : Document) {t : Tree α} (layout : Layout t)
    (clean : ∀ e ∈ log tags t D, e.2 = none) {m : Tree α} (mem : m ∈ t.nodes) {c : AgentChange}
    (cmem : c ∈ m.queue.changes) (inside : m.path <+: c.path) :
    (rebuild tags D t).document.valueAt (Mode.current.keysOf c.path) =
      some (.object (tags.record c.spec c.observed)) := by
  -- the last occurrence of the change is the last change at its path, as agent paths are apart
  obtain ⟨before, after, split, last⟩ := exists_split_last cmem
  refine record_of_placed tags D layout.placed layout.distinct layout.antichain mem (layout.above mem)
    (layout.below mem) split inside (fun c' later same => ?_) (fun x xTree c' c'mem same => ?_)
    fun e emem _ => clean e emem
  · have c'mem : c' ∈ m.queue.changes := by simp [split, later]
    obtain ⟨-, rfl⟩ := layout.apart m mem c cmem m mem c' c'mem (by simp [same])
    exact last later
  · obtain ⟨rfl, -⟩ := layout.apart x xTree c' c'mem m mem c cmem (by simp [same])
    exact Tree.mem_nodes_self x

/-- Rebuilding a converged tree without a failure keeps every scripted node
of the built tree building alike from the rebuilt document: its lookup still
goes through, and each agent finds in its record the section the first build
handed out. -/
theorem agrees_rebuilt (tags : RecordTags) {root : Script} {desired D : Document} {capacity : Nat}
    {s s₁ : Session} {built t : Tree Script}
    (built_eq : build Script.adapter root desired D capacity s = (.ok built, s₁)) (same : Tree.SameShape built t)
    (layout : Layout t) (closed : t.StatesClosed) (clean : ∀ e ∈ log tags t D, e.2 = none)
    (heeded : ∀ x ∈ built.nodes, ∀ a ∈ x.adapter.agents, a.ignoreErrors = false) :
    ∀ x ∈ built.nodes,
      Build.Agrees Script.adapter ⟨D, capacity⟩ ⟨(rebuild tags D t).document, capacity⟩ x := by
  intro x hx
  obtain ⟨input, s₀, found, b, s₀', looked, agents, built_x⟩ := build_succeeded built_eq x hx
  obtain ⟨x', hx', sameX⟩ := same.symm.mem_nodes hx
  obtain ⟨path, -, -, queue, -⟩ := sameX.fields
  obtain ⟨found', looked'⟩ := lookup_rebuilt tags D layout closed clean hx' (path ▸ looked)
  rw [← path] at looked'
  refine ⟨found, found', looked, looked', fun desired' handedDown s q => ?_⟩
  refine Script.build_congr x.adapter (fun a amem => ?_) desired' handedDown s q
  obtain ⟨handle, handed, c, cmem, cpath, cobserved⟩ := Script.build_heeded (heeded x hx) built_x a amem
  rw [agents] at handed
  obtain ⟨nonempty, handlePath, observed⟩ := AgentAccessor.agent_ok handed
  have atPath : c.path = x.path ++ a.path := cpath.trans handlePath
  have recorded := record_rebuilt tags D layout clean hx' (queue ▸ cmem)
    (by rw [← path, atPath]; exact List.prefix_append _ _)
  rw [atPath] at recorded
  have again : observedSection (found'.getD .null) a.path = .ok handle.observed := by
    rw [← cobserved]
    exact observedSection_of_record (lookup_below looked' nonempty recorded (by simp))
      (cobserved ▸ observedSection_isNull observed)
  have second : AgentAccessor.agent ⟨x.path, found'.getD .null⟩ a.path = .ok handle :=
    AgentAccessor.agent_of_observed handed rfl again
  rw [handed, second]

/-- The writes of a converged scripted tree are normal when the queued specs
and the states are: the sections its agents were handed came out of a normal
document. -/
theorem normalWrites_converged {root : Script} {desired D : Document} {capacity : Nat} {s s₁ : Session}
    {built : Tree Script} (built_eq : build Script.adapter root desired D capacity s = (.ok built, s₁))
    (expired : Bool) (s₂ : Session) (normal : D.Normal)
    (specs : ∀ x ∈ built.nodes, ∀ c ∈ x.queue.changes, c.spec.Normal)
    (states : ∀ x ∈ (ensure Script.adapter expired built s₂).1.nodes, ∀ st doc,
      x.state = some st → st.encode = .ok doc → doc.Normal) :
    NormalWrites (ensure Script.adapter expired built s₂).1 := by
  obtain ⟨-, -, queued⟩ := ensure_placed built_eq expired s₂
  refine ⟨states, fun x hx c cmem => ⟨?_, ?_⟩⟩
  · obtain ⟨x₀, hx₀, sameX⟩ := (Tree.ensure_sameShape Script.adapter expired built s₂).mem_nodes hx
    exact specs x₀ hx₀ c (sameX.fields.2.2.2.1 ▸ cmem)
  · obtain ⟨-, -, -, observed⟩ := (queued x hx).change (fun a input s q => Script.build_declared a input s q) cmem
    exact normal_of_observedSection normal observed

theorem rebuild_tree (tags : RecordTags) (D D' : Document) (t : Tree α) :
    (rebuild tags D t).tree = (rebuild tags D' t).tree := by
  unfold rebuild
  exact fold_tree tags t D D'

end Rebuild

/-! ## The whole cycle again -/

namespace Reconciler

/-- The parts of a finished cycle: the rebuild of the converged tree, and
the convergence's failure. -/
theorem complete_eq (r : Reconciler) (A : Adapter α) (expired : Bool) (tree : Tree α) (D : Document)
    (s : Session) :
    r.complete A expired tree D s = (⟨(rebuild r.config.agentRecord D (ensure A expired tree s).1).document,
      (match (ensure A expired tree s).2.1 with | .error e => some e | .ok () => none),
      (rebuild r.config.agentRecord D (ensure A expired tree s).1).failures,
      (rebuild r.config.agentRecord D (ensure A expired tree s).1).tree⟩, (ensure A expired tree s).2.2) := by
  unfold complete
  rfl

theorem run_of_build (r : Reconciler) {A : Adapter α} (expired : Bool) {root : α} {desired D : Document}
    {s s₁ : Session} {built : Tree α}
    (h : build A root desired D r.config.agentQueueCapacity s = (.ok built, s₁)) :
    r.run A expired root desired D s =
      (.ok (r.complete A expired built D s₁).1, (r.complete A expired built D s₁).2) := by
  unfold run
  rw [h]

/-- Finishing a built tree again, into the document a finish without a
rebuild failure produced, gives the same cycle, as long as the converged
tree is laid out for its rebuild, and its writes and the previous document
are normal. -/
theorem complete_again (r : Reconciler) (A : Adapter α) (expired : Bool) (tree : Tree α) (D : Document)
    (s : Session) (layout : Layout (ensure A expired tree s).1) (inputs : NormalWrites (ensure A expired tree s).1)
    (normal : D.Normal) (clean : (r.complete A expired tree D s).1.rebuildFailures = []) :
    r.complete A expired tree (r.complete A expired tree D s).1.document s = r.complete A expired tree D s := by
  simp only [complete_eq] at clean ⊢
  obtain ⟨document, failures⟩ := rebuild_rebuilt r.config.agentRecord D layout inputs normal clean
  rw [document, failures, clean, rebuild_tree r.config.agentRecord _ D]

/-- A built tree with distinct node paths that nest as the paths do, and agent
paths apart from each other and beside the children of their nodes, is laid
out for its rebuild once converged. -/
theorem layout_converged {A : Adapter α} {root : α} {desired D : Document} {capacity : Nat} {s s₁ : Session}
    {built : Tree α} (built_eq : build A root desired D capacity s = (.ok built, s₁)) (expired : Bool)
    (distinct : (built.nodes.map Tree.path).Nodup) (nested : built.Nested) (apart : AgentsApart built)
    (beside : ∀ x ∈ built.nodes, ∀ ch ∈ x.queue.changes, ∀ seg ∈ heads x, Apart ch.path (x.path ++ [seg])) :
    Layout (ensure A expired built s₁).1 :=
  Layout.of_sameShape ⟨(build_placed built_eq).2.1, distinct, nested, apart, beside⟩
    (Tree.ensure_sameShape A expired built s₁)

/-- A scripted cycle that rebuilt without a failure builds, run again on the
document it produced, the same tree in the same session, when the built tree
is laid out for its rebuild and its agents heed refusals. -/
theorem build_again (r : Reconciler) (expired : Bool) {root : Script} {desired D : Document} {s s₁ : Session}
    {built : Tree Script}
    (built_eq : build Script.adapter root desired D r.config.agentQueueCapacity s = (.ok built, s₁))
    (distinct : (built.nodes.map Tree.path).Nodup) (nested : built.Nested) (apart : AgentsApart built)
    (beside : ∀ x ∈ built.nodes, ∀ ch ∈ x.queue.changes, ∀ seg ∈ heads x, Apart ch.path (x.path ++ [seg]))
    (heeded : ∀ x ∈ built.nodes, ∀ a ∈ x.adapter.agents, a.ignoreErrors = false)
    (clean : (r.complete Script.adapter expired built D s₁).1.rebuildFailures = []) :
    build Script.adapter root desired (r.complete Script.adapter expired built D s₁).1.document
      r.config.agentQueueCapacity s = (.ok built, s₁) := by
  have same := Tree.ensure_sameShape Script.adapter expired built s₁
  have layout := layout_converged built_eq expired distinct nested apart beside
  have rebuiltClean : (rebuild r.config.agentRecord D (ensure Script.adapter expired built s₁).1).failures = [] := by
    rw [← clean, complete_eq]
  exact Build.build_congr built_eq (agrees_rebuilt r.config.agentRecord built_eq same layout
    (ensure_closed Script.adapter expired built s₁) (log_clean rebuiltClean) heeded)

/-- Running a scripted cycle again on the document it produced, from the
same session, gives the same cycle when the tree converges one node after
another, as `run` converges it, and the first run got past its build and
rebuilt without a failure. The built tree must have distinct node paths,
nodes that nest as their paths do, agent paths in a strict antichain and
beside the children of their nodes, and agents that heed refusals; the
previous document, the queued specs and the states must be normal. -/
theorem run_again (r : Reconciler) (expired : Bool) {root : Script} {desired D : Document} {s s₁ s' : Session}
    {built : Tree Script} {c : Cycle Script}
    (built_eq : build Script.adapter root desired D r.config.agentQueueCapacity s = (.ok built, s₁))
    (distinct : (built.nodes.map Tree.path).Nodup) (nested : built.Nested) (apart : AgentsApart built)
    (beside : ∀ x ∈ built.nodes, ∀ ch ∈ x.queue.changes, ∀ seg ∈ heads x, Apart ch.path (x.path ++ [seg]))
    (heeded : ∀ x ∈ built.nodes, ∀ a ∈ x.adapter.agents, a.ignoreErrors = false)
    (specs : ∀ x ∈ built.nodes, ∀ ch ∈ x.queue.changes, ch.spec.Normal) (normal : D.Normal)
    (first : r.run Script.adapter expired root desired D s = (.ok c, s'))
    (states : ∀ x ∈ c.tree.nodes, ∀ st doc, x.state = some st → st.encode = .ok doc → doc.Normal)
    (clean : c.rebuildFailures = []) :
    r.run Script.adapter expired root desired c.document s = (.ok c, s') := by
  obtain ⟨rfl, rfl⟩ : c = (r.complete Script.adapter expired built D s₁).1 ∧
      s' = (r.complete Script.adapter expired built D s₁).2 := by
    rw [run_of_build r expired built_eq] at first
    simp only [Prod.mk.injEq, Except.ok.injEq] at first
    exact ⟨first.1.symm, first.2.symm⟩
  have layout := layout_converged built_eq expired distinct nested apart beside
  have inputs := normalWrites_converged built_eq expired s₁ normal specs fun x hx st doc state encoded => by
    obtain ⟨y, hy, held⟩ := state_of_fold r.config.agentRecord D hx
    exact states y hy st doc (held.trans state) encoded
  rw [run_of_build r expired (build_again r expired built_eq distinct nested apart beside heeded clean),
    complete_again r Script.adapter expired built D s₁ layout inputs normal clean]

end Reconciler

end Reconcile
