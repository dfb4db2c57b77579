import Reconcile.Proofs.Placement
import Reconcile.Tree.Rebuild

/-!
# The rebuild as a run of writes

Folding a tree into the current document makes one write per node holding a
state, its entry, and one write per agent record of a node without a state,
children before parents (`Rebuild.writes`). Carrying these writes out one
after the other gives the rebuilt document, and the rebuild reports exactly
the failures the writes met, in order (`rebuild_eq_run`).

The fold hands each node its children as they came out of the fold, with
drained queues; a node's write reads of its children only the first segment
of their relative paths, which the fold keeps, so the writes can be stated of
the tree as it went in.
-/

namespace Reconcile

namespace Rebuild

variable {α : Type}

/-- One write of the fold: a node's entry, or one agent record of a node
without a state. -/
inductive Write (α : Type) where
  | entry (node : Tree α)
  | record (node : Tree α) (change : AgentChange)

/-- The node a write is made for. -/
def Write.node : Write α → Tree α
  | .entry n => n
  | .record n _ => n

/-- The writes the fold makes for one node. -/
def writesOf (n : Tree α) : List (Write α) :=
  match n.state with
  | none => n.queue.changes.map (.record n)
  | some _ => [.entry n]

/-- The writes the fold makes for a tree, children first. -/
def writes (t : Tree α) : List (Write α) := t.postorder.flatMap writesOf

/-- Carries out one write, answering the new document and the failure it met. -/
def Write.perform (tags : RecordTags) : Write α → Document → Document × Option RebuildError
  | .entry n, out => writeNode n tags n.queue.changes out
  | .record n change, out =>
    match writeAgentRecord n tags out change with
    | .ok out' => (out', none)
    | .error e => (out, some e)

/-- Carries out writes one after the other, answering the last document and
each write with the failure it met. -/
def run (tags : RecordTags) : List (Write α) → Document → Document × List (Write α × Option RebuildError)
  | [], out => (out, [])
  | w :: ws, out =>
    match w.perform tags out with
    | (out', failure) =>
      match run tags ws out' with
      | (last, log) => (last, (w, failure) :: log)

/-- Which write of a tree met which failure, in the order of the fold. -/
def log (tags : RecordTags) (t : Tree α) (current : Document) : List (Write α × Option RebuildError) :=
  (run tags (writes t) current).2

theorem run_nil (tags : RecordTags) (out : Document) : run tags ([] : List (Write α)) out = (out, []) := rfl

theorem run_cons (tags : RecordTags) (w : Write α) (ws : List (Write α)) (out : Document) :
    run tags (w :: ws) out =
      ((run tags ws (w.perform tags out).1).1, (w, (w.perform tags out).2) :: (run tags ws (w.perform tags out).1).2) :=
  rfl

theorem run_append (tags : RecordTags) (ws ws' : List (Write α)) (out : Document) :
    run tags (ws ++ ws') out =
      ((run tags ws' (run tags ws out).1).1, (run tags ws out).2 ++ (run tags ws' (run tags ws out).1).2) := by
  induction ws generalizing out with
  | nil => rfl
  | cons w ws ih => simp only [List.cons_append, run_cons, ih, List.cons_append]

theorem run_log_writes (tags : RecordTags) : ∀ (ws : List (Write α)) (out : Document),
    (run tags ws out).2.map Prod.fst = ws
  | [], _ => rfl
  | w :: ws, out => by
    rw [run_cons, List.map_cons, run_log_writes tags ws]

theorem mem_of_mem_log {tags : RecordTags} {ws : List (Write α)} {out : Document}
    {e : Write α × Option RebuildError} (h : e ∈ (run tags ws out).2) : e.1 ∈ ws := by
  rw [← run_log_writes tags ws out]
  exact List.mem_map_of_mem h

/-- What every write keeps, given what the failure it met says, a run of the
writes keeps. -/
theorem run_invariant (tags : RecordTags) {I : Document → Prop} {Q : Write α × Option RebuildError → Prop} :
    ∀ (ws : List (Write α)), (∀ w ∈ ws, ∀ out, I out → Q (w, (w.perform tags out).2) → I (w.perform tags out).1) →
      ∀ out, I out → (∀ e ∈ (run tags ws out).2, Q e) → I (run tags ws out).1
  | [], _, _, holds, _ => holds
  | w :: ws, step, out, holds, logged => by
    rw [run_cons] at logged ⊢
    have first := step w (by simp) out holds (logged _ (by simp))
    exact run_invariant tags ws (fun w' mem => step w' (List.mem_cons_of_mem _ mem)) _ first
      fun e mem => logged e (List.mem_cons_of_mem _ mem)

theorem writes_eq (t : Tree α) :
    writes t = (Tree.postorderOf t.children).flatMap writesOf ++ writesOf t := by
  simp [writes, Tree.postorder_eq]

/-! ## The fold, node by node -/

/-- Writing the records of a node without a state is running its record
writes. -/
theorem writeRecords_eq_run (tags : RecordTags) (n : Tree α) (changes : List AgentChange) (out : Document) :
    writeRecords n tags changes out =
      ((run tags (changes.map (.record n)) out).1, (run tags (changes.map (.record n)) out).2.filterMap Prod.snd) := by
  -- the failures so far ride along in the accumulator
  suffices ∀ (out : Document) (earlier : List RebuildError),
      changes.foldl (fun acc change =>
        match writeAgentRecord n tags acc.1 change with
        | .ok out' => (out', acc.2)
        | .error e => (acc.1, acc.2 ++ [e])) (out, earlier) =
      ((run tags (changes.map (.record n)) out).1,
        earlier ++ (run tags (changes.map (.record n)) out).2.filterMap Prod.snd) from this out []
  induction changes with
  | nil => simp [run]
  | cons change changes ih =>
    intro out earlier
    simp only [List.foldl_cons, List.map_cons, run_cons, Write.perform]
    cases writeAgentRecord n tags out change with
    | ok out' => simp [ih]
    | error e => simp [ih]

/-- A fold over children that reads each child only through the first segment
of its relative path gives the same answer for children with the same first
segments. -/
theorem foldl_heads {β : Type} (F : β → String × Tree α → β)
    (hF : ∀ acc c c', c.2.relative.head? = c'.2.relative.head? → F acc c = F acc c') :
    ∀ (cs cs' : List (String × Tree α)), cs.map (·.2.relative.head?) = cs'.map (·.2.relative.head?) →
      ∀ init, cs.foldl F init = cs'.foldl F init
  | [], [], _, _ => rfl
  | c :: cs, c' :: cs', same, init => by
    simp only [List.map_cons, List.cons.injEq] at same
    simp only [List.foldl_cons, hF init c c' same.1]
    exact foldl_heads F hF cs cs' same.2 _

/-- A node's write reads of its children only the first segments of their
relative paths, and nothing of its queue. -/
theorem writeNode_children (n : Tree α) (queue : AgentQueue) (children : List (String × Tree α))
    (heads : children.map (·.2.relative.head?) = n.children.map (·.2.relative.head?))
    (tags : RecordTags) (changes : List AgentChange) (out : Document) :
    writeNode { n with queue, children } tags changes out = writeNode n tags changes out := by
  have take : ∀ entries out, takeChildren { n with queue, children } entries out = takeChildren n entries out := by
    intro entries out
    unfold takeChildren
    refine foldl_heads _ (fun acc c c' same => ?_) _ _ heads _
    simp only [same]
  unfold writeNode
  simp only [take]
  rfl

theorem writeRecords_children (n : Tree α) (queue : AgentQueue) (children : List (String × Tree α))
    (tags : RecordTags) (changes : List AgentChange) (out : Document) :
    writeRecords { n with queue, children } tags changes out = writeRecords n tags changes out :=
  rfl

theorem filterMap_snd_singleton (w : Write α) (failure : Option RebuildError) :
    [(w, failure)].filterMap Prod.snd = failure.toList := by
  cases failure <;> rfl

mutual
/-- Folding a subtree runs its writes, and keeps the subtree's relative path. -/
theorem fold_eq_run (tags : RecordTags) : (t : Tree α) → (out : Document) →
    (fold tags t out).1.relative = t.relative ∧
      (fold tags t out).2 = ((run tags (writes t) out).1, (run tags (writes t) out).2.filterMap Prod.snd)
  | ⟨path, relative, identity, a, kind, version, state, queue, cs⟩, out => by
    obtain ⟨heads, children⟩ := foldAll_eq_run tags cs out
    unfold fold
    rcases h : foldAll tags cs out with ⟨cs', out', failures⟩
    rw [h] at heads children
    dsimp only at heads
    simp only [Prod.mk.injEq] at children
    obtain ⟨rfl, rfl⟩ := children
    rw [writes_eq, run_append]
    dsimp only [AgentQueue.drain]
    cases state with
    | none =>
      have same : writeRecords ⟨path, relative, identity, a, kind, version, none,
          { queue with changes := [], closed := true }, cs'⟩ tags queue.changes =
          writeRecords ⟨path, relative, identity, a, kind, version, none, queue, cs⟩ tags queue.changes := by
        funext out
        exact writeRecords_children ⟨path, relative, identity, a, kind, version, none, queue, cs⟩ _ cs' tags _ out
      rw [same, writeRecords_eq_run]
      exact ⟨rfl, by simp [writesOf]⟩
    | some st =>
      have same : writeNode ⟨path, relative, identity, a, kind, version, some st,
          { queue with changes := [], closed := true }, cs'⟩ tags queue.changes =
          writeNode ⟨path, relative, identity, a, kind, version, some st, queue, cs⟩ tags queue.changes := by
        funext out
        exact writeNode_children ⟨path, relative, identity, a, kind, version, some st, queue, cs⟩ _ cs' heads tags _ out
      rw [same]
      simp only [writesOf, run_cons, run_nil, Write.perform, List.filterMap_append, filterMap_snd_singleton,
        and_self]
/-- Folding sibling subtrees runs their writes one subtree after the other,
and keeps the first segments of their relative paths. -/
theorem foldAll_eq_run (tags : RecordTags) : (cs : List (String × Tree α)) → (out : Document) →
    (foldAll tags cs out).1.map (·.2.relative.head?) = cs.map (·.2.relative.head?) ∧
      (foldAll tags cs out).2 =
        ((run tags ((Tree.postorderOf cs).flatMap writesOf) out).1,
          (run tags ((Tree.postorderOf cs).flatMap writesOf) out).2.filterMap Prod.snd)
  | [], out => ⟨rfl, rfl⟩
  | (id, c) :: rest, out => by
    obtain ⟨relative, first⟩ := fold_eq_run tags c out
    unfold foldAll
    rcases h : fold tags c out with ⟨c', out', failures⟩
    rw [h] at relative first
    dsimp only at relative
    simp only [Prod.mk.injEq] at first
    obtain ⟨rfl, rfl⟩ := first
    dsimp only
    obtain ⟨heads, later⟩ := foldAll_eq_run tags rest (run tags (writes c) out).1
    rcases h' : foldAll tags rest (run tags (writes c) out).1 with ⟨rest', out'', failures'⟩
    rw [h'] at heads later
    dsimp only at heads
    simp only [Prod.mk.injEq] at later
    obtain ⟨rfl, rfl⟩ := later
    simp only [Tree.postorderOf, List.flatMap_append, run_append, List.map_cons, heads, relative,
      List.filterMap_append, writes, and_self]
end

/-- The rebuilt document is what the writes of the tree leave, and the
failures are those the writes met, in order. -/
theorem rebuild_eq_run (tags : RecordTags) (current : Document) (t : Tree α) :
    (rebuild tags current t).document = (run tags (writes t) current).1 ∧
      (rebuild tags current t).failures = (log tags t current).filterMap Prod.snd := by
  have folded := (fold_eq_run tags t current).2
  unfold rebuild
  rcases h : fold tags t current with ⟨t', doc, failures⟩
  rw [h] at folded
  simp only [Prod.mk.injEq] at folded
  exact folded

theorem log_clean {tags : RecordTags} {current : Document} {t : Tree α}
    (h : (rebuild tags current t).failures = []) : ∀ e ∈ log tags t current, e.2 = none := by
  rw [(rebuild_eq_run tags current t).2, List.filterMap_eq_nil_iff] at h
  exact h

end Rebuild

end Reconcile
