import Reconcile.Proofs.Materialize
import Reconcile.Proofs.RebuildRun

/-!
# Declaring an agent change again

A build that declares an agent change a second time, right after the first,
leaves the rebuilt document as one declaration does
(`rebuild_repeated_declarations`). A record is written by materializing its
path with a change that puts the same record whatever it finds, so a second
write finds the record the first one left and leaves it; where the first
write fails, the second fails alike on the same document. This holds of both
ways records are written: straight into the document for a node without a
state, and into the scratch copy of the fresh state for a node holding one.

Only the document is the same: a node without a state reports a record it
cannot write once for each time it was declared.
-/

namespace Reconcile

variable {α β σ ε : Type}

namespace Rebuild

/-- `long` is `short` with some of its elements repeated in place: each
element of `short` stands in `long` as a block of one or more copies. -/
inductive Repeated : List β → List β → Prop
  | nil : Repeated [] []
  | cons (x : β) {short long : List β} : Repeated short long → Repeated (x :: short) (x :: long)
  | again (x : β) {short long : List β} : Repeated (x :: short) (x :: long) → Repeated (x :: short) (x :: x :: long)

namespace Repeated

theorem refl : ∀ l : List β, Repeated l l
  | [] => .nil
  | x :: l => .cons x (refl l)

theorem twice (before : List β) (x : β) (after : List β) :
    Repeated (before ++ x :: after) (before ++ x :: x :: after) := by
  induction before with
  | nil => exact .again x (.cons x (refl after))
  | cons y before ih => exact .cons y ih

theorem isEmpty_eq {short long : List β} (h : Repeated short long) : long.isEmpty = short.isEmpty := by
  cases h <;> rfl

/-- A fold whose step, taken again with the same element, changes nothing
folds a list with repeats as the list itself. -/
theorem foldl_eq {g : σ → β → σ} (settled : ∀ s x, g (g s x) x = g s x) {short long : List β}
    (h : Repeated short long) (s : σ) : long.foldl g s = short.foldl g s := by
  induction h generalizing s with
  | nil => rfl
  | cons x _ ih => exact ih (g s x)
  | again x _ ih =>
    simp only [List.foldl_cons, settled] at ih ⊢
    exact ih s

/-- A fold that may fail, whose step, once it went through, goes through
again with the same element and changes nothing, folds a list with repeats as
the list itself. -/
theorem foldlM_eq {step : σ → β → Except ε σ} (settled : ∀ s x s', step s x = .ok s' → step s' x = .ok s')
    {short long : List β} (h : Repeated short long) (s : σ) : long.foldlM step s = short.foldlM step s := by
  induction h generalizing s with
  | nil => rfl
  | cons x _ ih =>
    simp only [List.foldlM_cons]
    cases step s x with
    | ok s' => exact ih s'
    | error e => rfl
  | again x _ ih =>
    rw [← ih s]
    simp only [List.foldlM_cons]
    cases first : step s x with
    | ok s' => simp [bind, Except.bind, settled s x s' first]
    | error e => rfl

end Repeated

/-! ## Writing a record twice -/

/-- A record written straight into the document is in place for the second
write. -/
theorem writeAgentRecord_again {n : Tree α} {tags : RecordTags} {out out' : Document} {change : AgentChange}
    (written : writeAgentRecord n tags out change = .ok out') : writeAgentRecord n tags out' change = .ok out' := by
  unfold writeAgentRecord at written ⊢
  cases relative : agentRelative n change with
  | error e => simp [relative] at written
  | ok r =>
    cases made : out.materialize change.path .current (fun _ => tags.record change.spec change.observed) with
    | error e => simp [relative, made] at written
    | ok result =>
      simp only [relative, made, Except.ok.injEq] at written
      subst written
      simp [Document.materialize_again made fun _ => rfl]

theorem perform_record_twice (tags : RecordTags) (n : Tree α) (change : AgentChange) (out : Document) :
    (Write.perform tags (.record n change) (Write.perform tags (.record n change) out).1).1 =
      (Write.perform tags (.record n change) out).1 := by
  cases written : writeAgentRecord n tags out change with
  | ok out' => simp [Write.perform, written, writeAgentRecord_again written]
  | error e => simp [Write.perform, written]

theorem run_records (tags : RecordTags) (n : Tree α) : ∀ (changes : List AgentChange) (out : Document),
    (run tags (changes.map (.record n)) out).1 = changes.foldl (fun out c => (Write.perform tags (.record n c) out).1) out
  | [], _ => rfl
  | c :: changes, out => by rw [List.map_cons, run_cons, List.foldl_cons, run_records tags n changes]

/-- Writing a node's records into its fresh state reads a repeated change as
one. -/
theorem applyAgentChanges_repeated (n : Tree α) (tags : RecordTags) {changes changes' : List AgentChange}
    (h : Repeated changes changes') (entries : Mapping) :
    applyAgentChanges n tags entries changes' = applyAgentChanges n tags entries changes := by
  unfold applyAgentChanges
  dsimp only
  rw [Repeated.foldlM_eq ?settled h]
  case settled =>
    intro scratch change scratch' written
    cases relative : agentRelative n change with
    | error e => simp [relative] at written
    | ok r =>
      cases made : scratch.materialize r .current (fun _ => tags.record change.spec change.observed) with
      | error e => simp [relative, made] at written
      | ok result =>
        simp only [relative, made, Except.ok.injEq] at written
        subst written
        simp [Document.materialize_again made fun _ => rfl]

theorem writeNode_repeated (n : Tree α) (tags : RecordTags) {changes changes' : List AgentChange}
    (h : Repeated changes changes') (out : Document) :
    writeNode n tags changes' out = writeNode n tags changes out := by
  unfold writeNode
  simp only [h.isEmpty_eq, applyAgentChanges_repeated n tags h]

/-- A node whose queue holds repeats, with children of the same first
segments, makes writes that leave the same document. -/
theorem run_writesOf_repeated (tags : RecordTags) (n : Tree α) {changes : List AgentChange}
    (h : Repeated n.queue.changes changes) (children : List (String × Tree α))
    (heads : children.map (·.2.relative.head?) = n.children.map (·.2.relative.head?)) (out : Document) :
    (run tags (writesOf { n with queue := { n.queue with changes }, children }) out).1 = (run tags (writesOf n) out).1 := by
  have entry := fun out =>
    (writeNode_children n { n.queue with changes } children heads tags changes out).trans (writeNode_repeated n tags h out)
  unfold writesOf
  cases state : n.state with
  | none =>
    simp only [run_records]
    exact Repeated.foldl_eq (fun out c => perform_record_twice tags n c out) h out
  | some st =>
    rw [state] at entry
    simp only [run_cons, run_nil, Write.perform, entry]

end Rebuild

namespace Tree

mutual
/-- `t'` is `t` with some changes of its queues repeated in place: every node
keeps all it holds but the changes of its queue, which stand in `t'` as in
`t`, some of them repeated right after themselves. -/
inductive Repeating : Tree α → Tree α → Prop
  | node {path relative : List String} {identity : String} {a : α} {kind version : String}
      {state : Option Payload} {queue : AgentQueue} {changes : List AgentChange} {cs cs' : List (String × Tree α)} :
      Rebuild.Repeated queue.changes changes → RepeatingAll cs cs' →
      Repeating ⟨path, relative, identity, a, kind, version, state, queue, cs⟩
        ⟨path, relative, identity, a, kind, version, state, { queue with changes }, cs'⟩
/-- Sibling subtrees under the same ids, each `Repeating` the other. -/
inductive RepeatingAll : List (String × Tree α) → List (String × Tree α) → Prop
  | nil : RepeatingAll [] []
  | cons {id : String} {c c' : Tree α} {rest rest' : List (String × Tree α)} :
      Repeating c c' → RepeatingAll rest rest' → RepeatingAll ((id, c) :: rest) ((id, c') :: rest')
end

/-- Siblings with repeated changes keep the first segments of their relative
paths. -/
theorem RepeatingAll.heads : ∀ {cs cs' : List (String × Tree α)}, RepeatingAll cs cs' →
    cs'.map (·.2.relative.head?) = cs.map (·.2.relative.head?)
  | [], _, h => by cases h; rfl
  | _ :: _, _, h => by
    cases h with
    | cons first later =>
      cases first
      simp [RepeatingAll.heads later]

end Tree

namespace Rebuild

mutual
theorem run_writes_repeating (tags : RecordTags) : (t : Tree α) → ∀ {t' : Tree α}, t.Repeating t' →
    ∀ out, (run tags (writes t') out).1 = (run tags (writes t) out).1
  | ⟨path, relative, identity, a, kind, version, state, queue, cs⟩, _, .node changes children, out => by
    simp only [writes_eq, run_append]
    rw [run_writesAll_repeating tags cs children out]
    exact run_writesOf_repeated tags ⟨path, relative, identity, a, kind, version, state, queue, cs⟩ changes _
      children.heads _
theorem run_writesAll_repeating (tags : RecordTags) : (cs : List (String × Tree α)) →
    ∀ {cs' : List (String × Tree α)}, Tree.RepeatingAll cs cs' →
    ∀ out, (run tags ((Tree.postorderOf cs').flatMap writesOf) out).1 =
      (run tags ((Tree.postorderOf cs).flatMap writesOf) out).1
  | [], _, .nil, _ => rfl
  | (_, c) :: rest, _, .cons first later, out => by
    have head := run_writes_repeating tags c first out
    unfold writes at head
    simp only [Tree.postorderOf, List.flatMap_append, run_append, head]
    exact run_writesAll_repeating tags rest later _
end

/-- Declaring agent changes again, right after themselves, changes nothing of
the rebuilt document: a tree whose queues hold some of their changes repeated
in place rebuilds any current document into the same document. -/
theorem rebuild_repeated_declarations (tags : RecordTags) (current : Document) {t t' : Tree α}
    (repeating : t.Repeating t') : (rebuild tags current t').document = (rebuild tags current t).document := by
  rw [(rebuild_eq_run tags current t').1, (rebuild_eq_run tags current t).1]
  exact run_writes_repeating tags t repeating current

/-- A root with one node `a` below it, which declared the agent `a/m1` the
given number of times. -/
def declaringBelowRoot (copies : Nat) : Tree Unit :=
  { path := []
    relative := []
    identity := "root"
    adapter := ()
    kind := "root"
    version := "v1"
    queue := AgentQueue.create 8
    children := [("a",
      { path := ["a"]
        relative := ["a"]
        identity := "a"
        adapter := ()
        kind := "a"
        version := "v1"
        queue :=
          { capacity := 8
            changes := List.replicate copies ⟨["a", "m1"], .ofEntries [("v", .nat 1)], .null⟩ } })] }

theorem rebuild_declared_twice :
    (declaringBelowRoot 1).Repeating (declaringBelowRoot 2) ∧
      (rebuild {} .null (declaringBelowRoot 2)).document = (rebuild {} .null (declaringBelowRoot 1)).document := by
  refine ⟨?repeating, rebuild_repeated_declarations {} .null ?repeating⟩
  exact .node (.refl _) (.cons (.node (.twice [] _ []) .nil) .nil)

end Rebuild

end Reconcile
