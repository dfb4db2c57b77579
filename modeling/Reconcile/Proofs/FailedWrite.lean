import Reconcile.Proofs.RebuildAgain

/-!
# What a failed write leaves behind

A node holding a state writes its entry in stages: it encodes and shapes its
state, takes its children's entries out of the state in the document, writes
its agent records into the entries it collected, and materializes the fresh
entry at its path. Only the takes change the document before the last stage.

In a normal document the takes change something only when the node's
position holds a mapping, and then the fresh entry can always be
materialized there. So a failed entry write leaves the document as it was,
unless it failed while writing its agent records: then the document is the
one its takes left, with the children's entries gone (`writeNode_failed`).

A node without a state writes its agent records one at a time, straight into
the document. A record that cannot be written leaves the document as it was,
so the others are written as if it had not been attempted
(`writeRecords_skip`).
-/

namespace Reconcile

namespace Rebuild

open Document

variable {α : Type}

/-! ## Takes at a position holding no mapping -/

/-- A take along a route to a position of a normal document that holds no
mapping leaves the document as it is, and takes nothing out. -/
theorem walk_take_unmapped (seg : String) :
    ∀ (R : Route) {d : Document}, d.Normal → (∀ F, d.valueAt (R.map Hop.key) ≠ some (.object F)) →
      (walk .strict (fun node => .ok (removeStateEntry seg node)) R d).1 = d ∧
        ∀ x, (walk .strict (fun node => .ok (removeStateEntry seg node)) R d).2 = .ok (some x) → x = none
  | [], d, _, unmapped => by
    cases d with
    | object F => exact absurd rfl (unmapped F)
    | _ => simp [walk, walked, removeStateEntry]
  | hop :: rest, d, normal, unmapped => by
    cases hd : d.entries? with
    | none => simp [walk_stop hd]
    | some fields =>
      cases hc : Walk.strict.child? fields hop.key with
      | none => simp [walk_absent hd hc]
      | some c =>
        have found : Keyed.get? hop.key fields = some c := (Option.filter_eq_some_iff.mp hc).1
        have mapping : d = .object fields := by
          cases d <;> simp only [entries?, Option.some.injEq, reduceCtorEq] at hd
          · subst hd
            simp at found
          · rw [hd]
        subst mapping
        have inner := walk_take_unmapped seg rest (normal.get? found) fun F at_ =>
          unmapped F (by simp [found, at_])
        rw [walk_into hd hc]
        split
        · rw [inner.1, Keyed.insert_of_get? normal.sorted found]
          exact ⟨rfl, inner.2⟩
        · exact ⟨rfl, inner.2⟩

/-- Takes at a node whose position in a normal document holds no mapping
leave the document as it is. -/
theorem takeChildren_unmapped {n : Tree α} (own : Mapping) {out : Document} (normal : out.Normal)
    (unmapped : ∀ F, out.valueAt (entryKeys n) ≠ some (.object F)) : (takeChildren n own out).2 = out := by
  rw [takeChildren_eq]
  suffices keeps : ∀ (cs : List (String × Tree α)) acc, (cs.foldl (takeStep n) (acc, out)).2 = out from
    keeps n.children _
  intro cs
  induction cs with
  | nil => exact fun _ => rfl
  | cons c cs ih =>
    intro acc
    obtain ⟨acc', step⟩ : ∃ acc', takeStep n (acc, out) c = (acc', out) := by
      cases acc with
      | error e => exact ⟨_, rfl⟩
      | ok entries =>
        cases head : c.2.relative.head? with
        | none => exact ⟨.ok entries, by simp [takeStep, head]⟩
        | some seg =>
          have kept := walk_take_unmapped seg (Route.ofPath .current n.path) normal
            (by rwa [Route.ofPath, below_keys])
          rw [takeStep_walk n entries out head, takeWalk, kept.1]
          exact ⟨_, rfl⟩
    rw [List.foldl_cons, step]
    exact ih acc'

/-! ## The stages after the takes -/

/-- An entry write that failed after its takes leaves the document as the
takes left it. -/
theorem afterTakes_failed {n : Tree α} {tags : RecordTags} {changes : List AgentChange}
    {taken : Except RebuildError Mapping} {X : Document} {e : RebuildError}
    (failed : (afterTakes n tags changes taken X).2 = some e) : (afterTakes n tags changes taken X).1 = X := by
  cases taken with
  | error e' => rfl
  | ok entries =>
    simp only [afterTakes] at failed ⊢
    split at failed
    · rfl
    · split at failed
      · cases failed
      · rfl

/-- Where the node's position holds a mapping, the fresh entry is always
materialized: a write that still fails failed writing its agent records. -/
theorem afterTakes_mapping {n : Tree α} {tags : RecordTags} {changes : List AgentChange} {entries : Mapping}
    {X : Document} {F : Mapping} (at_ : X.valueAt (entryKeys n) = some (.object F)) {e : RebuildError}
    (failed : (afterTakes n tags changes (.ok entries) X).2 = some e) :
    changes ≠ [] ∧ applyAgentChanges n tags entries changes = .error e := by
  have placed : ∀ entries', X.materialize n.path .current (freshEntry n entries') =
      .ok (freshEntry n entries' F, X.setAt (entryKeys n) (.object (freshEntry n entries' F))) :=
    fun entries' => materialize_found at_
  by_cases empty : changes.isEmpty = true
  · simp only [afterTakes, if_pos empty, placed] at failed
    cases failed
  · simp only [afterTakes, if_neg empty] at failed
    cases agents : applyAgentChanges n tags entries changes with
    | error e' =>
      rw [agents] at failed
      cases failed
      exact ⟨fun none => empty (List.isEmpty_iff.mpr none), rfl⟩
    | ok entries' =>
      simp only [agents, placed] at failed
      cases failed

/-! ## A failed entry write -/

/-- A failed entry write into a normal document leaves it as it was, unless
it failed writing the node's agent records into the entries its takes
collected: then it leaves the document as the takes left it. -/
theorem writeNode_failed {n : Tree α} {tags : RecordTags} {changes : List AgentChange} {out : Document}
    (normal : out.Normal) {e : RebuildError} (failed : (writeNode n tags changes out).2 = some e) :
    (writeNode n tags changes out).1 = out ∨
      ∃ st doc own entries, n.state = some st ∧ st.encode = .ok doc ∧ stateEntries n doc = .ok own ∧
        takeChildren n own out = (.ok entries, (writeNode n tags changes out).1) ∧
        changes ≠ [] ∧ applyAgentChanges n tags entries changes = .error e := by
  cases state : n.state with
  | none => simp [writeNode, state] at failed
  | some st =>
    cases encoded : st.encode with
    | error e' => exact .inl (by simp [writeNode, state, encoded])
    | ok doc =>
      cases shaped : stateEntries n doc with
      | error e' => exact .inl (by simp [writeNode, state, encoded, shaped])
      | ok own =>
        rw [writeNode_afterTakes state encoded shaped] at failed ⊢
        by_cases mapped : ∃ F, out.valueAt (entryKeys n) = some (.object F)
        · -- the takes went through and left a mapping at the node's position
          obtain ⟨F, at_⟩ := mapped
          obtain ⟨entries, F', took, -⟩ := takeChildren_found own normal at_
          rw [took] at failed ⊢
          have at' : (out.setAt (entryKeys n) (.object F')).valueAt (entryKeys n) = some (.object F') :=
            valueAt_setAt at_ _
          obtain ⟨nonempty, agents⟩ := afterTakes_mapping at' failed
          refine .inr ⟨st, doc, own, entries, rfl, encoded, shaped, ?_, nonempty, agents⟩
          rw [afterTakes_failed failed]
          exact took
        · have kept := takeChildren_unmapped own normal fun F at_ => mapped ⟨F, at_⟩
          exact .inl (by rw [afterTakes_failed failed, kept])

/-! ## A failed agent record -/

theorem writeRecords_append (n : Tree α) (tags : RecordTags) (pre post : List AgentChange) (out : Document) :
    writeRecords n tags (pre ++ post) out =
      ((writeRecords n tags post (writeRecords n tags pre out).1).1,
        (writeRecords n tags pre out).2 ++ (writeRecords n tags post (writeRecords n tags pre out).1).2) := by
  simp only [writeRecords_eq_run, List.map_append, run_append, List.filterMap_append]

/-- An agent record that cannot be written leaves the document as it was:
the records after it are written as if it had not been attempted, and its
failure is reported in its place. -/
theorem writeRecords_skip {n : Tree α} {tags : RecordTags} {pre post : List AgentChange} {c : AgentChange}
    {out : Document} {e : RebuildError}
    (refused : writeAgentRecord n tags (writeRecords n tags pre out).1 c = .error e) :
    writeRecords n tags (pre ++ c :: post) out =
      ((writeRecords n tags (pre ++ post) out).1,
        (writeRecords n tags pre out).2 ++ e :: (writeRecords n tags post (writeRecords n tags pre out).1).2) := by
  have alone : writeRecords n tags [c] (writeRecords n tags pre out).1 = ((writeRecords n tags pre out).1, [e]) := by
    generalize (writeRecords n tags pre out).1 = X at refused ⊢
    simp [writeRecords, refused]
  rw [writeRecords_append n tags pre (c :: post), ← List.singleton_append, writeRecords_append n tags [c] post, alone,
    writeRecords_append n tags pre post]
  simp

/-! ## The writes of one node -/

/-- The writes a node makes for its queued changes, when one fails. An entry
write into a normal document leaves it as it was, unless it failed writing
the agent records into the entries it took out of its state for its
children: then the document is left as the takes left it. A record written
straight into the document leaves it as it was, and the records after it are
written as if it had not been attempted. -/
theorem failed_write (tags : RecordTags) (n : Tree α) (changes : List AgentChange) {out : Document}
    (normal : out.Normal) :
    (∀ e, (writeNode n tags changes out).2 = some e →
      (writeNode n tags changes out).1 = out ∨
        ∃ st doc own entries, n.state = some st ∧ st.encode = .ok doc ∧ stateEntries n doc = .ok own ∧
          takeChildren n own out = (.ok entries, (writeNode n tags changes out).1) ∧
          changes ≠ [] ∧ applyAgentChanges n tags entries changes = .error e) ∧
    ∀ pre c post e, changes = pre ++ c :: post → writeAgentRecord n tags (writeRecords n tags pre out).1 c = .error e →
      writeRecords n tags changes out =
        ((writeRecords n tags (pre ++ post) out).1,
          (writeRecords n tags pre out).2 ++ e :: (writeRecords n tags post (writeRecords n tags pre out).1).2) := by
  refine ⟨fun e failed => writeNode_failed normal failed, ?_⟩
  rintro pre c post e rfl refused
  exact writeRecords_skip refused

/-- A root holding the state `x: 5` with a child `c`, declaring an agent at
`x`. -/
def numberStateRoot : Tree Unit where
  path := []
  relative := []
  identity := "root"
  adapter := ()
  kind := "test/root"
  version := "v1"
  state := some (.document (.object [("x", Document.nat 5)]))
  queue := { capacity := 4, changes := [⟨["x"], .object [("v", Document.nat 1)], Document.empty⟩] }
  children := [("c",
    { path := ["c"]
      relative := ["c"]
      identity := "c"
      adapter := ()
      kind := "test/c"
      version := "v1"
      queue := AgentQueue.create 4 })]

/-- The root's record at `x` cannot be written through the number `5`, so
its entry write fails, after it took its child's entry `c`, with its key
`extra`, out of the document. -/
theorem failed_write_takes_child :
    ∃ e, (writeNode numberStateRoot {} numberStateRoot.queue.changes
        (.object [("current", .object [("state", .object [("c", .object [("extra", Document.nat 1)])])])])).2 = some e ∧
      (writeNode numberStateRoot {} numberStateRoot.queue.changes
        (.object [("current", .object [("state", .object [("c", .object [("extra", Document.nat 1)])])])])).1 =
          .object [("current", .object [("state", .object [])])] ∧
      ∃ st doc own entries, numberStateRoot.state = some st ∧ st.encode = .ok doc ∧
        stateEntries numberStateRoot doc = .ok own ∧
        takeChildren numberStateRoot own
          (.object [("current", .object [("state", .object [("c", .object [("extra", Document.nat 1)])])])]) =
          (.ok entries, .object [("current", .object [("state", .object [])])]) ∧
        applyAgentChanges numberStateRoot {} entries numberStateRoot.queue.changes = .error e := by
  have normal : Normal (.object [("current", .object [("state", .object [("c", .object [("extra", Document.nat 1)])])])]) :=
    .singleton (.singleton (.singleton (.singleton (.number _))))
  obtain ⟨e, failed⟩ : ∃ e, (writeNode numberStateRoot {} numberStateRoot.queue.changes
      (.object [("current", .object [("state", .object [("c", .object [("extra", Document.nat 1)])])])])).2 = some e :=
    Option.isSome_iff_exists.mp rfl
  have left : (writeNode numberStateRoot {} numberStateRoot.queue.changes
      (.object [("current", .object [("state", .object [("c", .object [("extra", Document.nat 1)])])])])).1 =
        .object [("current", .object [("state", .object [])])] := rfl
  rcases (failed_write {} numberStateRoot numberStateRoot.queue.changes normal).1 e failed with
    same | ⟨st, doc, own, entries, state, encoded, shaped, took, -, agents⟩
  · rw [left] at same
    cases same
  · rw [left] at took
    exact ⟨e, failed, left, st, doc, own, entries, state, encoded, shaped, took, agents⟩

end Rebuild

end Reconcile
