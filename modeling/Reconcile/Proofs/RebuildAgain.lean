import Reconcile.Proofs.Normal
import Reconcile.Proofs.AgentChanges

/-!
# Rebuilding into a rebuilt document

A rebuild that met no failure is a fixed point of itself: rebuilding the same
converged tree into the document it produced writes every entry and every
record back where it stands, so the document stays as it is and no write
fails (`rebuild_rebuilt`). The tree must be laid out so that its writes do
not disturb one another (`Layout`): node paths distinct, nodes nesting as
their paths do, agent paths in a strict antichain and each beside the
children of its node. The documents must be normal, as the program's are,
and the writes keep them so (`run_normal`).

Every write of the second rebuild finds at its position what it wrote the
first time. An entry write takes its children's entries out of its own
entry, which collects the entries the first write collected, writes the same
records into them and materializes the same entry (`writeNode_again`). A
record write materializes the record that stands at its path.
-/

namespace Reconcile

namespace Rebuild

open Document

variable {α : Type}

/-! ## The writes keep documents normal -/

section Normal

variable {n : Tree α} {tags : RecordTags}

theorem mappingAt_normal {location : String} {d : Document} {m : Mapping} (normal : d.Normal)
    (h : mappingAt location d = .ok m) : Normal (.object m) := by
  cases d <;> simp [mappingAt] at h
  · subst h
    exact Normal.empty
  · subst h
    exact normal

/-- Materializing with a change that keeps mappings normal keeps a normal
document normal. -/
theorem materialize_normal {f : Mapping → Mapping} {d d' : Document} {path : List String} {mode : Mode}
    {m : Mapping} (normal : d.Normal) (keeps : ∀ m, Normal (.object m) → Normal (.object (f m)))
    (h : d.materialize path mode f = .ok (m, d')) : d'.Normal := by
  have step : ∀ {v : Document} {a : Mapping} {v' : Document}, v.Normal →
      (mappingAt (Path.format path) v).map (fun m => (f m, Document.object (f m))) = .ok (a, v') →
        v'.Normal ∧ True := by
    intro v a v' hv made
    cases found : mappingAt (Path.format path) v with
    | error e => simp [found, Except.map] at made
    | ok m =>
      simp only [found, Except.map, Except.ok.injEq, Prod.mk.injEq] at made
      obtain ⟨-, rfl⟩ := made
      exact ⟨keeps m (mappingAt_normal hv found), trivial⟩
  have walked := (Normal.walk (k := .creating) step (Route.ofPath mode path) normal).1
  rw [walk_creating] at walked
  unfold materialize at h
  rw [h] at walked
  exact walked

theorem record_normal (tags : RecordTags) {spec observed : Document} (hs : spec.Normal) (ho : observed.Normal) :
    Normal (.object (tags.record spec observed)) := by
  refine .object ?_ fun e mem => ?_
  · simp only [Keyed.Sorted, RecordTags.record, List.pairwise_cons, List.mem_cons, forall_eq_or_imp,
      List.not_mem_nil, IsEmpty.forall_iff, implies_true, and_true, List.Pairwise.nil]
    exact ⟨⟨by decide +kernel, by decide +kernel, by decide +kernel⟩, ⟨by decide +kernel, by decide +kernel⟩,
      by decide +kernel⟩
  · simp only [RecordTags.record, List.mem_cons, List.not_mem_nil, or_false] at mem
    rcases mem with rfl | rfl | rfl | rfl
    exacts [ho, .string _, hs, .string _]

theorem currentSection_normal (kind version : String) {entries : Mapping} (h : Normal (.object entries)) :
    (currentSection kind version entries).Normal := by
  refine .object ?_ fun e mem => ?_
  · simp only [Keyed.Sorted, List.pairwise_cons, List.mem_cons, forall_eq_or_imp, List.not_mem_nil,
      IsEmpty.forall_iff, implies_true, and_true, List.Pairwise.nil]
    exact ⟨⟨by decide +kernel, by decide +kernel⟩, by decide +kernel⟩
  · simp only [List.mem_cons, List.not_mem_nil, or_false] at mem
    rcases mem with rfl | rfl | rfl
    exacts [.string _, h, .string _]

theorem freshEntry_normal {entries m : Mapping} (he : Normal (.object entries)) (hm : Normal (.object m)) :
    Normal (.object (freshEntry n entries m)) :=
  ((hm.insert (.string _)).insert (.string _)).insert (currentSection_normal _ _ he)

theorem stateEntries_normal {doc : Document} {own : Mapping} (normal : doc.Normal)
    (h : stateEntries n doc = .ok own) : Normal (.object own) := by
  cases doc <;> simp [stateEntries] at h
  · subst h
    exact Normal.empty
  · subst h
    exact normal

/-- Taking an entry out of a normal node document leaves it normal, and the
entry taken is normal. -/
theorem removeStateEntry_normal (seg : String) {node : Document} (normal : node.Normal) :
    (removeStateEntry seg node).2.Normal ∧ ∀ e, (removeStateEntry seg node).1 = some e → e.Normal := by
  unfold removeStateEntry
  split
  · rename_i fields
    split
    · rename_i cur current
      split
      · rename_i st state
        have hcur : Normal (.object cur) := normal.get? current
        have hst : Normal (.object st) := hcur.get? state
        split
        · rename_i entry found
          refine ⟨normal.insert (hcur.insert (hst.erase seg)), fun e taken => ?_⟩
          cases taken
          exact hst.get? found
        · exact ⟨normal, fun e taken => by cases taken⟩
      · exact ⟨normal, fun e taken => by cases taken⟩
    · exact ⟨normal, fun e taken => by cases taken⟩
  · exact ⟨normal, fun e taken => by cases taken⟩

/-- What a take keeps: a normal document and normal entries. -/
def TakeNormal (acc : Except RebuildError Mapping × Document) : Prop :=
  acc.2.Normal ∧ ∀ entries, acc.1 = .ok entries → Normal (.object entries)

theorem removeStep_normal (seg : String) {v : Document} {a : Option Document} {v' : Document} (hv : v.Normal)
    (made : (Except.ok (removeStateEntry seg v) : Except NavigateError _) = .ok (a, v')) :
    v'.Normal ∧ ∀ e, a = some e → e.Normal := by
  have kept := removeStateEntry_normal seg hv
  cases removed : removeStateEntry seg v with
  | mk taken left =>
    rw [removed] at kept made
    cases made
    exact kept

theorem takeStep_normal (child : String × Tree α) {acc : Except RebuildError Mapping × Document}
    (h : TakeNormal acc) : TakeNormal (takeStep n acc child) := by
  obtain ⟨_ | entries, out⟩ := acc
  · exact h
  obtain ⟨normal, hEntries⟩ := h
  have he := hEntries entries rfl
  cases head : child.2.relative.head? with
  | none =>
    simp only [takeStep, head]
    exact ⟨normal, hEntries⟩
  | some seg =>
    rw [takeStep_walk n entries out head]
    have walked := Normal.walk (k := .strict) (removeStep_normal seg) (Route.ofPath .current n.path) normal
    refine ⟨walked.1, fun entries' took => ?_⟩
    unfold tookEntry takeWalk at took
    split at took
    · rename_i taken answer
      cases took
      cases taken with
      | none => exact he
      | some taken =>
        cases taken with
        | none => exact he
        | some e => exact he.insert (walked.2 _ answer e rfl)
    · cases took

theorem takeChildren_normal (own : Mapping) (out : Document) (he : Normal (.object own)) (ho : out.Normal) :
    TakeNormal (takeChildren n own out) := by
  rw [takeChildren_eq]
  suffices keeps : ∀ (cs : List (String × Tree α)) acc,
      TakeNormal acc → TakeNormal (cs.foldl (takeStep n) acc) from
    keeps n.children _ ⟨ho, fun e same => by cases same; exact he⟩
  intro cs
  induction cs with
  | nil => exact fun acc h => h
  | cons c cs ih => exact fun acc h => ih _ (takeStep_normal c h)

theorem recordStep_normal {scratch scratch' : Document} {c : AgentChange} (normal : scratch.Normal)
    (record : c.spec.Normal ∧ c.observed.Normal) (h : recordStep n tags scratch c = .ok scratch') :
    scratch'.Normal := by
  unfold recordStep at h
  split at h
  · cases h
  · split at h
    · rename_i written
      cases h
      exact materialize_normal normal (fun _ _ => record_normal tags record.1 record.2) written
    · cases h

theorem foldlM_normal {changes : List AgentChange} (records : ∀ c ∈ changes, c.spec.Normal ∧ c.observed.Normal) :
    ∀ {scratch scratch' : Document}, scratch.Normal → changes.foldlM (recordStep n tags) scratch = .ok scratch' →
      scratch'.Normal := by
  induction changes with
  | nil =>
    intro scratch scratch' normal h
    cases h
    exact normal
  | cons c cs ih =>
    intro scratch scratch' normal h
    rw [List.foldlM_cons] at h
    cases first : recordStep n tags scratch c with
    | error e =>
      rw [first] at h
      cases h
    | ok middle =>
      rw [first] at h
      exact ih (fun c' mem => records c' (List.mem_cons_of_mem _ mem))
        (recordStep_normal normal (records c List.mem_cons_self) first) h

theorem withAgents_normal {changes : List AgentChange} {entries entries' : Mapping}
    (records : ∀ c ∈ changes, c.spec.Normal ∧ c.observed.Normal) (he : Normal (.object entries))
    (h : (if changes.isEmpty then .ok entries else applyAgentChanges n tags entries changes) = .ok entries') :
    Normal (.object entries') := by
  obtain ⟨-, scratch, folded, -, stateIs⟩ := withAgents_spec h
  have scratchNormal : (scratchOf n entries).Normal :=
    .object (by simp [Keyed.Sorted]) fun e mem => by
      simp only [List.mem_singleton] at mem
      exact mem ▸ currentSection_normal _ _ he
  exact (foldlM_normal records scratchNormal folded).valueAt stateIs

/-- An entry write keeps a normal document normal, given a normal state and
normal records. -/
theorem writeNode_normal {changes : List AgentChange} {out : Document} (normal : out.Normal)
    (state : ∀ st doc, n.state = some st → st.encode = .ok doc → doc.Normal)
    (records : ∀ c ∈ changes, c.spec.Normal ∧ c.observed.Normal) : (writeNode n tags changes out).1.Normal := by
  cases hst : n.state with
  | none => simp [writeNode, hst, normal]
  | some st =>
    cases encoded : st.encode with
    | error e => simp [writeNode, hst, encoded, normal]
    | ok doc =>
      cases entries : stateEntries n doc with
      | error e => simp [writeNode, hst, encoded, entries, normal]
      | ok own =>
        rw [writeNode_afterTakes hst encoded entries]
        obtain ⟨taken, hTaken⟩ := takeChildren_normal own out
          (stateEntries_normal (state st doc hst encoded) entries) normal
        generalize takeChildren n own out = acc at taken hTaken
        obtain ⟨_ | entries₁, out₁⟩ := acc
        · exact taken
        dsimp only at taken hTaken ⊢
        generalize agents : (if changes.isEmpty then .ok entries₁ else applyAgentChanges n tags entries₁ changes) =
          withAgents
        cases withAgents with
        | error e =>
          simp only [afterTakes]
          rw [agents]
          exact taken
        | ok entries₂ =>
          cases written : out₁.materialize n.path .current (freshEntry n entries₂) with
          | error e =>
            simp only [afterTakes]
            rw [agents]
            simp only [written]
            exact taken
          | ok r =>
            simp only [afterTakes]
            rw [agents]
            simp only [written]
            exact materialize_normal taken
              (fun m hm => freshEntry_normal (withAgents_normal records (hTaken entries₁ rfl) agents) hm) written

theorem writeAgentRecord_normal {c : AgentChange} {out out' : Document} (normal : out.Normal)
    (record : c.spec.Normal ∧ c.observed.Normal) (h : writeAgentRecord n tags out c = .ok out') : out'.Normal := by
  unfold writeAgentRecord at h
  split at h
  · cases h
  · split at h
    · rename_i written
      cases h
      exact materialize_normal normal (fun _ _ => record_normal tags record.1 record.2) written
    · cases h

/-- What the writes of a tree put into documents is normal: the states its
nodes hold encode to normal documents, and its agent changes carry normal
specs and sections. -/
structure NormalWrites (t : Tree α) : Prop where
  states : ∀ x ∈ t.nodes, ∀ st doc, x.state = some st → st.encode = .ok doc → doc.Normal
  records : ∀ x ∈ t.nodes, ∀ c ∈ x.queue.changes, c.spec.Normal ∧ c.observed.Normal

/-- Writes of nodes of a tree whose states and records are normal keep a
normal document normal. -/
theorem run_normal {t : Tree α} (inputs : NormalWrites t) {ws : List (Write α)}
    (inTree : ∀ w ∈ ws, ∃ m ∈ t.nodes, w ∈ writesOf m) {D : Document} (normal : D.Normal) :
    (run tags ws D).1.Normal := by
  refine run_invariant tags (I := Document.Normal) (Q := fun _ => True) _ (fun w wmem out hout _ => ?_) D normal
    fun _ _ => trivial
  obtain ⟨m, mTree, wmem'⟩ := inTree w wmem
  unfold writesOf at wmem'
  split at wmem'
  · obtain ⟨c, cmem, rfl⟩ := List.mem_map.mp wmem'
    simp only [Write.perform]
    split
    · rename_i out' written
      exact writeAgentRecord_normal hout (inputs.records m mTree c cmem) written
    · exact hout
  · rw [List.mem_singleton] at wmem'
    subst wmem'
    exact writeNode_normal hout (inputs.states m mTree) (inputs.records m mTree)

theorem writes_inTree (t : Tree α) : ∀ w ∈ writes t, ∃ m ∈ t.nodes, w ∈ writesOf m := by
  intro w wmem
  obtain ⟨m, mmem, wmem'⟩ := List.mem_flatMap.mp wmem
  exact ⟨m, Tree.mem_postorder.mp mmem, wmem'⟩

/-- A rebuild of a tree whose states and records are normal into a normal
document gives a normal document. -/
theorem rebuild_normal (tags : RecordTags) {t : Tree α} (inputs : NormalWrites t) {D : Document} (normal : D.Normal) :
    (rebuild tags D t).document.Normal := by
  rw [(rebuild_eq_run tags D t).1]
  exact run_normal inputs (writes_inTree t) normal

end Normal

/-! ## An entry written again where it stands -/

section Again

variable {n : Tree α} {tags : RecordTags}

theorem freshEntry_insert_current (n : Tree α) (entries : Mapping) (C : Document) (m : Mapping) :
    freshEntry n entries (Keyed.insert "current" C m) = freshEntry n entries m := by
  unfold freshEntry
  rw [Keyed.insert_comm (show "kind" ≠ "current" by decide),
    Keyed.insert_comm (show "version" ≠ "current" by decide), Keyed.insert_insert]

theorem freshEntry_freshEntry (n : Tree α) (entries m : Mapping) :
    freshEntry n entries (freshEntry n entries m) = freshEntry n entries m := by
  have inner : freshEntry n entries m = Keyed.insert "current" (currentSection n.kind n.version entries)
      (Keyed.insert "version" (.string n.version) (Keyed.insert "kind" (.string n.kind) m)) := rfl
  rw [inner, freshEntry_insert_current]
  unfold freshEntry
  rw [Keyed.insert_comm (show "kind" ≠ "version" by decide), Keyed.insert_insert, Keyed.insert_insert]

theorem freshEntry_state (n : Tree α) (entries m : Mapping) (seg : String) :
    (Document.object (freshEntry n entries m)).valueAt ["current", "state", seg] = Keyed.get? seg entries := by
  simp [freshEntry, currentSection, Keyed.get?_cons, valueAt_singleton, Document.get?]

/-- Taking an entry out of a node document changes at most its `current`
key. -/
theorem removeStateEntry_object (seg : String) (F : Mapping) :
    (removeStateEntry seg (.object F)).2 = .object F ∨
      ∃ C, (removeStateEntry seg (.object F)).2 = .object (Keyed.insert "current" C F) := by
  rcases current : Keyed.get? "current" F with _ | cur
  · exact .inl (by simp [removeStateEntry, current])
  · cases cur
    case object cur =>
      rcases state : Keyed.get? "state" cur with _ | st
      · exact .inl (by simp [removeStateEntry, current, state])
      · cases st
        case object st =>
          rcases entry : Keyed.get? seg st with _ | e
          · exact .inl (by simp [removeStateEntry, current, state, entry])
          · exact .inr ⟨.object (Keyed.insert "state" (.object (Keyed.erase seg st)) cur),
              by simp [removeStateEntry, current, state, entry]⟩
        all_goals exact .inl (by simp [removeStateEntry, current, state])
    all_goals exact .inl (by simp [removeStateEntry, current])

theorem takeEntry_found {out v : Document} {path : List String} (at_ : out.valueAt (Mode.current.keysOf path) = some v)
    (notNull : v.isNull = false) (seg : String) :
    takeEntry out path seg =
      .ok ((removeStateEntry seg v).1, out.setAt (Mode.current.keysOf path) (removeStateEntry seg v).2) := by
  unfold takeEntry
  rw [modifyAt_found at_ notNull]

/-- What the takes leave of a node's entry: the entry with at most its
`current` key changed. -/
def TakenFrom (n : Tree α) (X : Document) (F : Mapping) (acc : Except RebuildError Mapping × Document) : Prop :=
  ∃ entries F', acc = (.ok entries, X.setAt (entryKeys n) (.object F')) ∧
    (F' = F ∨ ∃ C, F' = Keyed.insert "current" C F)

theorem takeStep_found {X : Document} {F : Mapping} (at_ : X.valueAt (entryKeys n) = some (.object F))
    (child : String × Tree α) {acc : Except RebuildError Mapping × Document} (h : TakenFrom n X F acc) :
    TakenFrom n X F (takeStep n acc child) := by
  obtain ⟨entries, F', rfl, shape⟩ := h
  cases head : child.2.relative.head? with
  | none =>
    simp only [takeStep, head]
    exact ⟨entries, F', rfl, shape⟩
  | some seg =>
    have found : (X.setAt (entryKeys n) (.object F')).valueAt (Mode.current.keysOf n.path) = some (.object F') :=
      valueAt_setAt at_ _
    have took : takeEntry (X.setAt (entryKeys n) (.object F')) n.path seg =
        .ok ((removeStateEntry seg (.object F')).1,
          (X.setAt (entryKeys n) (.object F')).setAt (entryKeys n) (removeStateEntry seg (.object F')).2) :=
      takeEntry_found found rfl seg
    rw [setAt_setAt] at took
    -- the entry keeps the shape: at most `current` changes once more
    obtain ⟨F'', left, shape'⟩ : ∃ F'', (removeStateEntry seg (.object F')).2 = .object F'' ∧
        (F'' = F ∨ ∃ C, F'' = Keyed.insert "current" C F) := by
      rcases removeStateEntry_object seg F' with same | ⟨C', changed⟩
      · exact ⟨F', same, shape⟩
      · refine ⟨_, changed, .inr ?_⟩
        rcases shape with rfl | ⟨C, rfl⟩
        · exact ⟨C', rfl⟩
        · exact ⟨C', Keyed.insert_insert _ _ _ _⟩
    rw [left] at took
    simp only [takeStep, head, took]
    cases (removeStateEntry seg (.object F')).1 with
    | none => exact ⟨entries, F'', rfl, shape'⟩
    | some entry => exact ⟨_, F'', rfl, shape'⟩

/-- Taking the children's entries out of a node document standing at the
node's position leaves the document with at most the entry's `current` key
changed. -/
theorem takeChildren_found (own : Mapping) {X : Document} (normal : X.Normal) {F : Mapping}
    (at_ : X.valueAt (entryKeys n) = some (.object F)) : TakenFrom n X F (takeChildren n own X) := by
  rw [takeChildren_eq]
  suffices keeps : ∀ (cs : List (String × Tree α)) acc, TakenFrom n X F acc →
      TakenFrom n X F (cs.foldl (takeStep n) acc) from
    keeps n.children _ ⟨own, F, by rw [setAt_self normal at_], .inl rfl⟩
  intro cs
  induction cs with
  | nil => exact fun acc h => h
  | cons c cs ih => exact fun acc h => ih _ (takeStep_found at_ c h)

/-- An entry write into a normal document that holds, at the node's
position, the fresh entry a first write made leaves the document as it is.
The takes collect the entries the first write collected, as long as the
records the node writes lie beside its children. -/
theorem writeNode_again {changes : List AgentChange} {X out₀ out₀' : Document} {st : Payload} {doc : Document}
    {own entries₁ entries₂ m₀ : Mapping} (normal : X.Normal) (state : n.state = some st)
    (encoded : st.encode = .ok doc) (entries : stateEntries n doc = .ok own) (ownNormal : Normal (.object own))
    (took : takeChildren n own out₀ = (.ok entries₁, out₀')) (tookNormal : Normal (.object entries₁))
    (agents : (if changes.isEmpty then .ok entries₁ else applyAgentChanges n tags entries₁ changes) =
      .ok entries₂)
    (kept : ∀ seg ∈ heads n, Keyed.get? seg entries₂ = Keyed.get? seg entries₁)
    (at_ : X.valueAt (entryKeys n) = some (.object (freshEntry n entries₂ m₀))) :
    writeNode n tags changes X = (X, none) := by
  obtain ⟨entries₁', F', again, shape⟩ := takeChildren_found own normal at_
  have againNormal := (takeChildren_normal own X ownNormal normal).2 entries₁' (by rw [again])
  have same : entries₁' = entries₁ := Keyed.Sorted.ext againNormal.sorted tookNormal.sorted fun seg => by
    rw [takeChildren_entries again seg, takeChildren_entries took seg]
    split
    · rename_i head
      have collected : X.valueAt (takenKey n seg) = Keyed.get? seg entries₂ := by
        rw [takenKey, valueAt_append, at_, Option.bind_some, freshEntry_state]
      rw [collected, kept seg head, takeChildren_entries took seg, if_pos head, Option.or_assoc, Option.or_self]
    · rfl
  have written : freshEntry n entries₂ F' = freshEntry n entries₂ m₀ := by
    rcases shape with rfl | ⟨C, rfl⟩
    · exact freshEntry_freshEntry n entries₂ m₀
    · rw [freshEntry_insert_current, freshEntry_freshEntry]
  have at' : X.valueAt (Mode.current.keysOf n.path) = some (.object (freshEntry n entries₂ m₀)) := at_
  rw [writeNode_afterTakes state encoded entries, again, same]
  simp only [afterTakes]
  rw [agents]
  simp only [entryKeys, materialize_found (valueAt_setAt at' _), written, setAt_setAt, setAt_self normal at']

end Again

/-! ## The whole rebuild written again -/

/-- How a tree must be laid out for its rebuild to be a fixed point of
itself: node paths are distinct and the nodes nest as their paths do, no two
queued agent paths lie at or above one another unless they are one change,
and every agent path lies beside the children of its node. -/
structure Layout (t : Tree α) : Prop where
  placed : t.Placed
  distinct : (t.nodes.map Tree.path).Nodup
  nested : t.Nested
  apart : AgentsApart t
  beside : ∀ x ∈ t.nodes, ∀ c ∈ x.queue.changes, ∀ seg ∈ heads x, Apart c.path (x.path ++ [seg])

namespace Layout

variable {t : Tree α} (layout : Layout t)

include layout

theorem above {n : Tree α} (mem : n ∈ t.nodes) : ∀ m ∈ t.nodes, m.path <+: n.path → n ∈ m.nodes :=
  fun m hm pre => layout.nested m hm n mem pre

theorem below {n : Tree α} (mem : n ∈ t.nodes) : ∀ m ∈ t.nodes, n.path <+: m.path → m ∈ n.nodes :=
  fun m hm pre => layout.nested n mem m hm pre

theorem antichain : AgentAntichain t :=
  fun x hx c hc y hy c' hc' pre => congrArg AgentChange.path (layout.apart x hx c hc y hy c' hc' pre).2

theorem ancestor_apart {m x : Tree α} (mTree : m ∈ t.nodes) (ancestor : x ∈ m.nodes) (ne : x ≠ m)
    {c : AgentChange} (cmem : c ∈ m.queue.changes) {p : List String} (inside : x.path <+: p) : Apart c.path p := by
  obtain ⟨seg, rest, head, pathIs⟩ := below_head (Tree.placed_of_mem t layout.placed mTree).1 ancestor ne
  have through : m.path ++ [seg] <+: x.path := ⟨rest, by rw [pathIs]; simp⟩
  exact (layout.beside m mTree c cmem seg head).below List.prefix_rfl (through.trans inside)

end Layout

theorem log_performed (tags : RecordTags) : ∀ (ws : List (Write α)) (out : Document),
    ∀ e ∈ (run tags ws out).2, ∃ out', e.2 = (e.1.perform tags out').2
  | [], _, _, mem => absurd mem List.not_mem_nil
  | w :: ws, out, e, mem => by
    rw [run_cons] at mem
    rcases List.mem_cons.mp mem with rfl | later
    · exact ⟨out, rfl⟩
    · exact log_performed tags ws _ e later

/-- Writes that each leave a document as it is leave it as it is together. -/
theorem run_fixed (tags : RecordTags) {X : Document} :
    ∀ (ws : List (Write α)), (∀ w ∈ ws, w.perform tags X = (X, none)) → run tags ws X = (X, ws.map (·, none))
  | [], _ => rfl
  | w :: ws, fixed => by
    rw [run_cons, fixed w List.mem_cons_self, run_fixed tags ws fun w' mem => fixed w' (List.mem_cons_of_mem _ mem)]
    rfl

theorem exists_split_last {β : Type} {x : β} : ∀ {l : List β}, x ∈ l → ∃ p s, l = p ++ x :: s ∧ x ∉ s
  | y :: l, mem => by
    by_cases later : x ∈ l
    · obtain ⟨p, s, rfl, last⟩ := exists_split_last later
      exact ⟨y :: p, s, rfl, last⟩
    · have here : x = y := (List.mem_cons.mp mem).resolve_right later
      exact ⟨[], l, by rw [here]; rfl, later⟩

/-- The entry a node holding a state wrote survives the whole rebuild: the
rebuilt document holds, at the node's position, the fresh entry made of what
the takes collected and the records added. -/
theorem entry_kept (tags : RecordTags) (D : Document) {t : Tree α} (layout : Layout t)
    (clean : ∀ e ∈ log tags t D, e.2 = none) {n : Tree α} (mem : n ∈ t.nodes) {st : Payload}
    (state : n.state = some st) :
    ∃ (pre : List (Tree α)) (doc : Document) (own entries₁ : Mapping) (out₀' : Document)
      (entries₂ m : Mapping),
      (∀ x ∈ pre, x ∈ t.nodes) ∧ st.encode = .ok doc ∧
      stateEntries n doc = .ok own ∧
      takeChildren n own (run tags (pre.flatMap writesOf) D).1 = (.ok entries₁, out₀') ∧
      (if n.queue.changes.isEmpty then .ok entries₁ else applyAgentChanges n tags entries₁ n.queue.changes) =
        .ok entries₂ ∧
      (rebuild tags D t).document.valueAt (entryKeys n) = some (.object (freshEntry n entries₂ m)) := by
  obtain ⟨pre, post, writesIs, inPre, inPost, -, notBelow⟩ := writes_split layout.distinct mem
  rw [writesOf, state] at writesIs
  dsimp only at writesIs
  have rebuilt := (rebuild_eq_run tags D t).1
  rw [writesIs, run_append, List.singleton_append, run_cons] at rebuilt
  rw [log, writesIs, run_append, List.singleton_append, run_cons] at clean
  have written : writeNode n tags n.queue.changes (run tags (pre.flatMap writesOf) D).1 =
      (((Write.entry n).perform tags (run tags (pre.flatMap writesOf) D).1).1, none) :=
    Prod.ext rfl (clean (.entry n, ((Write.entry n).perform tags (run tags (pre.flatMap writesOf) D).1).2)
      (by simp))
  obtain ⟨doc, own, entries₁, out₀', entries₂, m, encoded, entries, took, agents, materialized⟩ :=
    writeNode_ok state written
  have spec := materialize_spec materialized
  have kept := after_keeps (portable_value _) tags layout.placed (layout.above mem) (layout.below mem)
    List.prefix_rfl (fun m mTree ancestor ne c cmem => .inl (layout.ancestor_apart mTree ancestor (Ne.symm ne) cmem
      List.prefix_rfl)) inPost notBelow spec.target fun m ancestor f fmem => clean (.entry m, f) (by simp [fmem])
  rw [← rebuilt, spec.entries] at kept
  exact ⟨pre, doc, own, entries₁, out₀', entries₂, _, inPre, encoded, entries, took, agents, kept⟩

section Fixed

variable {t : Tree α} (tags : RecordTags) (D : Document) (layout : Layout t) (inputs : NormalWrites t)
  (normal : D.Normal) (clean : ∀ e ∈ log tags t D, e.2 = none)

include layout inputs normal clean

/-- The entry write of a node holding a state, made again into the rebuilt
document, leaves it as it is. -/
theorem perform_entry_again {n : Tree α} (mem : n ∈ t.nodes) {st : Payload} (state : n.state = some st) :
    (Write.entry n).perform tags (rebuild tags D t).document = ((rebuild tags D t).document, none) := by
  obtain ⟨pre, doc, own, entries₁, out₀', entries₂, m, inPre, encoded, entries, took, agents, kept⟩ :=
    entry_kept tags D layout clean mem state
  have ownNormal := stateEntries_normal (inputs.states n mem st doc state encoded) entries
  have before : (run tags (pre.flatMap writesOf) D).1.Normal := run_normal inputs
    (fun w wmem => by
      obtain ⟨m, mmem, wmem'⟩ := List.mem_flatMap.mp wmem
      exact ⟨m, inPre m mmem, wmem'⟩) normal
  have tookNormal := (takeChildren_normal own _ ownNormal before).2 entries₁ (by rw [took])
  exact writeNode_again (rebuild_normal tags inputs normal) state encoded entries ownNormal took tookNormal agents
    (fun seg head => withAgents_get agents fun c cmem => (layout.beside n mem c cmem seg head).2) kept

/-- A record write of a node without a state, made again into the rebuilt
document, leaves it as it is. -/
theorem perform_record_again {m : Tree α} (mem : m ∈ t.nodes) (state : m.state = none) {c : AgentChange}
    (cmem : c ∈ m.queue.changes) :
    (Write.record m c).perform tags (rebuild tags D t).document = ((rebuild tags D t).document, none) := by
  have logged : Write.record m c ∈ (log tags t D).map Prod.fst := by
    rw [log, run_log_writes]
    exact List.mem_flatMap.mpr ⟨m, Tree.mem_postorder.mpr mem, by simp [writesOf, state, cmem]⟩
  obtain ⟨e, emem, isRecord⟩ := List.mem_map.mp logged
  obtain ⟨out, performed⟩ := log_performed tags _ _ e emem
  rw [clean e emem, isRecord] at performed
  obtain ⟨relative, below⟩ : ∃ relative, agentRelative m c = .ok relative := by
    cases written : writeAgentRecord m tags out c with
    | error e => simp [Write.perform, written] at performed
    | ok out' =>
      unfold writeAgentRecord at written
      split at written
      · cases written
      · exact ⟨_, by assumption⟩
  obtain ⟨before, after, split, last⟩ := exists_split_last cmem
  have record := record_of_placed tags D layout.placed layout.distinct layout.antichain mem (layout.above mem)
    (layout.below mem) split (agentRelative_eq_ok.mp below).1
    (fun c' later same => last (by
      have one := (layout.apart m mem c' (by rw [split]; simp [later]) m mem c cmem (same ▸ List.prefix_rfl)).2
      exact one ▸ later))
    (fun x hx c' hc' same => (layout.apart x hx c' hc' m mem c cmem (same ▸ List.prefix_rfl)).1 ▸
      Tree.mem_nodes_self x)
    fun e emem _ => clean e emem
  simp only [Write.perform, writeAgentRecord, below, materialize_found record,
    setAt_self (rebuild_normal tags inputs normal) record]

end Fixed

/-- Rebuilding a tree into the document its rebuild produced, when that
rebuild met no failure, leaves the document as it is and meets no failure.
The tree must be laid out so that its writes do not disturb one another, and
the previous document, the states and the records must be normal. -/
theorem rebuild_rebuilt (tags : RecordTags) (D : Document) {t : Tree α} (layout : Layout t)
    (inputs : NormalWrites t) (normal : D.Normal) (clean : (rebuild tags D t).failures = []) :
    (rebuild tags (rebuild tags D t).document t).document = (rebuild tags D t).document ∧
      (rebuild tags (rebuild tags D t).document t).failures = [] := by
  have clean' := log_clean clean
  have fixed : ∀ w ∈ writes t,
      w.perform tags (rebuild tags D t).document = ((rebuild tags D t).document, none) := by
    intro w wmem
    obtain ⟨m, mTree, wmem'⟩ := writes_inTree t w wmem
    unfold writesOf at wmem'
    split at wmem'
    · rename_i state
      obtain ⟨c, cmem, rfl⟩ := List.mem_map.mp wmem'
      exact perform_record_again tags D layout inputs normal clean' mTree state cmem
    · rename_i st state
      rw [List.mem_singleton.mp wmem']
      exact perform_entry_again tags D layout inputs normal clean' mTree state
  rw [(rebuild_eq_run tags _ t).1, (rebuild_eq_run tags _ t).2, log, run_fixed tags (writes t) fixed]
  simp

end Rebuild

end Reconcile
