import Reconcile.Proofs.RebuildWrite
import Reconcile.Script.Adapter

/-!
# Each node's entry after a rebuild

A node holding a state gets its entry at its path written afresh: its `kind`
and `version`, and a `current` section made of exactly its tags and a state
whose keys are the state's own, except the first segments of its children's
relative paths and the segments that agent paths below it take next. Every
other key of the entry stays as the previous document had it (`Entry`).

The writes that come after the node's own, children first, are those of its
ancestors and of nodes apart from it. An ancestor moves the whole entry out
of its state and back into its fresh one, and may write agent records into
it. That keeps an `Entry`, as long as the nodes nest as their paths do and no
agent path lies at or above a node (`rebuild_entry`). The same holds of any
property that reads only what lies at and below a position (`Portable`), such
as an agent record standing there (`after_keeps`).

Without the nesting an entry can be lost (`sibling_entry_lost`).
-/

namespace Reconcile

namespace Rebuild

open Document

variable {α : Type}

/-- What the rebuild leaves as the entry of node `n` at position `P` of a
document: a mapping with the node's `kind` and `version`, a `current` section
holding exactly the node's tags and a state mapping whose entries agree with
`own` at every key that is not `exempt`, and every other key as `previous`
gives it. -/
structure Entry (n : Tree α) (previous : String → Option Document) (own : Mapping) (exempt : String → Prop)
    (d : Document) (P : List String) : Prop where
  isMapping : ∃ fields, d.valueAt P = some (.object fields)
  kind : d.valueAt (P ++ ["kind"]) = some (.string n.kind)
  version : d.valueAt (P ++ ["version"]) = some (.string n.version)
  current : ∃ cur, d.valueAt (P ++ ["current"]) = some (.object cur)
  currentKind : d.valueAt (P ++ ["current", "kind"]) = some (.string n.kind)
  currentVersion : d.valueAt (P ++ ["current", "version"]) = some (.string n.version)
  stateMapping : ∃ S, d.valueAt (P ++ ["current", "state"]) = some (.object S)
  currentOnly : ∀ x, x ≠ "kind" → x ≠ "version" → x ≠ "state" → d.valueAt (P ++ ["current", x]) = none
  stateKeys : ∀ k, ¬ exempt k → d.valueAt (P ++ ["current", "state", k]) = Keyed.get? k own
  others : ∀ k, k ≠ "kind" → k ≠ "version" → k ≠ "current" → d.valueAt (P ++ [k]) = previous k

section Preservation

variable {n : Tree α} {previous : String → Option Document} {own : Mapping} {exempt : String → Prop}

theorem Entry.transfer {d d' : Document} {P P' : List String} (h : Entry n previous own exempt d P)
    (same : ∀ q, d'.valueAt (P' ++ q) = d.valueAt (P ++ q)) : Entry n previous own exempt d' P' := by
  have here : d'.valueAt P' = d.valueAt P := by simpa using same []
  exact ⟨here ▸ h.isMapping, by rw [same]; exact h.kind, by rw [same]; exact h.version,
    by rw [same]; exact h.current, by rw [same]; exact h.currentKind, by rw [same]; exact h.currentVersion,
    by rw [same]; exact h.stateMapping,
    fun x kind version state => by rw [same]; exact h.currentOnly x kind version state,
    fun k free => by rw [same]; exact h.stateKeys k free,
    fun k kind version current => by rw [same]; exact h.others k kind version current⟩

/-- A write at `w` stays clear of an entry at `P`: it lies apart from the
entry, or inside one of its exempt state entries. -/
def Clear (exempt : String → Prop) (P w : List String) : Prop :=
  Apart w P ∨ ∃ seg, exempt seg ∧ P ++ ["current", "state", seg] <+: w

theorem apart_of_clear {ws : List (List String)} {P q : List String} (clear : ∀ w ∈ ws, Clear exempt P w)
    (away : ∀ seg, exempt seg → Apart q ["current", "state", seg]) : ∀ w ∈ ws, Apart (P ++ q) w := by
  intro w mem
  rcases clear w mem with apart | ⟨seg, free, r, rfl⟩
  · simpa using (apart.append [] q).symm
  · simpa using Apart.append_left P ((away seg free).append [] r)

/-- Writes that stay clear of an entry keep it. -/
theorem Entry.touch {d d' : Document} {P : List String} {ws : List (List String)}
    (h : Entry n previous own exempt d P) (touched : Touches ws d d') (clear : ∀ w ∈ ws, Clear exempt P w) :
    Entry n previous own exempt d' P := by
  have fixed : ∀ q, (∀ seg, exempt seg → Apart q ["current", "state", seg]) →
      d'.valueAt (P ++ q) = d.valueAt (P ++ q) :=
    fun q away => touched.apart _ (apart_of_clear clear away)
  have route : ∀ q, q.length < 3 → Grows (d.valueAt (P ++ q)) (d'.valueAt (P ++ q)) := by
    intro q short
    refine touched.grows fun w mem below => ?_
    rcases clear w mem with apart | ⟨seg, -, deeper⟩
    · exact not_apart_of_above below (List.prefix_append P q) apart
    · have longer := (deeper.trans below).length_le
      simp only [List.length_append, List.length_cons, List.length_nil] at longer
      omega
  have key : ∀ k, k ≠ "current" → ∀ seg, exempt seg → Apart [k] ["current", "state", seg] :=
    fun k ne seg _ => apart_cons_of_ne [] _ ne
  have inCurrent : ∀ x, x ≠ "state" → ∀ seg, exempt seg → Apart ["current", x] ["current", "state", seg] :=
    fun x ne seg _ => Apart.cons_iff.mpr (apart_cons_of_ne [] _ ne)
  obtain ⟨fields, isMapping⟩ := h.isMapping
  obtain ⟨cur, current⟩ := h.current
  obtain ⟨S, stateMapping⟩ := h.stateMapping
  refine ⟨?_, ?_, ?_, ?_, ?_, ?_, ?_, fun x kind version state => ?_, fun k free => ?_,
    fun k kind version current => ?_⟩
  · have := route [] (by simp)
    simp only [List.append_nil, isMapping] at this
    exact this.object
  · rw [fixed ["kind"] (key _ (by decide))]
    exact h.kind
  · rw [fixed ["version"] (key _ (by decide))]
    exact h.version
  · have := route ["current"] (by simp)
    rw [current] at this
    exact this.object
  · rw [fixed ["current", "kind"] (inCurrent _ (by decide))]
    exact h.currentKind
  · rw [fixed ["current", "version"] (inCurrent _ (by decide))]
    exact h.currentVersion
  · have := route ["current", "state"] (by simp)
    rw [stateMapping] at this
    exact this.object
  · rw [fixed ["current", x] (inCurrent x state)]
    exact h.currentOnly x kind version state
  · have away : ∀ seg, exempt seg → Apart ["current", "state", k] ["current", "state", seg] :=
      fun seg ex => Apart.cons_iff.mpr (Apart.cons_iff.mpr
        (apart_cons_of_ne [] [] fun same => free (same ▸ ex)))
    rw [fixed _ away]
    exact h.stateKeys k free
  · rw [fixed [k] (key k current)]
    exact h.others k kind version current

theorem clear_keysOf {p r : List String} (h : Apart r p ∨ ∃ k, exempt k ∧ p ++ [k] <+: r) :
    Clear exempt (Mode.current.keysOf p) (Mode.current.keysOf r) := by
  rcases h with apart | ⟨k, free, below⟩
  · exact .inl apart.keysOf
  · refine .inr ⟨k, free, ?_⟩
    have keys : Mode.current.keysOf (p ++ [k]) <+: Mode.current.keysOf r := Mode.keysOf_prefix below
    simpa [Mode.keysOf_append] using keys

/-- A property of a document at a position that reads only the values at and
below the position, holds only where there is a value, and survives writes
that stay clear of the position's exempt state keys. An ancestor's write
carries such a property along (`writeNode_moves`). -/
structure Portable (I : Document → List String → Prop) (exempt : String → Prop) : Prop where
  present : ∀ {d P}, I d P → ∃ v, d.valueAt P = some v
  transfer : ∀ {d d' P P'}, I d P → (∀ q, d'.valueAt (P' ++ q) = d.valueAt (P ++ q)) → I d' P'
  touch : ∀ {d d' P ws}, I d P → Touches ws d d' → (∀ w ∈ ws, Clear exempt P w) → I d' P

theorem Entry.portable : Portable (Entry n previous own exempt) exempt where
  present h := ⟨_, h.isMapping.choose_spec⟩
  transfer h same := h.transfer same
  touch h touched clear := h.touch touched clear

theorem portable_value (v : Document) : Portable (fun d P => d.valueAt P = some v) (fun _ => False) where
  present h := ⟨v, h⟩
  transfer h same := by simpa [h] using same []
  touch h touched clear := by
    rw [touched.apart _ fun w mem => ?_, h]
    rcases clear w mem with apart | ⟨_, never, _⟩
    · exact apart.symm
    · exact never.elim

end Preservation

/-! ## One entry write -/

section Writes

variable {n : Tree α} {previous : String → Option Document} {own : Mapping} {exempt : String → Prop}

/-- The fresh entry over the entries found at a node's position is an entry
of the node, with every other key as found. -/
theorem freshEntry_entry {entries : Mapping} {o : Option Document} (opened : Open o)
    (agree : ∀ k, ¬ exempt k → Keyed.get? k entries = Keyed.get? k own)
    (before : ∀ k, k ≠ "kind" → k ≠ "version" → k ≠ "current" → (o.bind fun v => v.valueAt [k]) = previous k) :
    Entry n previous own exempt (.object (freshEntry n entries (entriesOf o))) [] := by
  refine ⟨⟨_, valueAt_nil _⟩, ?_, ?_,
    ⟨[("kind", .string n.kind), ("state", .object entries), ("version", .string n.version)], ?_⟩, ?_, ?_,
    ⟨entries, ?_⟩, fun x kind version state => ?_, fun k free => ?_, fun k kind version current => ?_⟩
  all_goals simp only [List.nil_append, valueAt_object_cons, freshEntry]
  · rw [Keyed.get?_insert_of_ne _ _ (by decide), Keyed.get?_insert_of_ne _ _ (by decide)]
    simp
  · rw [Keyed.get?_insert_of_ne _ _ (by decide)]
    simp
  · simp [currentSection]
  · simp [currentSection, Keyed.get?]
  · simp [currentSection, Keyed.get?]
  · simp [currentSection, Keyed.get?]
  · simp [currentSection, Keyed.get?, Ne.symm kind, Ne.symm version, Ne.symm state]
  · simp [currentSection, Keyed.get?, agree k free]
  · rw [Keyed.get?_insert_of_ne _ _ current, Keyed.get?_insert_of_ne _ _ version, Keyed.get?_insert_of_ne _ _ kind,
      get?_entriesOf opened, ← before k kind version current]
    simp

/-- A node's entry write that succeeded leaves an entry of the node at its
position, with every key but its tags and `current` as before the write, as
long as the first segments of its children's relative paths and the segments
its agent records take next are exempt. -/
theorem writeNode_entry {tags : RecordTags} {changes : List AgentChange} {out out' : Document} {st : Payload}
    {doc : Document} (state : n.state = some st) (encoded : st.encode = .ok doc)
    (entries : stateEntries n doc = .ok own) (h : writeNode n tags changes out = (out', none))
    (taken : ∀ k ∈ heads n, exempt k) (records : ∀ c ∈ changes, ∀ k, n.path ++ [k] <+: c.path → exempt k)
    (before : ∀ k, k ≠ "kind" → k ≠ "version" → k ≠ "current" → out.valueAt (entryKeys n ++ [k]) = previous k) :
    Entry n previous own exempt out' (entryKeys n) := by
  obtain ⟨doc', own', entries₁, out₁, entries₂, m, encoded', entries', took, agents, written⟩ := writeNode_ok state h
  rw [encoded] at encoded'
  cases encoded'
  rw [entries] at entries'
  cases entries'
  have spec := materialize_spec written
  have target : out'.valueAt (entryKeys n) = some (.object m) := spec.target
  have agree : ∀ k, ¬ exempt k → Keyed.get? k entries₂ = Keyed.get? k own := by
    intro k free
    rw [withAgents_get agents fun c mem below => free (records c mem k below), takeChildren_entries took,
      if_neg fun mem => free (taken k mem)]
  have found : ∀ k, k ≠ "kind" → k ≠ "version" → k ≠ "current" →
      ((out₁.valueAt (entryKeys n)).bind fun v => v.valueAt [k]) = previous k := by
    intro k kind version current
    have takes := (takeChildren_spec n own out).1
    rw [took] at takes
    rw [← valueAt_append, ← before k kind version current]
    refine takes.apart _ fun w mem => ?_
    obtain ⟨seg, -, rfl⟩ := List.mem_map.mp mem
    exact Apart.append_left _ (apart_cons_of_ne [] _ current)
  have fresh : Entry n previous own exempt (.object m) [] := by
    rw [spec.entries]
    exact freshEntry_entry spec.open_before agree found
  exact fresh.transfer fun q => by rw [valueAt_append, target, Option.bind_some, List.nil_append]

theorem valueAt_state {d : Document} {entries : Mapping} (h : d.valueAt ["current", "state"] = some (.object entries))
    (q : List String) : d.valueAt ("current" :: "state" :: q) = (Document.object entries).valueAt q := by
  rw [show "current" :: "state" :: q = ["current", "state"] ++ q from rfl, valueAt_append, h, Option.bind_some]

/-- The fresh entry materialized at a node's path holds the entries it was
given as its state. -/
theorem fresh_state {entries : Mapping} {d d' : Document} {M : Mapping}
    (written : d.materialize n.path .current (freshEntry n entries) = .ok (M, d')) (q : List String) :
    d'.valueAt (entryKeys n ++ "current" :: "state" :: q) = (Document.object entries).valueAt q := by
  have spec := materialize_spec written
  have stateM : (Document.object M).valueAt ["current", "state"] = some (.object entries) := by
    rw [spec.entries]
    simp [freshEntry, currentSection, Keyed.get?]
  rw [valueAt_append, entryKeys, spec.target, Option.bind_some, valueAt_state stateM]

/-- An ancestor's entry write that succeeded carries a portable property of a
position below it along: it takes the entry there out with the one of its
child on the way, puts it back into its fresh state and writes its agent
records around it, as long as those lie apart from the position or below its
exempt state keys. -/
theorem writeNode_moves {I : Document → List String → Prop} (portable : Portable I exempt) {m : Tree α}
    {tags : RecordTags} {changes : List AgentChange} {out out' : Document} {st : Payload}
    (state : m.state = some st) (h : writeNode m tags changes out = (out', none)) {seg : String}
    {rest : List String} (head : seg ∈ heads m) (holds : I out (Mode.current.keysOf (m.path ++ seg :: rest)))
    (records : ∀ c ∈ changes,
      Apart c.path (m.path ++ seg :: rest) ∨ ∃ k, exempt k ∧ m.path ++ seg :: rest ++ [k] <+: c.path) :
    I out' (Mode.current.keysOf (m.path ++ seg :: rest)) := by
  obtain ⟨doc, own', entries₁, out₁, entries₂, M, -, -, took, agents, written⟩ := writeNode_ok state h
  have keys : Mode.current.keysOf (m.path ++ seg :: rest) = takenKey m seg ++ Mode.current.keysOf rest := by
    simp [takenKey, entryKeys, Mode.keysOf_append]
  rw [keys] at holds ⊢
  obtain ⟨v, taken⟩ : ∃ v, out.valueAt (takenKey m seg) = some v := by
    obtain ⟨w, present⟩ := portable.present holds
    rw [valueAt_append] at present
    cases found : out.valueAt (takenKey m seg) with
    | none =>
      rw [found] at present
      cases present
    | some v => exact ⟨v, rfl⟩
  have moved : Keyed.get? seg entries₁ = some v := by
    rw [takeChildren_entries took, if_pos head, taken]
    rfl
  have inScratch : I (scratchOf m entries₁) (Mode.current.keysOf (seg :: rest)) :=
    portable.transfer holds fun q => by
      rw [List.append_assoc, valueAt_append out, taken, Option.bind_some, Mode.keysOf_current_cons]
      simp [scratchOf, currentSection, Keyed.get?, moved]
  obtain ⟨below, scratch, -, touched, stateIs⟩ := withAgents_spec agents
  have written' := portable.touch inScratch touched fun w mem => by
    obtain ⟨c, cmem, rfl⟩ := List.mem_map.mp mem
    obtain ⟨r, pathIs⟩ := (below c cmem).1
    have dropped : c.path.drop m.path.length = r := by
      rw [← pathIs]
      simp
    rw [dropped]
    refine clear_keysOf ?_
    rcases records c cmem with apart | ⟨k, free, pre⟩
    · rw [← pathIs] at apart
      exact .inl apart.of_append_left
    · rw [← pathIs, List.append_assoc] at pre
      exact .inr ⟨k, free, (List.prefix_append_right_inj _).mp pre⟩
  refine portable.transfer written' fun q => ?_
  rw [Mode.keysOf_current_cons, List.cons_append, List.cons_append, valueAt_state stateIs, takenKey]
  simp only [List.append_assoc, List.cons_append, List.nil_append]
  rw [fresh_state written]

end Writes

/-! ## Every node's entry -/

/-- The state keys of node `n` that a rebuild of tree `t` may fill from
elsewhere: the first segments of its children's relative paths, and the
segments that agent paths below it take next. -/
def Exempt (t n : Tree α) (k : String) : Prop :=
  k ∈ heads n ∨ ∃ m ∈ t.nodes, ∃ c ∈ m.queue.changes, n.path ++ [k] <+: c.path

theorem eq_append_cons_of_not_prefix {p q : List String} (pre : p <+: q) (notAbove : ¬ q <+: p) :
    ∃ seg rest, q.drop p.length = seg :: rest ∧ q = p ++ seg :: rest :=
  eq_append_cons_of_below pre
    (Nat.lt_of_le_of_ne pre.length_le fun same => notAbove (pre.eq_of_length same ▸ List.prefix_rfl))

/-- A position at or below the entry of a node that lies apart from `n`, or
strictly below it, is apart from every key of `n`'s entry but `current`. -/
theorem apart_key {m n : Tree α} (rel : Apart m.path n.path ∨ (n.path <+: m.path ∧ ¬ m.path <+: n.path))
    {x : List String} (hx : entryKeys m <+: x) {k : String} (hk : k ≠ "current") :
    Apart x (entryKeys n ++ [k]) := by
  rcases rel with apart | ⟨pre, notAbove⟩
  · exact apart.keysOf.below hx (List.prefix_append _ _)
  · obtain ⟨seg, rest, -, pathIs⟩ := eq_append_cons_of_not_prefix pre notAbove
    have keys : entryKeys m = entryKeys n ++ "current" :: "state" :: seg :: Mode.current.keysOf rest := by
      simp [entryKeys, pathIs, Mode.keysOf_append]
    rw [keys] at hx
    exact (Apart.append_left (entryKeys n) (apart_cons_of_ne _ [] (Ne.symm hk))).below hx List.prefix_rfl

theorem below_head {m x : Tree α} (placed : m.Placed) (hx : x ∈ m.nodes) (ne : x ≠ m) :
    ∃ seg rest, seg ∈ heads m ∧ x.path = m.path ++ seg :: rest := by
  obtain ⟨e, emem, -, nonempty, pre⟩ := Tree.below_child placed hx ne
  obtain ⟨seg, r, relIs⟩ := List.exists_cons_of_ne_nil nonempty
  obtain ⟨more, pathIs⟩ := pre
  exact ⟨seg, r ++ more, mem_heads emem (by simp [relIs]), by rw [← pathIs, relIs]; simp⟩

section Around

variable {t n : Tree α}

theorem apart_of_unrelated (above : ∀ m ∈ t.nodes, m.path <+: n.path → n ∈ m.nodes)
    (below : ∀ m ∈ t.nodes, n.path <+: m.path → m ∈ n.nodes) {m : Tree α} (hm : m ∈ t.nodes)
    (notAbove : n ∉ m.nodes) (notBelow : m ∉ n.nodes) : Apart m.path n.path :=
  ⟨fun pre => notAbove (above m hm pre), fun pre => notBelow (below m hm pre)⟩

/-- An agent path at or above no node lies apart from `n`'s path or passes
below it through an exempt state key. -/
theorem agent_clear (agents : ∀ m ∈ t.nodes, ∀ c ∈ m.queue.changes, ∀ x ∈ t.nodes, ¬ c.path <+: x.path)
    (mem : n ∈ t.nodes) {m : Tree α} (hm : m ∈ t.nodes) {c : AgentChange} (hc : c ∈ m.queue.changes) :
    Apart c.path n.path ∨ ∃ k, Exempt t n k ∧ n.path ++ [k] <+: c.path := by
  have notAbove := agents m hm c hc n mem
  rcases below_or_above_or_apart c.path n.path with pre | ⟨above, -⟩ | apart
  · obtain ⟨k, rest, -, pathIs⟩ := eq_append_cons_of_not_prefix pre notAbove
    have through : n.path ++ [k] <+: c.path := by
      rw [pathIs]
      simp
    exact .inr ⟨k, .inr ⟨m, hm, c, hc, through⟩, through⟩
  · exact absurd above notAbove
  · exact .inl apart

/-- The writes of a tree with distinct node paths, split at those of one of
its nodes: before them come the writes of nodes not above it, after them
those of nodes not below it. -/
theorem writes_split (distinct : (t.nodes.map Tree.path).Nodup) (mem : n ∈ t.nodes) :
    ∃ pre post : List (Tree α), writes t = pre.flatMap writesOf ++ (writesOf n ++ post.flatMap writesOf) ∧
      (∀ m ∈ pre, m ∈ t.nodes) ∧ (∀ m ∈ post, m ∈ t.nodes) ∧ (∀ m ∈ pre, n ∉ m.nodes) ∧
      ∀ m ∈ post, m ∉ n.nodes := by
  have nodup : t.postorder.Nodup :=
    List.Pairwise.of_map Tree.path (fun _ _ differ same => differ (congrArg Tree.path same))
      (((Tree.postorder_perm t).map Tree.path).nodup_iff.mpr distinct)
  obtain ⟨pre, post, split⟩ := List.append_of_mem (Tree.mem_postorder.mpr mem)
  obtain ⟨notBelow, notAbove⟩ := Tree.postorder_split nodup split
  have inTree : ∀ m, m ∈ pre ∨ m ∈ post → m ∈ t.nodes := fun m h => by
    rw [← Tree.mem_postorder, split]
    rcases h with h | h <;> simp [h]
  exact ⟨pre, post, by simp [writes, split], fun m h => inTree m (.inl h), fun m h => inTree m (.inr h),
    notAbove, notBelow⟩

/-- The writes before a node's own, those of its descendants and of nodes
apart from it, keep every key of its entry but `current`. -/
theorem before_keeps (tags : RecordTags) (placed : t.Placed) (mem : n ∈ t.nodes)
    (above : ∀ m ∈ t.nodes, m.path <+: n.path → n ∈ m.nodes)
    (below : ∀ m ∈ t.nodes, n.path <+: m.path → m ∈ n.nodes) {pre : List (Tree α)}
    (inTree : ∀ m ∈ pre, m ∈ t.nodes) (notAbove : ∀ m ∈ pre, n ∉ m.nodes) (D : Document) :
    ∀ k, k ≠ "current" →
      (run tags (pre.flatMap writesOf) D).1.valueAt (entryKeys n ++ [k]) = D.valueAt (entryKeys n ++ [k]) := by
  refine run_invariant tags
    (I := fun out => ∀ k, k ≠ "current" → out.valueAt (entryKeys n ++ [k]) = D.valueAt (entryKeys n ++ [k]))
    (Q := fun _ => True) _ (fun w wmem out kept _ k current => ?_) D (fun _ _ => rfl) fun _ _ => trivial
  obtain ⟨m, mmem, wmem'⟩ := List.mem_flatMap.mp wmem
  have rel : Apart m.path n.path ∨ (n.path <+: m.path ∧ ¬ m.path <+: n.path) := by
    have higher : ¬ m.path <+: n.path := fun pre => notAbove m mmem (above m (inTree m mmem) pre)
    by_cases desc : m ∈ n.nodes
    · exact .inr ⟨(Tree.placed_of_mem n (Tree.placed_of_mem t placed mem).1 desc).2, higher⟩
    · exact .inl ⟨higher, fun pre => desc (below m (inTree m mmem) pre)⟩
  rw [← node_of_mem_writesOf wmem'] at rel
  rw [(perform_touches_span tags w out).apart _ fun x xmem => (apart_key rel (span_below w x xmem) current).symm]
  exact kept k current

/-- The writes after those of node `x`, those of its ancestors and of nodes
apart from it, keep a portable property at a position at or below `x`, as
long as its ancestors' entry writes met no failure and their agent records
stay clear of the position. -/
theorem after_keeps {I : Document → List String → Prop} {exempt : String → Prop} (portable : Portable I exempt)
    (tags : RecordTags) (placed : t.Placed) {x : Tree α}
    (above : ∀ m ∈ t.nodes, m.path <+: x.path → x ∈ m.nodes)
    (below : ∀ m ∈ t.nodes, x.path <+: m.path → m ∈ x.nodes) {p : List String} (inside : x.path <+: p)
    (records : ∀ m ∈ t.nodes, x ∈ m.nodes → m ≠ x → ∀ c ∈ m.queue.changes,
      Apart c.path p ∨ ∃ k, exempt k ∧ p ++ [k] <+: c.path)
    {post : List (Tree α)} (inTree : ∀ m ∈ post, m ∈ t.nodes) (notBelow : ∀ m ∈ post, m ∉ x.nodes)
    {out : Document} (holds : I out (Mode.current.keysOf p))
    (clean : ∀ m, x ∈ m.nodes → ∀ f, (Write.entry m, f) ∈ (run tags (post.flatMap writesOf) out).2 → f = none) :
    I (run tags (post.flatMap writesOf) out).1 (Mode.current.keysOf p) := by
  refine run_invariant tags (I := fun out => I out (Mode.current.keysOf p))
    (Q := fun e => ∀ m, e.1 = .entry m → x ∈ m.nodes → e.2 = none) _ (fun w wmem out holds ok => ?_) out holds
    fun ⟨w, f⟩ emem m isEntry ancestor => clean m ancestor f (isEntry ▸ emem)
  obtain ⟨m, mmem, wmem'⟩ := List.mem_flatMap.mp wmem
  have mTree := inTree m mmem
  by_cases ancestor : x ∈ m.nodes
  · -- an ancestor: its records stay clear of the position, its entry write moves it
    have ne : x ≠ m := fun same => notBelow m mmem (same ▸ Tree.mem_nodes_self x)
    have clear := records m mTree ancestor (Ne.symm ne)
    obtain ⟨seg, rest, head, pathIs⟩ := below_head (Tree.placed_of_mem t placed mTree).1 ancestor ne
    obtain ⟨more, rfl⟩ := inside
    rw [pathIs, List.append_assoc, List.cons_append] at clear holds ⊢
    cases mstate : m.state with
    | none =>
      simp only [writesOf, mstate, List.mem_map] at wmem'
      obtain ⟨c, cmem, rfl⟩ := wmem'
      refine portable.touch holds (perform_touches_span tags _ out) fun y ymem => ?_
      rw [(mem_span_record ymem).1]
      exact clear_keysOf (clear c cmem)
    | some st =>
      simp only [writesOf, mstate, List.mem_singleton] at wmem'
      subst wmem'
      have written : writeNode m tags m.queue.changes out = (((Write.entry m).perform tags out).1, none) :=
        Prod.ext rfl (ok m rfl ancestor)
      exact writeNode_moves portable mstate written head holds clear
  · -- a node apart from `x`, and so from the position
    have apart := apart_of_unrelated above below mTree ancestor (notBelow m mmem)
    rw [← node_of_mem_writesOf wmem'] at apart
    exact portable.touch holds (perform_touches_span tags w out) fun y ymem =>
      .inl (apart.keysOf.below (span_below w y ymem) (Mode.keysOf_prefix inside))

/-- After a rebuild of a placed tree with distinct node paths and no agent
path at or above a node, a node holding a state whose own write and whose
ancestors' writes met no failure has an entry at its path: its tags, a
`current` section of exactly its tags and a state agreeing with its own
entries off the exempt keys, and every other key as the previous document
had it. The nodes must nest around it as their paths do. -/
theorem entry_of_placed (tags : RecordTags) (D : Document) (placed : t.Placed)
    (distinct : (t.nodes.map Tree.path).Nodup)
    (agents : ∀ m ∈ t.nodes, ∀ c ∈ m.queue.changes, ∀ x ∈ t.nodes, ¬ c.path <+: x.path) (mem : n ∈ t.nodes)
    (above : ∀ m ∈ t.nodes, m.path <+: n.path → n ∈ m.nodes)
    (below : ∀ m ∈ t.nodes, n.path <+: m.path → m ∈ n.nodes) {st : Payload} (state : n.state = some st)
    {doc : Document} {own : Mapping} (encoded : st.encode = .ok doc) (entries : stateEntries n doc = .ok own)
    (clean : ∀ e ∈ log tags t D, n ∈ e.1.node.nodes → e.2 = none) :
    Entry n (fun k => D.valueAt (entryKeys n ++ [k])) own (Exempt t n) (rebuild tags D t).document (entryKeys n) := by
  obtain ⟨pre, post, writesIs, inPre, inPost, notAbove, notBelow⟩ := writes_split distinct mem
  rw [writesOf, state] at writesIs
  dsimp only at writesIs
  rw [log, writesIs, run_append, List.singleton_append, run_cons] at clean
  rw [(rebuild_eq_run tags D t).1, writesIs, run_append, List.singleton_append, run_cons]
  have written : writeNode n tags n.queue.changes (run tags (pre.flatMap writesOf) D).1 =
      (((Write.entry n).perform tags (run tags (pre.flatMap writesOf) D).1).1, none) :=
    Prod.ext rfl (clean (.entry n, ((Write.entry n).perform tags (run tags (pre.flatMap writesOf) D).1).2) (by simp)
      (Tree.mem_nodes_self n))
  have kept := before_keeps tags placed mem above below inPre notAbove D
  have fresh : Entry n (fun k => D.valueAt (entryKeys n ++ [k])) own (Exempt t n)
      ((Write.entry n).perform tags (run tags (pre.flatMap writesOf) D).1).1 (entryKeys n) :=
    writeNode_entry state encoded entries written (fun k mem => .inl mem)
      (fun c cmem k through => .inr ⟨n, mem, c, cmem, through⟩) fun k _ _ current => kept k current
  exact after_keeps Entry.portable tags placed above below List.prefix_rfl
    (fun m mTree _ _ c cmem => agent_clear agents mem mTree cmem) inPost notBelow fresh
    fun m ancestor f fmem => clean (.entry m, f) (by simp [fmem]) ancestor

end Around

/-! ## After a whole cycle -/

/-- After a build, a convergence and a rebuild of the converged tree into a
previous current document `D`: every node holding a state whose document is
a mapping or null, whose own write and whose ancestors' writes met no
failure, has an entry at its path with its tags, a `current` section of
exactly its tags and a state agreeing with that document off the exempt
keys, and every other key as `D` had it. Node paths must be distinct, no
agent path may lie at or above a node, and the nodes must nest around the
node as their paths do. -/
theorem rebuild_entry {A : Adapter α} {root : α} {desired current : Document} {capacity : Nat}
    {s s' : Session} {built : Tree α} (hbuild : build A root desired current capacity s = (.ok built, s'))
    (expired : Bool) (s₂ : Session) {t : Tree α} (ensured : (ensure A expired built s₂).1 = t)
    (tags : RecordTags) (D : Document) (distinct : (t.nodes.map Tree.path).Nodup)
    (agents : ∀ m ∈ t.nodes, ∀ c ∈ m.queue.changes, ∀ x ∈ t.nodes, ¬ c.path <+: x.path)
    {n : Tree α} (mem : n ∈ t.nodes) (above : ∀ m ∈ t.nodes, m.path <+: n.path → n ∈ m.nodes)
    (below : ∀ m ∈ t.nodes, n.path <+: m.path → m ∈ n.nodes) {st : Payload} (state : n.state = some st)
    {doc : Document} {own : Mapping} (encoded : st.encode = .ok doc)
    (shape : doc = .object own ∨ doc = .null ∧ own = [])
    (clean : ∀ e ∈ log tags t D, n ∈ e.1.node.nodes → e.2 = none) :
    ∃ M, (rebuild tags D t).document.navigate n.path .current = .ok (.object M) ∧
      Entry n (fun k => D.valueAt (entryKeys n ++ [k])) own (Exempt t n) (.object M) [] := by
  have placed : t.Placed := ensured ▸ (ensure_placed hbuild expired s₂).2.1
  have entries : stateEntries n doc = .ok own := by
    rcases shape with rfl | ⟨rfl, rfl⟩ <;> rfl
  have entry := entry_of_placed tags D placed distinct agents mem above below state encoded entries clean
  obtain ⟨M, isM⟩ := entry.isMapping
  refine ⟨M, navigate_eq_ok_iff.mpr ⟨isM, .inr (by simp)⟩, entry.transfer fun q => ?_⟩
  rw [List.nil_append, valueAt_append _ (entryKeys n), isM, Option.bind_some]

/-- The scripted child `a` of `scriptedPair`, converged. -/
def scriptedLeaf : Tree Script where
  path := ["a"]
  relative := ["a"]
  identity := "a"
  adapter := { name := "a", id := "a", path := ["a"], kind := "test/a", version := "v1",
               state := .object [("name", .string "a")] }
  kind := "test/a"
  version := "v1"
  state := some (.document (.object [("name", .string "a")]))
  queue := AgentQueue.create 4

/-- A scripted root over one child `a`, converged. -/
def scriptedPair : Tree Script where
  path := []
  relative := []
  identity := "root"
  adapter := { name := "root", id := "root", path := [], kind := "test/root", version := "v1",
               state := .object [("name", .string "root")], children := [scriptedLeaf.adapter] }
  kind := "test/root"
  version := "v1"
  state := some (.document (.object [("name", .string "root")]))
  queue := AgentQueue.create 4
  children := [("a", scriptedLeaf)]

theorem scripted_child_entry :
    ∃ M, (rebuild {} .null scriptedPair).document.navigate ["a"] .current = .ok (.object M) ∧
      Entry scriptedLeaf (fun k => Document.null.valueAt (entryKeys scriptedLeaf ++ [k])) [("name", .string "a")]
        (Exempt scriptedPair scriptedLeaf) (.object M) [] := by
  have built : build Script.adapter scriptedPair.adapter (.object [("spec", .object [("a", .object [])])]) .null 4 {} =
      (.ok { scriptedPair with state := none, children := [("a", { scriptedLeaf with state := none })] },
        { log := ["build:root", "desired:root:\x7b\"spec\":\x7b\"a\":\x7b\x7d\x7d\x7d", "build:a", "desired:a:\x7b\x7d"] }) := by
    unfold build
    unfold Build.node
    unfold Build.node
    rfl
  have nodes : scriptedPair.nodes = [scriptedPair, scriptedLeaf] := rfl
  refine rebuild_entry (t := scriptedPair) (n := scriptedLeaf) built false {} rfl {} .null (by decide) ?_ ?_ ?_ ?_ rfl
    rfl (.inl rfl) ?_
  · intro m hm c hc
    simp only [nodes, List.mem_cons, List.not_mem_nil, or_false] at hm
    rcases hm with rfl | rfl <;> exact absurd hc List.not_mem_nil
  · simp [nodes]
  · intro m hm _
    simp only [nodes, List.mem_cons, List.not_mem_nil, or_false] at hm
    rcases hm with rfl | rfl
    · simp [nodes]
    · exact Tree.mem_nodes_self _
  · intro m hm pre
    simp only [nodes, List.mem_cons, List.not_mem_nil, or_false] at hm
    rcases hm with rfl | rfl
    · exact absurd pre (by decide)
    · exact Tree.mem_nodes_self _
  · exact fun e he _ => log_clean (by decide +kernel) e he

/-- Two scripted siblings below a root, `n1` at `a/b` and `n2` at `a`,
converged. -/
def scriptedSiblings : Tree Script where
  path := []
  relative := []
  identity := "root"
  adapter :=
    { name := "root", id := "root", path := [], kind := "test/root", version := "v1",
      state := .object [("name", .string "root")],
      children := [
        { name := "n1", id := "n1", path := ["a", "b"], kind := "test/n1", version := "v1",
          state := .object [("name", .string "n1")] },
        { name := "n2", id := "n2", path := ["a"], kind := "test/n2", version := "v1",
          state := .object [("name", .string "n2")] }] }
  kind := "test/root"
  version := "v1"
  state := some (.document (.object [("name", .string "root")]))
  queue := AgentQueue.create 4
  children := [
    ("n1", { path := ["a", "b"], relative := ["a", "b"], identity := "n1",
             adapter := { name := "n1", id := "n1", path := ["a", "b"], kind := "test/n1", version := "v1",
                          state := .object [("name", .string "n1")] },
             kind := "test/n1", version := "v1", state := some (.document (.object [("name", .string "n1")])),
             queue := AgentQueue.create 4 }),
    ("n2", { path := ["a"], relative := ["a"], identity := "n2",
             adapter := { name := "n2", id := "n2", path := ["a"], kind := "test/n2", version := "v1",
                          state := .object [("name", .string "n2")] },
             kind := "test/n2", version := "v1", state := some (.document (.object [("name", .string "n2")])),
             queue := AgentQueue.create 4 })]

/-- Without the nesting, a node's entry can be lost: `n2`'s write replaces the
`current` of the entry at `a`, which holds the entry `n1` wrote below it, and
the root then takes what is left. The paths are distinct, no node queues an
agent, `n1` holds a mapping state and the rebuild reports no failure. -/
theorem sibling_entry_lost :
    (∃ built s', build Script.adapter scriptedSiblings.adapter
        (.object [("spec", .object [("a", .object [("spec", .object [("b", .object [])])])])]) .null 4 {} =
        (.ok built, s') ∧ (ensure Script.adapter false built {}).1 = scriptedSiblings) ∧
      (scriptedSiblings.nodes.map Tree.path).Nodup ∧ (∀ m ∈ scriptedSiblings.nodes, m.queue.changes = []) ∧
      (rebuild {} .null scriptedSiblings).failures = [] ∧
      ∃ n ∈ scriptedSiblings.nodes, n.state = some (.document (.object [("name", .string "n1")])) ∧
        (rebuild {} .null scriptedSiblings).document.navigate n.path .current = .error (.pathNotFound "a/b" "b") := by
  refine ⟨⟨{ scriptedSiblings with
      state := none, children := scriptedSiblings.children.map fun c => (c.1, { c.2 with state := none }) },
    { log := ["build:root", "desired:root:\x7b\"spec\":\x7b\"a\":\x7b\"spec\":\x7b\"b\":\x7b\x7d\x7d\x7d\x7d\x7d",
              "build:n1", "desired:n1:\x7b\x7d", "build:n2", "desired:n2:\x7b\"spec\":\x7b\"b\":\x7b\x7d\x7d\x7d"] },
    ?_, rfl⟩, by decide, by decide, by decide +kernel,
    _, Tree.mem_nodes.mpr (.inr ⟨_, List.mem_cons_self, Tree.mem_nodes_self _⟩), rfl, rfl⟩
  unfold build
  unfold Build.node
  unfold Build.node
  rfl

end Rebuild

end Reconcile
