import Reconcile.Proofs.RebuildFrame

/-!
# One entry write in detail

An entry write that succeeds (`writeNode_ok`) reads its node's own state entries,
adds the entries it takes out from under the first segments of its children's
relative paths (the first take of a segment moves the whole entry, later ones
find nothing), writes its agent records into a scratch `current` section made
of these, and replaces the entry's `kind`, `version` and `current` by the
node's tags and that section. Every other key of the entry stays.
-/

namespace Reconcile

namespace Rebuild

open Document

variable {α : Type}

/-- The position of the entry a node takes out for segment `seg`. -/
def takenKey (n : Tree α) (seg : String) : List String := entryKeys n ++ ["current", "state", seg]

/-! ## Taking entries out -/

/-- Taking `current.state.<segment>` out of a node document answers what was
there and leaves nothing there. -/
theorem removeStateEntry_taken (seg : String) (node : Document) :
    (removeStateEntry seg node).1 = node.valueAt ["current", "state", seg] ∧
      (removeStateEntry seg node).2.valueAt ["current", "state", seg] = none := by
  cases node
  case object fields =>
    cases current : Keyed.get? "current" fields with
    | none => simp [removeStateEntry, current]
    | some cur =>
      cases cur
      case object cur =>
        cases state : Keyed.get? "state" cur with
        | none => simp [removeStateEntry, current, state]
        | some st =>
          cases st
          case object st =>
            cases entry : Keyed.get? seg st with
            | none => simp [removeStateEntry, current, state, entry]
            | some e => simp [removeStateEntry, current, state, entry]
          all_goals simp [removeStateEntry, current, state, valueAt]
      all_goals simp [removeStateEntry, current, valueAt]
  all_goals simp [removeStateEntry, valueAt]

/-- Taking an entry out of the state of the node at `path` answers what was
there and leaves nothing there. -/
theorem takeEntry_taken {out : Document} {path : List String} {seg : String} {taken : Option Document}
    {out' : Document} (h : takeEntry out path seg = .ok (taken, out')) :
    taken = out.valueAt (Mode.current.keysOf path ++ ["current", "state", seg]) ∧
      out'.valueAt (Mode.current.keysOf path ++ ["current", "state", seg]) = none := by
  unfold takeEntry at h
  split at h
  · rename_i r modified
    cases h
    obtain ⟨v, v', found, spec⟩ := modifyAt_spec modified
    simp only [Except.ok.injEq] at found
    obtain ⟨takenIs, left⟩ := removeStateEntry_taken seg v
    rw [found] at takenIs left
    rw [valueAt_append, valueAt_append, spec.before, spec.after]
    exact ⟨takenIs, left⟩
  · rename_i location key notFound
    cases h
    have missing := modifyAlong_notFound (fun v e => by simp) _ out notFound ["current", "state", seg] (by simp)
    rw [Route.ofPath, below_keys] at missing
    exact ⟨missing.symm, missing⟩
  · cases h

/-- One child's turn in taking the children's entries out. -/
def takeStep (n : Tree α) (acc : Except RebuildError Mapping × Document) (child : String × Tree α) :
    Except RebuildError Mapping × Document :=
  match acc with
  | (.error e, out) => (.error e, out)
  | (.ok entries, out) =>
    match child.2.relative.head? with
    | none => (.ok entries, out)
    | some seg =>
      match takeEntry out n.path seg with
      | .ok (some entry, out') => (.ok (Keyed.insert seg entry entries), out')
      | .ok (none, out') => (.ok entries, out')
      | .error e => (.error (.navigation n.identity (Path.format n.path) e), out)

theorem takeChildren_eq (n : Tree α) (entries : Mapping) (out : Document) :
    takeChildren n entries out = n.children.foldl (takeStep n) (.ok entries, out) :=
  rfl

theorem foldl_takeStep_error (n : Tree α) (e : RebuildError) :
    ∀ (cs : List (String × Tree α)) (out : Document), cs.foldl (takeStep n) (.error e, out) = (.error e, out)
  | [], _ => rfl
  | _ :: cs, out => foldl_takeStep_error n e cs out

/-- The entries a node holds after taking its children's entries out: under a
first segment of a child's relative path, what the document had there if
anything, else its own entry; under any other key, its own entry. -/
theorem takeChildren_entries {n : Tree α} {own : Mapping} {out : Document} {entries₁ : Mapping} {out₁ : Document}
    (h : takeChildren n own out = (.ok entries₁, out₁)) (seg : String) :
    Keyed.get? seg entries₁ =
      if seg ∈ heads n then (out.valueAt (takenKey n seg)).or (Keyed.get? seg own) else Keyed.get? seg own := by
  -- the segments of the children done so far are taken out, the others untouched
  let Done (done : List (String × Tree α)) (entries : Mapping) (doc : Document) : Prop :=
    ∀ seg, (seg ∈ done.filterMap (·.2.relative.head?) →
        Keyed.get? seg entries = (out.valueAt (takenKey n seg)).or (Keyed.get? seg own) ∧
          doc.valueAt (takenKey n seg) = none) ∧
      (seg ∉ done.filterMap (·.2.relative.head?) →
        Keyed.get? seg entries = Keyed.get? seg own ∧ doc.valueAt (takenKey n seg) = out.valueAt (takenKey n seg))
  have run : ∀ (cs done : List (String × Tree α)) (entries : Mapping) (doc : Document), Done done entries doc →
      cs.foldl (takeStep n) (.ok entries, doc) = (.ok entries₁, out₁) → Done (done ++ cs) entries₁ out₁ := by
    intro cs
    induction cs with
    | nil =>
      intro done entries doc inv h
      simp only [List.foldl_nil, Prod.mk.injEq, Except.ok.injEq] at h
      obtain ⟨rfl, rfl⟩ := h
      simpa using inv
    | cons c cs ih =>
      intro done entries doc inv h
      rw [List.foldl_cons] at h
      rw [List.append_cons]
      cases head : c.2.relative.head? with
      | none =>
        simp only [takeStep, head] at h
        refine ih (done ++ [c]) entries doc (fun seg => ?_) h
        simpa [List.filterMap_append, head] using inv seg
      | some s =>
        cases took : takeEntry doc n.path s with
        | error e =>
          simp only [takeStep, head, took, foldl_takeStep_error] at h
          cases h
        | ok r =>
          obtain ⟨taken, doc'⟩ := r
          obtain ⟨takenIs, left⟩ := takeEntry_taken took
          change taken = doc.valueAt (takenKey n s) at takenIs
          change doc'.valueAt (takenKey n s) = none at left
          have others : ∀ seg, seg ≠ s → doc'.valueAt (takenKey n seg) = doc.valueAt (takenKey n seg) :=
            fun seg ne => (takeEntry_touches took).apart _ fun w mem => by
              rw [List.mem_singleton.mp mem]
              exact Apart.append_left _ (Apart.cons_iff.mpr (Apart.cons_iff.mpr (apart_cons_of_ne [] [] ne)))
          let entries' := taken.elim entries fun entry => Keyed.insert s entry entries
          have step : takeStep n (.ok entries, doc) c = (.ok entries', doc') := by
            cases taken <;> simp [takeStep, head, took, entries']
          rw [step] at h
          refine ih (done ++ [c]) entries' doc' (fun seg => ?_) h
          by_cases same : seg = s
          · subst same
            have now : Keyed.get? seg entries' = (out.valueAt (takenKey n seg)).or (Keyed.get? seg own) := by
              by_cases earlier : seg ∈ done.filterMap (·.2.relative.head?)
              · obtain ⟨was, gone⟩ := (inv seg).1 earlier
                rw [gone] at takenIs
                subst takenIs
                exact was
              · obtain ⟨was, there⟩ := (inv seg).2 earlier
                rw [there] at takenIs
                cases taken with
                | none => simp [entries', was, ← takenIs]
                | some entry => simp [entries', ← takenIs]
            exact ⟨fun _ => ⟨now, left⟩, fun notIn => absurd (by simp [List.filterMap_append, head]) notIn⟩
          · have kept : Keyed.get? seg entries' = Keyed.get? seg entries := by
              cases taken with
              | none => rfl
              | some entry => exact Keyed.get?_insert_of_ne entry entries same
            have member : seg ∈ (done ++ [c]).filterMap (·.2.relative.head?) ↔
                seg ∈ done.filterMap (·.2.relative.head?) := by
              simp [List.filterMap_append, head, same]
            rw [member, kept, others seg same]
            exact inv seg
  have final := run n.children [] own out (fun seg => ⟨fun mem => absurd mem (by simp), fun _ => ⟨rfl, rfl⟩⟩)
    (by rw [← takeChildren_eq]; exact h) seg
  by_cases mem : seg ∈ heads n
  · rw [if_pos mem]
    exact (final.1 mem).1
  · rw [if_neg mem]
    exact (final.2 mem).1

/-! ## Agent records in a fresh state -/

/-- An agent path is taken below a node exactly when it lies strictly below
the node's path. -/
theorem agentRelative_eq_ok {n : Tree α} {change : AgentChange} {relative : List String} :
    agentRelative n change = .ok relative ↔
      n.path <+: change.path ∧ n.path.length < change.path.length ∧ relative = change.path.drop n.path.length := by
  unfold agentRelative
  split
  · rename_i below
    simp only [Bool.and_eq_true, List.isPrefixOf_iff_prefix, decide_eq_true_eq] at below
    simp [below, eq_comm]
  · rename_i outside
    simp only [Bool.and_eq_true, List.isPrefixOf_iff_prefix, decide_eq_true_eq, not_and] at outside
    simp only [reduceCtorEq, false_iff, not_and]
    exact fun pre longer _ => outside pre longer

/-- A fold in `Except` whose every step touches one position of the document
touches the positions of all its steps. -/
theorem foldlM_touches {γ ε : Type} {P : γ → Prop} (f : Document → γ → Except ε Document)
    (reach : γ → List String) (step : ∀ d c d', f d c = .ok d' → P c ∧ Touches [reach c] d d') :
    ∀ (l : List γ) (d d' : Document), l.foldlM f d = .ok d' → (∀ c ∈ l, P c) ∧ Touches (l.map reach) d d'
  | [], d, d', h => by
    cases h
    exact ⟨fun _ mem => absurd mem List.not_mem_nil, Touches.refl _ _⟩
  | c :: l, d, d', h => by
    rw [List.foldlM_cons] at h
    cases first : f d c with
    | error e =>
      rw [first] at h
      cases h
    | ok d₁ =>
      rw [first] at h
      obtain ⟨here, touched⟩ := step d c d₁ first
      obtain ⟨later, touched'⟩ := foldlM_touches f reach step l d₁ d' h
      exact ⟨fun c' mem => (List.mem_cons.mp mem).elim (· ▸ here) (later c'), touched.trans touched'⟩

/-- The scratch document a node's agent records are written into. -/
def scratchOf (n : Tree α) (entries : Mapping) : Document :=
  .object [("current", currentSection n.kind n.version entries)]

/-- One agent record written into a node's scratch document. -/
def recordStep (n : Tree α) (tags : RecordTags) (scratch : Document) (change : AgentChange) :
    Except RebuildError Document :=
  match agentRelative n change with
  | .error e => .error e
  | .ok relative =>
    match scratch.materialize relative .current (fun _ => tags.record change.spec change.observed) with
    | .ok (_, d) => .ok d
    | .error e => .error (.navigation n.identity (Path.format change.path) e)

/-- A record step that succeeded lies strictly below the node, and
materialized the record at its position relative to the node. -/
theorem recordStep_ok {n : Tree α} {tags : RecordTags} {d d' : Document} {c : AgentChange}
    (h : recordStep n tags d c = .ok d') :
    n.path <+: c.path ∧ n.path.length < c.path.length ∧
      ∃ m, Materialized (Mode.current.keysOf (c.path.drop n.path.length)) (fun _ => tags.record c.spec c.observed)
        d m d' := by
  unfold recordStep at h
  split at h
  · cases h
  · rename_i relative taken
    obtain ⟨pre, longer, rfl⟩ := agentRelative_eq_ok.mp taken
    split at h
    · rename_i m doc written
      cases h
      exact ⟨pre, longer, m, materialize_spec written⟩
    · cases h

theorem recordStep_touches {n : Tree α} {tags : RecordTags} {d d' : Document} {c : AgentChange}
    (h : recordStep n tags d c = .ok d') :
    (n.path <+: c.path ∧ n.path.length < c.path.length) ∧
      Touches [Mode.current.keysOf (c.path.drop n.path.length)] d d' := by
  obtain ⟨pre, longer, _, spec⟩ := recordStep_ok h
  exact ⟨⟨pre, longer⟩, spec.touches⟩

/-- A node's agent records all lie strictly below it, and writing them into its
fresh state, one `recordStep` after the other, changes the scratch document
only at their positions below the node; the state stays a mapping, and its
entries are what comes out. The records are written only when there are
any. -/
theorem withAgents_spec {n : Tree α} {tags : RecordTags} {entries entries' : Mapping}
    {changes : List AgentChange}
    (h : (if changes.isEmpty then .ok entries else applyAgentChanges n tags entries changes) = .ok entries') :
    (∀ c ∈ changes, n.path <+: c.path ∧ n.path.length < c.path.length) ∧
      ∃ scratch, changes.foldlM (recordStep n tags) (scratchOf n entries) = .ok scratch ∧
        Touches (changes.map fun c => Mode.current.keysOf (c.path.drop n.path.length)) (scratchOf n entries) scratch ∧
        scratch.valueAt ["current", "state"] = some (.object entries') := by
  by_cases empty : changes.isEmpty = true
  · rw [if_pos empty] at h
    cases h
    rw [List.isEmpty_iff.mp empty]
    exact ⟨fun _ mem => absurd mem List.not_mem_nil, _, rfl, Touches.refl _ _,
      by simp [scratchOf, currentSection, Keyed.get?]⟩
  rw [if_neg empty] at h
  unfold applyAgentChanges at h
  extract_lets scratch written at h
  cases found : written with
  | error e =>
    rw [found] at h
    cases h
  | ok final =>
    rw [found] at h
    have folded : changes.foldlM (recordStep n tags) (scratchOf n entries) = .ok final := found
    obtain ⟨below, touched⟩ := foldlM_touches (P := fun c => n.path <+: c.path ∧ n.path.length < c.path.length)
      (recordStep n tags) (fun c => Mode.current.keysOf (c.path.drop n.path.length))
      (fun _ _ _ step => recordStep_touches step) changes _ _ folded
    -- no record lies at or above the state, so it stays a mapping
    have grows : Grows ((scratchOf n entries).valueAt ["current", "state"]) (final.valueAt ["current", "state"]) := by
      refine touched.grows fun w mem above => ?_
      obtain ⟨c, cmem, rfl⟩ := List.mem_map.mp mem
      obtain ⟨seg, rest, split⟩ := List.exists_cons_of_length_pos
        (show 0 < (c.path.drop n.path.length).length by have := (below c cmem).2; simp; omega)
      have longer := above.length_le
      rw [split, Mode.keysOf_current_cons] at longer
      simp at longer
    obtain ⟨fields, stateIs⟩ := (show Grows (some (.object entries)) (final.valueAt ["current", "state"]) by
      simpa [scratchOf, currentSection, Keyed.get?] using grows).object
    have read : (final.get? "current").bind (Document.get? "state") = some (.object fields) := by
      rw [← stateIs, show ["current", "state"] = ["current"] ++ ["state"] from rfl, valueAt_append]
      simp [valueAt_singleton]
    simp only [Except.map, read, Except.ok.injEq] at h
    subst h
    exact ⟨below, final, folded, touched, stateIs⟩

theorem eq_append_cons_of_below {p q : List String} (pre : p <+: q) (longer : p.length < q.length) :
    ∃ seg rest, q.drop p.length = seg :: rest ∧ q = p ++ seg :: rest := by
  obtain ⟨seg, rest, split⟩ := List.exists_cons_of_length_pos (show 0 < (q.drop p.length).length by simp; omega)
  refine ⟨seg, rest, split, ?_⟩
  rw [← split]
  exact (List.prefix_iff_eq_append.mp pre).symm

/-- Writing a node's agent records keeps every state entry that no record
path passes through. -/
theorem withAgents_get {n : Tree α} {tags : RecordTags} {entries entries' : Mapping} {changes : List AgentChange}
    (h : (if changes.isEmpty then .ok entries else applyAgentChanges n tags entries changes) = .ok entries')
    {k : String} (untouched : ∀ c ∈ changes, ¬ n.path ++ [k] <+: c.path) :
    Keyed.get? k entries' = Keyed.get? k entries := by
  obtain ⟨below, scratch, -, touched, stateIs⟩ := withAgents_spec h
  have kept : scratch.valueAt ["current", "state", k] = (scratchOf n entries).valueAt ["current", "state", k] := by
    refine touched.apart _ fun w mem => ?_
    obtain ⟨c, cmem, rfl⟩ := List.mem_map.mp mem
    obtain ⟨seg, rest, split, pathIs⟩ := eq_append_cons_of_below (below c cmem).1 (below c cmem).2
    have other : k ≠ seg := by
      rintro rfl
      exact untouched c cmem ⟨rest, by rw [pathIs]; simp⟩
    rw [split, Mode.keysOf_current_cons]
    exact Apart.cons_iff.mpr (Apart.cons_iff.mpr (apart_cons_of_ne [] _ other))
  rw [show ["current", "state", k] = ["current", "state"] ++ [k] from rfl, valueAt_append, stateIs] at kept
  simpa [scratchOf, currentSection, Keyed.get?, valueAt_singleton, get?] using kept

/-! ## An entry write that succeeded -/

/-- The entry a write leaves at a node's position, given the entries found
there: the node's tags and a `current` section over the state entries. -/
def freshEntry (n : Tree α) (entries : Mapping) (m : Mapping) : Mapping :=
  Keyed.insert "current" (currentSection n.kind n.version entries)
    (Keyed.insert "version" (.string n.version) (Keyed.insert "kind" (.string n.kind) m))

/-- An entry write that succeeded for a node holding a state took its
children's entries out into its encoding's entries, wrote its agent records
there, and materialized the fresh entry at the node's path. -/
theorem writeNode_ok {n : Tree α} {tags : RecordTags} {changes : List AgentChange} {out out' : Document}
    {st : Payload} (state : n.state = some st) (h : writeNode n tags changes out = (out', none)) :
    ∃ doc own entries₁ out₁ entries₂ m, st.encode = .ok doc ∧ stateEntries n doc = .ok own ∧
      takeChildren n own out = (.ok entries₁, out₁) ∧
      (if changes.isEmpty then .ok entries₁ else applyAgentChanges n tags entries₁ changes) = .ok entries₂ ∧
      out₁.materialize n.path .current (freshEntry n entries₂) = .ok (m, out') := by
  unfold writeNode at h
  simp only [state] at h
  split at h
  · simp at h
  rename_i doc encoded
  split at h
  · simp at h
  rename_i own entries
  split at h
  · simp at h
  rename_i entries₁ out₁ took
  generalize agents : (if changes.isEmpty = true then .ok entries₁ else applyAgentChanges n tags entries₁ changes) =
    withAgents at h
  cases withAgents with
  | error e => simp at h
  | ok entries₂ =>
    dsimp only at h
    split at h
    · rename_i m out₂ written
      simp only [Prod.mk.injEq] at h
      obtain ⟨rfl, -⟩ := h
      exact ⟨doc, own, entries₁, out₁, entries₂, m, encoded, entries, took, agents, written⟩
    · simp at h

end Rebuild

end Reconcile
