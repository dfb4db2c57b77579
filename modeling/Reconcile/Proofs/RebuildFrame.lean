import Reconcile.Proofs.Position
import Reconcile.Proofs.RebuildRun

/-!
# What a rebuild may change

Each write of the rebuild changes the document only at or below a few
positions (`Write.reach`), and on the way to them it only turns null or
missing values into mappings. A node's entry write replaces the entry's
`kind`, `version` and `current`; an agent record write replaces the record. A
write that fails changes nothing, unless it fails after it has taken its
children's entries out of its state: those entries then stay out
(`perform_touches`).

The rebuild as a whole changes the document only where its writes reach
(`rebuild_touches`).
-/

namespace Reconcile

namespace Rebuild

open Document

variable {α : Type}

/-- The position of a node's entry in the current document. -/
def entryKeys (n : Tree α) : List String := Mode.current.keysOf n.path

/-- The keys of a node's entry that its write replaces. -/
def ownKeys (n : Tree α) : List (List String) :=
  ["kind", "version", "current"].map fun k => entryKeys n ++ [k]

/-- The first segments of the relative paths of a node's children. -/
def heads (n : Tree α) : List String := n.children.filterMap fun c => c.2.relative.head?

/-- The entries a node takes out of its state, one for each first segment of
its children's relative paths. -/
def takenKeys (n : Tree α) : List (List String) :=
  (heads n).map fun seg => entryKeys n ++ ["current", "state", seg]

/-- The positions a write may change, given the failure it met: an entry
write that fails to serialize or shape its state changes nothing, and one that
fails later may have taken its children's entries out. -/
def Write.reach : Write α × Option RebuildError → List (List String)
  | (.entry n, none) => ownKeys n
  | (.entry n, some (.navigation _ _ _)) => takenKeys n
  | (.entry n, some (.agentPath _ _ _)) => takenKeys n
  | (.entry _, some (.serialize _ _ _)) => []
  | (.entry _, some (.stateShape _ _ _)) => []
  | (.record _ change, none) => [Mode.current.keysOf change.path]
  | (.record _ _, some _) => []

theorem mem_heads {n : Tree α} {c : String × Tree α} (mem : c ∈ n.children) {seg : String}
    (head : c.2.relative.head? = some seg) : seg ∈ heads n :=
  List.mem_filterMap.mpr ⟨c, mem, head⟩

theorem mem_takenKeys {n : Tree α} {c : String × Tree α} (mem : c ∈ n.children) {seg : String}
    (head : c.2.relative.head? = some seg) : entryKeys n ++ ["current", "state", seg] ∈ takenKeys n :=
  List.mem_map_of_mem (mem_heads mem head)

theorem ownKeys_above_taken {n : Tree α} : ∀ w ∈ takenKeys n, ∃ w' ∈ ownKeys n, w' <+: w := by
  intro w mem
  obtain ⟨seg, -, rfl⟩ := List.mem_map.mp mem
  exact ⟨entryKeys n ++ ["current"], by simp [ownKeys], by simp⟩

/-! ## Taking entries out -/

/-- Taking `current.state.<segment>` out of a node document touches only that
entry. -/
theorem removeStateEntry_touches (seg : String) (node : Document) :
    Touches [["current", "state", seg]] node (removeStateEntry seg node).2 := by
  unfold removeStateEntry
  split
  · rename_i fields
    split
    · rename_i cur current
      split
      · rename_i st state
        split
        · have inner := touches_erase seg st
          have mid := (modified_insert state (.object (Keyed.erase seg st))).touches inner (by simp)
          have outer := (modified_insert current _).touches mid (by simp)
          simpa using outer
        · exact Touches.refl _ _
      · exact Touches.refl _ _
    · exact Touches.refl _ _
  · exact Touches.refl _ _

/-- Taking an entry out of the state of the node at `path` touches only that
entry. -/
theorem takeEntry_touches {out : Document} {path : List String} {seg : String} {taken : Option Document}
    {out' : Document} (h : takeEntry out path seg = .ok (taken, out')) :
    Touches [Mode.current.keysOf path ++ ["current", "state", seg]] out out' := by
  unfold takeEntry at h
  split at h
  · rename_i r modified
    cases h
    obtain ⟨v, v', found, spec⟩ := modifyAt_spec modified
    simp only [Except.ok.injEq] at found
    have inner := removeStateEntry_touches seg v
    rw [found] at inner
    simpa using spec.touches inner (by simp)
  · cases h
    exact Touches.refl _ _
  · cases h

/-- Taking the children's entries out touches only the taken entries, and a
failure there is one of navigation. -/
theorem takeChildren_spec (n : Tree α) (entries : Mapping) (out : Document) :
    Touches (takenKeys n) out (takeChildren n entries out).2 ∧
      ∀ e, (takeChildren n entries out).1 = .error e →
        ∃ cause, e = .navigation n.identity (Path.format n.path) cause := by
  unfold takeChildren
  refine List.foldlRecOn n.children _
    (motive := fun (acc : Except RebuildError Mapping × Document) => Touches (takenKeys n) out acc.2 ∧
      ∀ e, acc.1 = .error e → ∃ cause, e = RebuildError.navigation n.identity (Path.format n.path) cause)
    ⟨Touches.refl _ _, fun e h => by cases h⟩ ?_
  intro acc ⟨touched, failed⟩ c mem
  obtain ⟨r, doc⟩ := acc
  cases r with
  | error e => exact ⟨touched, failed⟩
  | ok entries =>
    dsimp only
    cases head : c.2.relative.head? with
    | none => exact ⟨touched, failed⟩
    | some seg =>
      dsimp only
      have step : ∀ taken doc', takeEntry doc n.path seg = .ok (taken, doc') →
          Touches (takenKeys n) out doc' := fun taken doc' h =>
        ((touched.trans (takeEntry_touches h))).mono fun w mem' => by
          rcases List.mem_append.mp mem' with old | new
          · exact old
          · rw [List.mem_singleton.mp new]
            exact mem_takenKeys mem head
      split
      · rename_i entry doc' h
        exact ⟨step _ _ h, fun e h' => by cases h'⟩
      · rename_i doc' h
        exact ⟨step _ _ h, fun e h' => by cases h'⟩
      · rename_i cause h
        exact ⟨touched, fun e h' => ⟨cause, by cases h'; rfl⟩⟩

/-! ## Agent records -/

theorem foldlM_error {β γ ε : Type} {P : ε → Prop} (f : β → γ → Except ε β)
    (steps : ∀ b c e, f b c = .error e → P e) :
    ∀ (l : List γ) (b : β) (e : ε), l.foldlM f b = .error e → P e
  | [], b, e, h => by cases h
  | c :: l, b, e, h => by
    rw [List.foldlM_cons] at h
    cases first : f b c with
    | error e' =>
      rw [first] at h
      cases h
      exact steps b c _ first
    | ok b' =>
      rw [first] at h
      exact foldlM_error f steps l b' e h

/-- Writing agent records into a node's fresh state fails only on an agent
path outside the node or on navigation. -/
theorem applyAgentChanges_error {n : Tree α} {tags : RecordTags} {entries : Mapping}
    {changes : List AgentChange} {e : RebuildError} (h : applyAgentChanges n tags entries changes = .error e) :
    (∃ a p q, e = .agentPath a p q) ∨ ∃ a p cause, e = .navigation a p cause := by
  unfold applyAgentChanges at h
  extract_lets scratch written at h
  cases found : written with
  | ok scratch' =>
    rw [found] at h
    cases h
  | error e' =>
    rw [found] at h
    cases h
    refine foldlM_error (P := fun e => (∃ a p q, e = .agentPath a p q) ∨ ∃ a p cause, e = .navigation a p cause)
      _ (fun scratch change e step => ?_) changes _ _ found
    split at step
    · rename_i e₀ outside
      cases step
      unfold agentRelative at outside
      split at outside
      · cases outside
      · cases outside
        exact .inl ⟨_, _, _, rfl⟩
    · split at step
      · cases step
      · cases step
        exact .inr ⟨_, _, _, rfl⟩

/-- Writing one agent record straight into the document touches only the
record. -/
theorem writeAgentRecord_touches {n : Tree α} {tags : RecordTags} {out : Document} {change : AgentChange}
    {out' : Document} (h : writeAgentRecord n tags out change = .ok out') :
    Touches [Mode.current.keysOf change.path] out out' := by
  unfold writeAgentRecord at h
  split at h
  · cases h
  · split at h
    · rename_i m doc written
      cases h
      exact (materialize_spec written).touches
    · cases h

/-! ## One write at a time -/

/-- A node's entry write changes the document only where it reaches, given the
failure it met. -/
theorem writeNode_touches (n : Tree α) (tags : RecordTags) (changes : List AgentChange) (out : Document) :
    Touches (Write.reach (.entry n, (writeNode n tags changes out).2)) out (writeNode n tags changes out).1 := by
  unfold writeNode
  split
  · exact Touches.refl _ _
  split
  · exact Touches.refl _ _
  split
  · exact Touches.refl _ _
  rename_i entries _
  obtain ⟨taken, failed⟩ := takeChildren_spec n entries out
  split
  · rename_i e out₁ took
    rw [took] at taken failed
    obtain ⟨cause, rfl⟩ := failed e rfl
    exact taken
  rename_i entries₁ out₁ took
  rw [took] at taken
  have agentFailure : ∀ e, (if changes.isEmpty = true then .ok entries₁ else applyAgentChanges n tags entries₁ changes) =
      .error e → (∃ a p q, e = .agentPath a p q) ∨ ∃ a p cause, e = .navigation a p cause := by
    intro e agents
    by_cases empty : changes.isEmpty = true
    · simp [empty] at agents
    · rw [if_neg empty] at agents
      exact applyAgentChanges_error agents
  generalize (if changes.isEmpty = true then .ok entries₁ else applyAgentChanges n tags entries₁ changes) =
    withAgents at agentFailure ⊢
  cases withAgents with
  | error e =>
    rcases agentFailure e rfl with ⟨_, _, _, rfl⟩ | ⟨_, _, _, rfl⟩ <;> exact taken
  | ok entries₂ =>
    dsimp only
    split
    · -- the entry written: its kind, version and current replaced
      rename_i m out' written
      have own : Touches (ownKeys n) out₁ out' :=
        (materialize_spec written).touches_keys (by simp) fun fields k other => by
          simp only [List.mem_cons, List.not_mem_nil, or_false, not_or] at other
          simp only [Keyed.get?_insert_of_ne _ _ other.1, Keyed.get?_insert_of_ne _ _ other.2.1,
            Keyed.get?_insert_of_ne _ _ other.2.2]
      exact ((taken.coarsen ownKeys_above_taken).trans own).mono fun w mem => by
        rcases List.mem_append.mp mem with same | same <;> exact same
    · exact taken

/-- A write changes the document only where it reaches, given the failure it
met. -/
theorem perform_touches (tags : RecordTags) (w : Write α) (out : Document) :
    Touches (Write.reach (w, (w.perform tags out).2)) out (w.perform tags out).1 := by
  cases w with
  | entry n => exact writeNode_touches n tags n.queue.changes out
  | record n change =>
    simp only [Write.perform]
    split
    · rename_i out' written
      exact writeAgentRecord_touches written
    · exact Touches.refl _ _

/-- Where a write may change the document, whatever it meets: an entry write
inside its node's entry, a record write at its record when that lies below
its node. -/
def Write.span : Write α → List (List String)
  | .entry n => ownKeys n
  | .record n change =>
    match agentRelative n change with
    | .ok _ => [Mode.current.keysOf change.path]
    | .error _ => []

/-- A record write's span is its change's position, which lies below its
node. -/
theorem mem_span_record {n : Tree α} {c : AgentChange} {y : List String} (h : y ∈ (Write.record n c).span) :
    y = Mode.current.keysOf c.path ∧ n.path <+: c.path := by
  simp only [Write.span] at h
  split at h
  · rename_i r relative
    unfold agentRelative at relative
    split at relative
    · rename_i below
      simp only [Bool.and_eq_true, List.isPrefixOf_iff_prefix] at below
      exact ⟨List.mem_singleton.mp h, below.1⟩
    · cases relative
  · exact absurd h List.not_mem_nil

/-- A write changes the document only within its span. -/
theorem perform_touches_span (tags : RecordTags) (w : Write α) (out : Document) :
    Touches w.span out (w.perform tags out).1 := by
  cases w with
  | entry n =>
    have within : ∀ failure, ∀ x ∈ Write.reach (.entry n, failure), ∃ x' ∈ ownKeys n, x' <+: x := by
      intro failure x mem
      rcases failure with _ | e
      · exact ⟨x, mem, List.prefix_rfl⟩
      · cases e <;> simp only [Write.reach, List.not_mem_nil] at mem
        all_goals exact ownKeys_above_taken x mem
    exact (writeNode_touches n tags n.queue.changes out).coarsen (within _)
  | record n change =>
    simp only [Write.perform, Write.span]
    cases relative : agentRelative n change with
    | error e =>
      have failed : writeAgentRecord n tags out change = .error e := by simp [writeAgentRecord, relative]
      simp only [failed]
      exact Touches.refl _ _
    | ok r =>
      dsimp only
      split
      · rename_i out' written
        exact writeAgentRecord_touches written
      · exact Touches.refl _ _

theorem span_below (w : Write α) : ∀ x ∈ w.span, entryKeys w.node <+: x := by
  cases w with
  | entry m =>
    intro x mem
    obtain ⟨k, -, rfl⟩ := List.mem_map.mp mem
    exact List.prefix_append _ _
  | record m c =>
    intro x mem
    obtain ⟨rfl, below⟩ := mem_span_record mem
    exact Mode.keysOf_prefix below

theorem node_of_mem_writesOf {m : Tree α} {w : Write α} (h : w ∈ writesOf m) : w.node = m := by
  unfold writesOf at h
  split at h
  · obtain ⟨c, -, rfl⟩ := List.mem_map.mp h
    rfl
  · rw [List.mem_singleton.mp h]
    rfl

theorem run_touches (tags : RecordTags) (ws : List (Write α)) (out : Document) :
    Touches ((run tags ws out).2.flatMap Write.reach) out (run tags ws out).1 := by
  induction ws generalizing out with
  | nil => exact Touches.refl _ _
  | cons w ws ih =>
    rw [run_cons, List.flatMap_cons]
    exact (perform_touches tags w out).trans (ih _)

/-- The rebuild changes the previous current document only where its writes
reach: the `kind`, `version` and `current` of every entry written, every agent
record written, and the entries a node took out of its state before its write
failed; on the way there it only turns null or missing values into mappings.
The writes that failed are the failures the rebuild reports. -/
theorem rebuild_touches (tags : RecordTags) (current : Document) (t : Tree α) :
    Touches ((log tags t current).flatMap Write.reach) current (rebuild tags current t).document ∧
      (rebuild tags current t).failures = (log tags t current).filterMap Prod.snd := by
  obtain ⟨document, failures⟩ := rebuild_eq_run tags current t
  rw [document, failures]
  exact ⟨run_touches tags (writes t) current, rfl⟩

end Rebuild

end Reconcile
