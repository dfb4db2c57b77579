import Reconcile.Proofs.BranchView
import Reconcile.Proofs.Preorder
import Reconcile.Script.Adapter

/-!
# Spec rewrites stay on their branch

A build threads one working copy of the desired document through its nodes,
root first, and each node may rewrite its own spec on it before it reads its
desired node document. A node `m` at path `q` sees the rewrites of the nodes
on its branch only: those at a prefix of `q`, which it sees when they were
built before it, and those at an extension of `q`. Its desired node document
is the caller's desired document with exactly these rewrites made one after
the other, its own last (`Build.desired_replays`). The caller's document
itself is a value: the build edits a copy.

This rests on each rewrite on the branch deciding every key of the spec by
that key's entry alone (`KeyWise`): a rewrite above `m` then passes on the
entry on the way to `m` whatever the other entries hold. A rewrite off the
branch may do anything. A rewrite on the branch that copies one key's entry
into another carries an edit made off the branch to `m`, and a rewrite off
the branch may create the entry a later node needs, so removing it can stop
the build before `m` (`offBranch_rewrites_matter`).

So a scripted tree whose nodes on `m`'s branch rewrite key-wise, with the
rewrites of every node off the branch removed, gives `m` the same desired node
document (`rewrites_stay_on_branch`).
-/

namespace Reconcile

variable {α : Type}

namespace Build

open Document

/-- Whether the paths `q` and `p` lie on one branch: one is a prefix of the
other. -/
def onBranch (q p : List String) : Bool := p.isPrefixOf q || q.isPrefixOf p

theorem onBranch_iff {q p : List String} : onBranch q p = true ↔ p <+: q ∨ q <+: p := by
  simp [onBranch, List.isPrefixOf_iff_prefix]

example : onBranch ["x", "c"] ["x"] = true ∧ onBranch ["x", "c"] ["x", "a"] = false := by decide

theorem onBranch_self (q : List String) : onBranch q q = true := onBranch_iff.mpr (.inl List.prefix_rfl)

theorem apart_of_not_onBranch {q p : List String} (off : onBranch q p = false) : Apart p q := by
  have notOn : ¬ (p <+: q ∨ q <+: p) := fun on => by rw [onBranch_iff.mpr on] at off; cases off
  exact ⟨fun pre => notOn (.inl pre), fun pre => notOn (.inr pre)⟩

/-- The spec edits `edits`, each at its node's path, made one after the other
on `w`. -/
def replay (edits : List (List String × Option (Mapping → Mapping))) (w : Document) : Except NavigateError Document :=
  edits.foldlM (fun w e => applyEdit w e.1 e.2) w

theorem replay_append (E E' : List (List String × Option (Mapping → Mapping))) (w : Document) :
    replay (E ++ E') w = (replay E w).bind (replay E') := by
  simp only [replay, List.foldlM_append]
  rfl

/-! ## What a visit does to the working copy -/

/-- A checked build that passed hands on where the node was located and what
its adapter built. -/
theorem settle_passed {A : Adapter α} {a : α} {l : Located}
    {answer : Except Fault (Built { c : α // A.rank c < A.rank a }) × Session × AgentQueue} {v : Passed A a}
    {s : Session} (h : settle A a l answer = (.ok v, s)) :
    ∃ built, answer.1 = .ok built ∧ v = ⟨l.relative, l.path, l.working, built, answer.2.2⟩ := by
  obtain ⟨result, s', queue⟩ := answer
  cases overflowed : queue.overflow with
  | some e => simp [settle, overflowed] at h
  | none =>
    cases result with
    | error f => simp [settle, overflowed] at h
    | ok built =>
      simp only [settle, overflowed, Prod.mk.injEq, Except.ok.injEq] at h
      exact ⟨built, rfl, h.1.symm⟩

/-- A node located was placed, made its spec edit on the working copy, and
reads its desired node document from the edited copy. -/
theorem locate_ok {A : Adapter α} {scope : Scope} {a : α} {parent : Option (List String × Option Document)}
    {w : Document} {s : Session} {l : Located} {s₁ : Session} (located : locate A scope a parent w s = (.ok l, s₁)) :
    ∃ edit s₀, place A a parent s = (.ok (l.relative, l.path, edit), s₀) ∧ applyEdit w l.path edit = .ok l.working ∧
      l.working.navigate l.path .desired = .ok l.input.desired := by
  unfold locate at located
  rcases placed : place A a parent s with ⟨_ | ⟨relative, path, edit⟩, s₀⟩
  · simp [placed] at located
  cases edited : applyEdit w path edit with
  | error e => simp [placed, edited] at located
  | ok working =>
    cases navigated : working.navigate path .desired with
    | error e => simp [placed, edited, navigated] at located
    | ok desired =>
      cases found : scope.current.lookup path .current with
      | error e => simp [placed, edited, navigated, found] at located
      | ok found =>
        simp only [placed, edited, navigated, found, Prod.mk.injEq, Except.ok.injEq] at located
        obtain ⟨rfl, -⟩ := located
        exact ⟨edit, s₀, rfl, edited, navigated⟩

/-- A node that passed its visit was located, and its adapter built from the
located input. -/
theorem visit_passed {A : Adapter α} {scope : Scope} {a : α} {parent : Option (List String × Option Document)}
    {w : Document} {s : Session} {v : Passed A a} {s₁ : Session} (visited : visit A scope a parent w s = (.ok v, s₁)) :
    ∃ l s₀ built, locate A scope a parent w s = (.ok l, s₀) ∧
      (A.build a l.input s₀ (AgentQueue.create scope.capacity)).1 = .ok built ∧
      v = ⟨l.relative, l.path, l.working, built, (A.build a l.input s₀ (AgentQueue.create scope.capacity)).2.2⟩ := by
  unfold visit at visited
  rcases located : locate A scope a parent w s with ⟨_ | l, s₀⟩
  · simp [located, andThen] at visited
  · simp only [located, andThen] at visited
    obtain ⟨built, result, rfl⟩ := settle_passed visited
    exact ⟨l, s₀, built, rfl, result, rfl⟩

/-- A node that passed its visit lies where it was placed, made its spec edit
there, and hands the edited working copy on. -/
theorem visit_placed {A : Adapter α} {scope : Scope} {a : α} {parent : Option (List String × Option Document)}
    {w : Document} {s : Session} {relative path : List String} {edit : Option (Mapping → Mapping)} {s₀ : Session}
    {v : Passed A a} {s₁ : Session} (placed : place A a parent s = (.ok (relative, path, edit), s₀))
    (visited : visit A scope a parent w s = (.ok v, s₁)) : v.path = path ∧ applyEdit w path edit = .ok v.working := by
  obtain ⟨l, s₀', built, located, -, rfl⟩ := visit_passed visited
  obtain ⟨edit', s₀'', placed', edited, -⟩ := locate_ok located
  rw [placed] at placed'
  simp only [Prod.mk.injEq, Except.ok.injEq] at placed'
  obtain ⟨⟨-, rfl, rfl⟩, -⟩ := placed'
  exact ⟨rfl, edited⟩

theorem place_edit {A : Adapter α} {a : α} {parent : Option (List String × Option Document)} {s : Session}
    {relative path : List String} {f : Mapping → Mapping} {s₀ : Session}
    (placed : place A a parent s = (.ok (relative, path, some f), s₀)) : (A.placement a s).1.specEdit = some f := by
  cases parent with
  | none => simp [place] at placed
  | some p =>
    by_cases empty : (A.placement a s).1.relative.isEmpty
    · simp [place, empty] at placed
    · simp only [place, empty, Bool.false_eq_true, if_false, Prod.mk.injEq, Except.ok.injEq] at placed
      exact placed.1.2.2

/-! ## The expansion, visit by visit -/

/-- The expansion from the waiting nodes `P`, over the working copy `w` and
session `s`, visits nodes that pass one after the other and comes to the
waiting nodes `P'`, working copy `w'` and session `s'`; `E` holds the path and
spec edit of each node visited, in order. -/
inductive Reaches (A : Adapter α) (scope : Scope) :
    List (Pending α) → Document → Session → List (List String × Option (Mapping → Mapping)) →
      List (Pending α) → Document → Session → Prop
  | refl (P : List (Pending α)) (w : Document) (s : Session) : Reaches A scope P w s [] P w s
  | visit {a : α} {parent : Option (List String × Option Document)} {rest : List (Pending α)} {w : Document}
      {s : Session} {relative path : List String} {edit : Option (Mapping → Mapping)} {s₀ : Session}
      {v : Passed A a} {s₁ : Session} {E : List (List String × Option (Mapping → Mapping))}
      {P' : List (Pending α)} {w' : Document} {s' : Session} :
      place A a parent s = (.ok (relative, path, edit), s₀) → visit A scope a parent w s = (.ok v, s₁) →
      Reaches A scope (v.pending ++ rest) v.working s₁ E P' w' s' →
      Reaches A scope ((a, parent) :: rest) w s ((path, edit) :: E) P' w' s'

/-- One spec edit, made on a working copy that looks along `q` like one that
made only the edits on the branch of `q`, keeps it looking so: an edit off the
branch leaves the view, and one on it is made alike on both. -/
theorem edit_view {q path : List String} {edit : Option (Mapping → Mapping)}
    (keyWise : onBranch q path = true → ∀ f, edit = some f → KeyWise f)
    {w w' w₀ : Document} (edited : applyEdit w path edit = .ok w')
    (alike : along (Mode.desired.keysOf q) w = along (Mode.desired.keysOf q) w₀) :
    ∃ w₀', replay ([(path, edit)].filter fun e => onBranch q e.1) w₀ = .ok w₀' ∧
      along (Mode.desired.keysOf q) w' = along (Mode.desired.keysOf q) w₀' := by
  cases on : onBranch q path
  · refine ⟨w₀, by simp [replay, on]; rfl, ?_⟩
    rw [applyEdit_along_apart (apart_of_not_onBranch on) edited, alike]
  · cases edit with
    | none =>
      simp only [applyEdit, Except.ok.injEq] at edited
      subst edited
      exact ⟨w₀, by simp [replay, on, applyEdit], alike⟩
    | some f =>
      have related := applyEdit_along (keyWise on f rfl) (onBranch_iff.mp on) alike
      rw [edited] at related
      cases replayed : applyEdit w₀ path (some f) with
      | error e =>
        rw [replayed] at related
        cases related
      | ok w₀' =>
        rw [replayed] at related
        exact ⟨w₀', by simp [replay, on, replayed], related⟩

section View

variable {A : Adapter α} {scope : Scope}

/-- Along the way to any path `q`, the working copy looks like the copy that
made only the edits of the nodes on the branch of `q`, in the order visited. -/
theorem Reaches.view (q : List String) {P : List (Pending α)} {w : Document} {s : Session}
    {E : List (List String × Option (Mapping → Mapping))} {P' : List (Pending α)} {w' : Document} {s' : Session}
    (reaches : Reaches A scope P w s E P' w' s')
    (keyWise : ∀ e ∈ E, onBranch q e.1 = true → ∀ f, e.2 = some f → KeyWise f) :
    ∀ {w₀ : Document}, along (Mode.desired.keysOf q) w = along (Mode.desired.keysOf q) w₀ →
      ∃ w₀', replay (E.filter fun e => onBranch q e.1) w₀ = .ok w₀' ∧
        along (Mode.desired.keysOf q) w' = along (Mode.desired.keysOf q) w₀' := by
  -- the invariant is carried visit by visit: each node's edit keeps the two copies alike
  induction reaches with
  | refl => exact fun alike => ⟨_, rfl, alike⟩
  | @visit a parent rest w s relative path edit s₀ v s₁ E P' w' s' placed visited _ ih =>
    intro w₀ alike
    obtain ⟨w₁, first, alike₁⟩ :=
      edit_view (keyWise (path, edit) List.mem_cons_self) (visit_placed placed visited).2 alike
    obtain ⟨w₂, later, alike₂⟩ := ih (fun e mem => keyWise e (List.mem_cons_of_mem _ mem)) alike₁
    refine ⟨w₂, ?_, alike₂⟩
    rw [← List.singleton_append, List.filter_append, replay_append, first]
    exact later

/-- A node's desired node document is the build's desired document with the
spec edits of the nodes on its branch made one after the other, in the order
they were visited, its own last, when each of these edits decides every key
by its own entry. -/
theorem desired_replays {root : α} {D : Document} {s₀ : Session}
    {E : List (List String × Option (Mapping → Mapping))} {m : α} {parent : Option (List String × Option Document)}
    {rest : List (Pending α)} {w : Document} {s : Session} {l : Located} {s₁ : Session}
    (reaches : Reaches A scope [(root, none)] D s₀ E ((m, parent) :: rest) w s)
    (located : locate A scope m parent w s = (.ok l, s₁))
    (keyWise : ∀ e ∈ E, onBranch l.path e.1 = true → ∀ f, e.2 = some f → KeyWise f)
    (own : ∀ f, (A.placement m s).1.specEdit = some f → KeyWise f) :
    ∃ edit w₀, (∃ s', place A m parent s = (.ok (l.relative, l.path, edit), s')) ∧
      replay ((E ++ [(l.path, edit)]).filter fun e => onBranch l.path e.1) D = .ok w₀ ∧
      w₀.navigate l.path .desired = .ok l.input.desired := by
  obtain ⟨edit, s', placed, edited, navigated⟩ := locate_ok located
  obtain ⟨w₁, before, alike₁⟩ := reaches.view l.path keyWise rfl
  obtain ⟨w₂, last, alike₂⟩ :=
    edit_view (fun _ f same => own f (place_edit (same ▸ placed))) edited alike₁
  refine ⟨edit, w₂, ⟨s', placed⟩, ?_, ?_⟩
  · rw [List.filter_append, replay_append, before]
    exact last
  · rw [← navigate_along alike₂]
    exact navigated

end View

end Build

/-! ## Scripted edits -/

namespace Keyed

/-- Storing entries with their values changed, each by its entry, stores the
changed entries. -/
theorem ofList_map {β γ : Type} (g : String × β → γ) (l : List (String × β)) :
    Keyed.ofList (l.map fun e => (e.1, g e)) = (Keyed.ofList l).map fun e => (e.1, g e) := by
  have insert_map : ∀ (k : String) (v : β) (acc : List (String × β)),
      Keyed.insert k (g (k, v)) (acc.map fun e => (e.1, g e)) = (Keyed.insert k v acc).map fun e => (e.1, g e) := by
    intro k v acc
    induction acc with
    | nil => rfl
    | cons e acc ih =>
      obtain ⟨k', v'⟩ := e
      simp only [List.map_cons, Keyed.insert]
      by_cases before : k < k'
      · simp [before]
      · by_cases same : k = k' <;> simp [before, same, ih]
  unfold Keyed.ofList
  suffices ∀ acc : List (String × β),
      (l.map fun e => (e.1, g e)).foldl (fun acc e => Keyed.insert e.1 e.2 acc) (acc.map fun e => (e.1, g e)) =
        (l.foldl (fun acc e => Keyed.insert e.1 e.2 acc) acc).map fun e => (e.1, g e) from this []
  induction l with
  | nil => intro acc; rfl
  | cons e l ih =>
    intro acc
    simp only [List.map_cons, List.foldl_cons, insert_map, ih]

theorem mem_ofList {β : Type} {e : String × β} {l : List (String × β)} (mem : e ∈ Keyed.ofList l) : e ∈ l := by
  unfold Keyed.ofList at mem
  suffices ∀ acc : List (String × β), e ∈ l.foldl (fun acc e => Keyed.insert e.1 e.2 acc) acc → e ∈ acc ∨ e ∈ l from
    (this [] mem).resolve_left List.not_mem_nil
  clear mem
  induction l with
  | nil => exact fun _ mem => .inl mem
  | cons e' l ih =>
    intro acc mem
    rcases ih _ mem with inserted | later
    · rcases Keyed.mem_insert inserted with rfl | earlier
      · exact .inr List.mem_cons_self
      · exact .inl earlier
    · exact .inr (List.mem_cons_of_mem _ later)

end Keyed

namespace SpecEdit

/-- One scripted edit decides each key by its own entry: it sets, defaults or
removes one key, or clears every key. -/
theorem apply_keyWise (e : SpecEdit) : Document.KeyWise e.apply := by
  intro ks k m₁ m₂ same
  cases e with
  | set key value =>
    by_cases at_ : k = key
    · subst at_
      simp [apply]
    · simp [apply, Keyed.get?_insert_of_ne _ _ at_, same]
  | default key value =>
    by_cases at_ : k = key
    · -- the key is there in both mappings or in neither, and the default follows
      subst at_
      have present : Keyed.contains k m₁ = Keyed.contains k m₂ := by
        simp only [Keyed.contains]
        cases h₁ : Keyed.get? k m₁ <;> cases h₂ : Keyed.get? k m₂ <;> simp_all
      cases there : Keyed.contains k m₁ <;> simp_all [apply]
    · have keeps : ∀ m, Keyed.get? k (SpecEdit.default key value |>.apply m) = Keyed.get? k m := by
        intro m
        by_cases there : Keyed.contains key m <;> simp [apply, there, Keyed.get?_insert_of_ne _ _ at_]
      rw [keeps, keeps, same]
  | remove key =>
    by_cases at_ : k = key
    · subst at_
      simp [apply]
    · simp [apply, Keyed.get?_erase_of_ne _ at_, same]
  | clear => rfl

theorem applyAll_keyWise : ∀ edits : List SpecEdit, Document.KeyWise (applyAll edits)
  | [], _, _, _, _, same => same
  | e :: rest, ks, k, m₁, m₂, same =>
    applyAll_keyWise rest ks k (e.apply m₁) (e.apply m₂) (apply_keyWise e ks k m₁ m₂ same)

end SpecEdit

namespace Script

/-- `S.Node p x`: `x` is a node of the scripted tree `S`, placed at `p`. The
root is placed at the empty path whatever its own path says, and a child at
its parent's path continued by its own. -/
inductive Node (S : Script) : List String → Script → Prop
  | root : Node S [] S
  | child {p : List String} {x c : Script} : Node S p x → c ∈ x.children → Node S (p ++ c.path) c

mutual
/-- The script with the rewrites of every node off the branch of `q`
removed; `path` is the script's own path. -/
def keepBranch (q path : List String) : Script → Script
  | s@{ children, .. } =>
    { s with
      rewrite := if Build.onBranch q path then s.rewrite else none
      children := keepBranchAll q path children }
/-- The scripts of the children of the node at `parentPath`, each with the
rewrites off the branch of `q` removed. -/
def keepBranchAll (q parentPath : List String) : List Script → List Script
  | [] => []
  | c :: cs => keepBranch q (parentPath ++ c.path) c :: keepBranchAll q parentPath cs
end

section Keep

variable (q : List String)

@[simp] theorem keepBranch_path (path : List String) (s : Script) : (keepBranch q path s).path = s.path := by
  cases s
  rfl

@[simp] theorem keepBranch_id (path : List String) (s : Script) : (keepBranch q path s).id = s.id := by
  cases s
  rfl

@[simp] theorem keepBranch_handDown (path : List String) (s : Script) :
    (keepBranch q path s).handDown = s.handDown := by
  cases s
  rfl

@[simp] theorem keepBranch_rewrite (path : List String) (s : Script) :
    (keepBranch q path s).rewrite = if Build.onBranch q path then s.rewrite else none := by
  cases s
  rfl

theorem keepBranch_rewrite_of_onBranch {path : List String} (s : Script) (on : Build.onBranch q path = true) :
    (keepBranch q path s).rewrite = s.rewrite := by
  rw [keepBranch_rewrite, if_pos on]

theorem keepBranch_children (path : List String) (s : Script) :
    (keepBranch q path s).children = s.children.map fun c => keepBranch q (path ++ c.path) c := by
  obtain ⟨_, _, _, _, _, _, _, _, _, _, _, _, _, _, _, _, children, _, _, _, _, _, _, _⟩ := s
  show keepBranchAll q path children = _
  induction children with
  | nil => rfl
  | cons c cs ih => simp only [keepBranchAll, List.map_cons, ih]

end Keep

/-- Where a waiting node is placed: at the root, or at its parent's path
continued by its own. -/
def placedPath (a : Script) (parent : Option (List String × Option Document)) : List String :=
  parent.elim [] fun p => p.1 ++ a.path

/-- A waiting node with the rewrites off the branch of `q` removed. -/
def keepPending (q : List String) (n : Build.Pending Script) : Build.Pending Script :=
  (keepBranch q (placedPath n.1 n.2) n.1, n.2)

@[simp] theorem placedPath_keepBranch (q path : List String) (a : Script)
    (parent : Option (List String × Option Document)) :
    placedPath (keepBranch q path a) parent = placedPath a parent := by
  cases parent <;> simp [placedPath]

@[simp] theorem placement_specEdit (a : Script) (s : Session) :
    (Script.adapter.placement a s).1.specEdit = a.rewrite := rfl

/-- A scripted node is placed at its parent's path continued by its own, and
asks for its rewrite; the root asks for none. -/
theorem place_script {a : Script} {parent : Option (List String × Option Document)} {s : Session}
    {relative path : List String} {edit : Option (Mapping → Mapping)} {s₀ : Session}
    (placed : Build.place Script.adapter a parent s = (.ok (relative, path, edit), s₀)) :
    path = placedPath a parent ∧ edit = parent.elim none fun _ => a.rewrite := by
  cases parent with
  | none =>
    simp only [Build.place, Prod.mk.injEq, Except.ok.injEq] at placed
    obtain ⟨⟨-, rfl, rfl⟩, -⟩ := placed
    exact ⟨rfl, rfl⟩
  | some p =>
    by_cases empty : a.path.isEmpty
    · simp [Build.place, Script.adapter, placement, empty] at placed
    · simp only [Build.place, Script.adapter, placement, empty, Bool.false_eq_true, if_false, Prod.mk.injEq,
        Except.ok.injEq] at placed
      obtain ⟨⟨-, rfl, rfl⟩, -⟩ := placed
      exact ⟨rfl, rfl⟩

/-- A scripted build that went through builds the scripted children and hands
down the scripted value. -/
theorem build_ok {a : Script} {input : BuildInput} {session : Session} {q : AgentQueue}
    {built : Built { c : Script // c.weight < a.weight }} (ok : (build a input session q).1 = .ok built) :
    built.children = builtChildren a ∧ built.handDown = a.handDown := by
  unfold build at ok
  simp only at ok
  split at ok
  · simp at ok
  · split at ok
    · simp at ok
    · split at ok
      · simp at ok
      · split at ok
        · simp at ok
        · simp only [Except.ok.injEq] at ok
          subst ok
          exact ⟨rfl, rfl⟩

theorem builtChildren_values (a : Script) :
    (builtChildren a).map (fun e => (e.1, e.2.1)) = a.children.map fun c => (c.id, c) := by
  simp only [builtChildren, List.map_map, Function.comp_def]
  exact @List.attach_map_val _ _ a.children fun c => (c.id, c)

/-- The nodes a scripted node that passed puts in wait: its children by id,
below its path and with its hand-down. -/
theorem visit_pending {scope : Build.Scope} {a : Script} {parent : Option (List String × Option Document)}
    {w : Document} {s : Session} {v : Build.Passed Script.adapter a} {s₁ : Session}
    (visited : Build.visit Script.adapter scope a parent w s = (.ok v, s₁)) :
    v.pending = (Keyed.ofList (a.children.map fun c => (c.id, c))).map fun e => (e.2, some (v.path, a.handDown)) := by
  obtain ⟨l, s₀, built, -, result, rfl⟩ := Build.visit_passed visited
  obtain ⟨children, handDown⟩ := build_ok result
  have values : built.children.map (fun e => (e.1, e.2.1)) = a.children.map fun c => (c.id, c) := by
    rw [children]
    exact builtChildren_values a
  simp only [Build.Passed.pending, handDown]
  rw [← values]
  simp only [Keyed.ofList_map, List.map_map]
  rfl

/-- The nodes put in wait by a node with the rewrites off the branch of `q`
removed are those its original puts in wait, with the same rewrites removed. -/
theorem pending_keepBranch (q path : List String) (a : Script) :
    (Keyed.ofList ((keepBranch q path a).children.map fun c => (c.id, c))).map
        (fun e => (e.2, some (path, (keepBranch q path a).handDown))) =
      ((Keyed.ofList (a.children.map fun c => (c.id, c))).map fun e => (e.2, some (path, a.handDown))).map
        (keepPending q) := by
  have kept : (keepBranch q path a).children.map (fun c => (c.id, c)) =
      (a.children.map fun c => (c.id, c)).map fun e => (e.1, keepBranch q (path ++ e.2.path) e.2) := by
    simp [keepBranch_children, List.map_map, Function.comp_def]
  rw [kept, Keyed.ofList_map (fun e => keepBranch q (path ++ e.2.path) e.2), List.map_map, List.map_map,
    keepBranch_handDown]
  rfl

/-- A build of the scripted tree `S` visits and puts in wait only nodes of
`S`, at the paths they are placed at, and each node visited asks for its own
rewrite, if any. -/
theorem Reaches.within {S : Script} {scope : Build.Scope} {P : List (Build.Pending Script)} {w : Document}
    {s : Session} {E : List (List String × Option (Mapping → Mapping))} {P' : List (Build.Pending Script)}
    {w' : Document} {s' : Session} (reaches : Build.Reaches Script.adapter scope P w s E P' w' s')
    (waits : ∀ n ∈ P, S.Node (placedPath n.1 n.2) n.1) :
    (∀ n ∈ P', S.Node (placedPath n.1 n.2) n.1) ∧
      ∀ e ∈ E, ∃ x, S.Node e.1 x ∧ ∀ f, e.2 = some f → x.rewrite = some f := by
  induction reaches with
  | refl => exact ⟨waits, by simp⟩
  | @visit a parent rest w s relative path edit s₀ v s₁ E P' w' s' placed visited _ ih =>
    have here := waits (a, parent) List.mem_cons_self
    obtain ⟨onPath, isEdit⟩ := place_script placed
    have children : ∀ n ∈ v.pending, S.Node (placedPath n.1 n.2) n.1 := by
      rw [visit_pending visited]
      intro n mem
      obtain ⟨⟨id, c⟩, kept, rfl⟩ := List.mem_map.mp mem
      obtain ⟨c', child, same⟩ := List.mem_map.mp (Keyed.mem_ofList kept)
      simp only [Prod.mk.injEq] at same
      obtain ⟨-, rfl⟩ := same
      rw [placedPath, Option.elim_some, (Build.visit_placed placed visited).1, onPath]
      exact .child here child
    obtain ⟨waiting, asked⟩ :=
      ih fun n mem => (List.mem_append.mp mem).elim (children n) fun later => waits n (List.mem_cons_of_mem _ later)
    refine ⟨waiting, fun e mem => ?_⟩
    rcases List.mem_cons.mp mem with rfl | later
    · refine ⟨a, onPath ▸ here, fun f same => ?_⟩
      rw [isEdit] at same
      cases parent with
      | none => cases same
      | some p => exact same
    · exact asked e later

/-- A build of the script with the rewrites off the branch of `q` removed
visits, step by step, the counterparts of the nodes the original visits, and
asks for the same edits on the branch of `q`. -/
theorem Reaches.keepBranch (q : List String) {scope : Build.Scope} {P : List (Build.Pending Script)} {w : Document}
    {s : Session} {E : List (List String × Option (Mapping → Mapping))} {P₁ : List (Build.Pending Script)}
    {w₁ : Document} {s₁ : Session} (reaches : Build.Reaches Script.adapter scope P w s E P₁ w₁ s₁) :
    ∀ {P' : List (Build.Pending Script)} {w' : Document} {s' : Session}
      {E' : List (List String × Option (Mapping → Mapping))} {P₁' : List (Build.Pending Script)} {w₁' : Document}
      {s₁' : Session}, P' = P.map (keepPending q) → Build.Reaches Script.adapter scope P' w' s' E' P₁' w₁' s₁' →
      E'.length = E.length →
      E'.filter (fun e => Build.onBranch q e.1) = E.filter (fun e => Build.onBranch q e.1) ∧
        P₁' = P₁.map (keepPending q) := by
  induction reaches with
  | refl =>
    intro P' w' s' E' P₁' w₁' s₁' kept stripped same
    cases stripped with
    | refl => exact ⟨rfl, kept⟩
    | visit => simp at same
  | @visit a parent rest w s relative path edit s₀ v s₁ E P₁ w₁ s₁ placed visited _ ih =>
    intro P' w' s' E' P₁' w₁' s₁' kept stripped same
    cases stripped with
    | refl => simp at same
    | @visit a' parent' rest' _ _ relative' path' edit' _ v' _ E' _ _ _ placed' visited' later' =>
      simp only [List.map_cons, keepPending, List.cons.injEq, Prod.mk.injEq] at kept
      obtain ⟨⟨rfl, rfl⟩, rfl⟩ := kept
      obtain ⟨onPath, isEdit⟩ := place_script placed
      obtain ⟨onPath', isEdit'⟩ := place_script placed'
      have samePath : path' = path := by rw [onPath', placedPath_keepBranch, onPath]
      have waiting : v'.pending ++ rest.map (keepPending q) = (v.pending ++ rest).map (keepPending q) := by
        rw [visit_pending visited', visit_pending visited, (Build.visit_placed placed visited).1,
          (Build.visit_placed placed' visited').1, samePath, ← onPath, pending_keepBranch, List.map_append]
      obtain ⟨filtered, tops⟩ := ih waiting later' (by simpa using same)
      refine ⟨?_, tops⟩
      rw [samePath]
      cases on : Build.onBranch q path
      · simp [on, filtered]
      · have sameEdit : edit' = edit := by
          rw [isEdit', isEdit, ← onPath, keepBranch_rewrite_of_onBranch q a on]
        simp [on, filtered, sameEdit]

/-- A spec rewrite reaches only the nodes on its own branch. Take a build of
a scripted tree `S` from the desired document `D`, and a node `m` it locates
at path `q` after visiting the nodes whose paths and edits `E` lists, where
every node of `S` on the branch of `q` rewrites its spec key by key. Then
`m`'s desired node document is `D` with the rewrites of the nodes on the
branch of `q` made one after the other, those visited before `m` first and
`m`'s own last: the rewrite of a node above `m` built before it is seen, a
rewrite off the branch is not. The build of the same tree with the rewrites of
every node off the branch of `q` removed, if it visits as many nodes and
locates the next one, locates `m`'s counterpart and gives it the same desired
node document. -/
theorem rewrites_stay_on_branch (S : Script) (D current : Document) (capacity : Nat) (s₀ : Session)
    {E : List (List String × Option (Mapping → Mapping))} {m : Script} {parent : Option (List String × Option Document)}
    {rest : List (Build.Pending Script)} {w : Document} {s : Session} {l : Build.Located} {s₁ : Session}
    (reaches : Build.Reaches Script.adapter ⟨current, capacity⟩ [(S, none)] D s₀ E ((m, parent) :: rest) w s)
    (located : Build.locate Script.adapter ⟨current, capacity⟩ m parent w s = (.ok l, s₁))
    (keyWise : ∀ p x, S.Node p x → Build.onBranch l.path p = true → ∀ f, x.rewrite = some f → Document.KeyWise f) :
    (∃ edit w₀, (∃ s', Build.place Script.adapter m parent s = (.ok (l.relative, l.path, edit), s')) ∧
      Build.replay ((E ++ [(l.path, edit)]).filter fun e => Build.onBranch l.path e.1) D = .ok w₀ ∧
      w₀.navigate l.path .desired = .ok l.input.desired) ∧
    ∀ (E' : List (List String × Option (Mapping → Mapping))) (m' : Script)
      (parent' : Option (List String × Option Document)) (rest' : List (Build.Pending Script)) (w' : Document)
      (s' : Session) (l' : Build.Located) (s₁' : Session),
      Build.Reaches Script.adapter ⟨current, capacity⟩ [(S.keepBranch l.path [], none)] D s₀ E' ((m', parent') :: rest')
        w' s' →
      E'.length = E.length → Build.locate Script.adapter ⟨current, capacity⟩ m' parent' w' s' = (.ok l', s₁') →
      m' = m.keepBranch l.path l.path ∧ l'.input.desired = l.input.desired := by
  obtain ⟨waiting, asked⟩ := Reaches.within reaches (by simpa [placedPath] using Node.root)
  obtain ⟨edit, s₂, placed, -, -⟩ := Build.locate_ok located
  have onPath : l.path = placedPath m parent := (place_script placed).1
  have edits : ∀ e ∈ E, Build.onBranch l.path e.1 = true → ∀ f, e.2 = some f → Document.KeyWise f := by
    intro e mem on f same
    obtain ⟨x, node, rewrite⟩ := asked e mem
    exact keyWise e.1 x node on f (rewrite f same)
  have own : ∀ f, m.rewrite = some f → Document.KeyWise f :=
    keyWise l.path m (onPath ▸ waiting (m, parent) List.mem_cons_self) (Build.onBranch_self l.path)
  have replays := Build.desired_replays reaches located edits fun f same => own f (by simpa using same)
  refine ⟨replays, fun E' m' parent' rest' w' s' l' s₁' stripped same located' => ?_⟩
  obtain ⟨edit, w₀, ⟨_, placed⟩, replayed, navigated⟩ := replays
  obtain ⟨filtered, tops⟩ := Reaches.keepBranch l.path reaches rfl stripped same
  simp only [List.map_cons, keepPending, List.cons.injEq, Prod.mk.injEq] at tops
  obtain ⟨⟨rfl, sameParent⟩, -⟩ := tops
  subst parent'
  obtain ⟨_, _, placed', -, -⟩ := Build.locate_ok located'
  have samePath : l'.path = l.path := by
    rw [(place_script placed').1, placedPath_keepBranch, onPath]
  have edits' : ∀ e ∈ E', Build.onBranch l'.path e.1 = true → ∀ f, e.2 = some f → Document.KeyWise f := by
    intro e mem on
    rw [samePath] at on
    have kept : e ∈ E.filter fun e => Build.onBranch l.path e.1 := by
      rw [← filtered]
      exact List.mem_filter.mpr ⟨mem, on⟩
    exact edits e (List.mem_filter.mp kept).1 on
  have own' : ∀ f, (Script.adapter.placement (m.keepBranch l.path (placedPath m parent)) s').1.specEdit = some f →
      Document.KeyWise f := by
    intro f same
    rw [placement_specEdit, ← onPath, keepBranch_rewrite_of_onBranch _ m (Build.onBranch_self l.path)] at same
    exact own f same
  obtain ⟨edit', w₀', ⟨_, placed''⟩, replayed', navigated'⟩ := Build.desired_replays stripped located' edits' own'
  obtain ⟨-, isEdit'⟩ := place_script placed''
  obtain ⟨-, isEdit⟩ := place_script placed
  have sameEdit : edit' = edit := by
    rw [isEdit', isEdit, ← onPath, keepBranch_rewrite_of_onBranch _ m (Build.onBranch_self l.path)]
  refine ⟨by rw [← onPath], ?_⟩
  rw [samePath, sameEdit, List.filter_append, filtered, ← List.filter_append, replayed] at replayed'
  cases replayed'
  rw [samePath, navigated] at navigated'
  exact (Except.ok.inj navigated').symm

/-! ## Scripted trees with rewrites -/

/-- A leaf `m` at `c`. -/
def leafAtC : Script := { name := "m", id := "m", path := ["c"], kind := "k", version := "v1", state := .null }

/-- A node at `x` that sets its spec's entry `c` to a spec with a port, over
`leafAtC`. -/
def portNode : Script :=
  { name := "x", id := "x", path := ["x"], kind := "k", version := "v1", state := .null,
    rewrite := some (SpecEdit.applyAll [.set "c" (.object [("spec", .object [("port", .nat 8080)])])]),
    children := [leafAtC] }

/-- A root over `portNode`. -/
def portRoot : Script :=
  { name := "root", id := "root", path := [], kind := "k", version := "v1", state := .null, children := [portNode] }

theorem portRoot_node {p : List String} {x : Script} (node : portRoot.Node p x) :
    x = portRoot ∨ x = portNode ∨ x = leafAtC := by
  induction node with
  | root => exact .inl rfl
  | child _ mem ih => rcases ih with rfl | rfl | rfl <;> simp_all [portRoot, portNode, leafAtC]

/-- The leaf below `portNode` reads the spec the node's rewrite set. -/
theorem port_rewrite_reaches_leaf :
    ∃ E rest w s l s₁,
      Build.Reaches Script.adapter ⟨.null, 8⟩ [(portRoot, none)] (.object [("spec", .object [("x", .object [])])]) {}
        E ((leafAtC, some (["x"], none)) :: rest) w s ∧
      Build.locate Script.adapter ⟨.null, 8⟩ leafAtC (some (["x"], none)) w s = (.ok l, s₁) ∧
      (∀ p x, portRoot.Node p x → Build.onBranch l.path p = true → ∀ f, x.rewrite = some f → Document.KeyWise f) ∧
      l.input.desired = .object [("spec", .object [("port", .nat 8080)])] ∧
      ((∃ edit w₀, (∃ s', Build.place Script.adapter leafAtC (some (["x"], none)) s =
          (.ok (l.relative, l.path, edit), s')) ∧
        Build.replay ((E ++ [(l.path, edit)]).filter fun e => Build.onBranch l.path e.1)
          (.object [("spec", .object [("x", .object [])])]) = .ok w₀ ∧
        w₀.navigate l.path .desired = .ok l.input.desired) ∧
      ∀ (E' : List (List String × Option (Mapping → Mapping))) (m' : Script)
        (parent' : Option (List String × Option Document)) (rest' : List (Build.Pending Script)) (w' : Document)
        (s' : Session) (l' : Build.Located) (s₁' : Session),
        Build.Reaches Script.adapter ⟨.null, 8⟩ [(portRoot.keepBranch l.path [], none)]
          (.object [("spec", .object [("x", .object [])])]) {} E' ((m', parent') :: rest') w' s' →
        E'.length = E.length → Build.locate Script.adapter ⟨.null, 8⟩ m' parent' w' s' = (.ok l', s₁') →
        m' = leafAtC.keepBranch l.path l.path ∧ l'.input.desired = l.input.desired) := by
  have keyWise : ∀ p x, portRoot.Node p x → ∀ f, x.rewrite = some f → Document.KeyWise f := by
    intro p x node f rewrite
    rcases portRoot_node node with rfl | rfl | rfl
    · cases rewrite
    · cases rewrite
      exact SpecEdit.applyAll_keyWise _
    · cases rewrite
  refine ⟨_, _, _, _, _, _, .visit rfl rfl (.visit rfl rfl (.refl _ _ _)), rfl, fun p x node _ => keyWise p x node,
    rfl, ?_⟩
  exact rewrites_stay_on_branch portRoot _ .null 8 {} (.visit rfl rfl (.visit rfl rfl (.refl _ _ _))) rfl
    fun p x node _ => keyWise p x node

/-- Copies the spec's entry `a` to `c`, if there is one. -/
def copyEntry (spec : Mapping) : Mapping :=
  match Keyed.get? "a" spec with
  | some v => Keyed.insert "c" v spec
  | none => spec

/-- A root over a leaf at `x/a` that sets `v` in its spec, and a node at `x`
that copies its spec's entry `a` to `c`, over `leafAtC`. -/
def copyingRoot : Script :=
  { name := "root", id := "root", path := [], kind := "k", version := "v1", state := .null,
    children := [
      { name := "n", id := "a", path := ["x", "a"], kind := "k", version := "v1", state := .null,
        rewrite := some (SpecEdit.set "v" (.nat 1)).apply },
      { name := "x", id := "b", path := ["x"], kind := "k", version := "v1", state := .null,
        rewrite := some copyEntry, children := [leafAtC] }] }

/-- A root over a node at `x` that sets its spec's entry `y`, with a leaf at
`y` below it, and a leaf `m` at `z`. -/
def creatingRoot : Script :=
  { name := "root", id := "root", path := [], kind := "k", version := "v1", state := .null,
    children := [
      { name := "n", id := "a", path := ["x"], kind := "k", version := "v1", state := .null,
        rewrite := some (SpecEdit.set "y" (.object [])).apply,
        children := [{ name := "c", id := "c", path := ["y"], kind := "k", version := "v1", state := .null }] },
      { name := "m", id := "b", path := ["z"], kind := "k", version := "v1", state := .null }] }

/-- Rewrites off the branch of a node `m` can reach it. A rewrite on the
branch that copies one key's entry to another carries an edit made off the
branch: `m` at `x/c` reads `v` set by the node at `x/a`, and reads an empty
document once that node's rewrite is removed. And a rewrite off the branch
can create the entry a later node needs: once the rewrite of the node at `x`
is removed, the build stops at its child and never gets to `m` at `z`. -/
theorem offBranch_rewrites_matter :
    ((Reconcile.build Script.adapter copyingRoot (.object [("spec", .object [("x", .object [("spec", .object [("a", .object [])])])])])
        .null 8 {}).2.log.filter fun line => line.startsWith "desired:m:") =
      ["desired:m:\x7b\"spec\":\x7b\"v\":1\x7d\x7d"] ∧
    ((Reconcile.build Script.adapter (copyingRoot.keepBranch ["x", "c"] [])
        (.object [("spec", .object [("x", .object [("spec", .object [("a", .object [])])])])]) .null 8 {}).2.log.filter
        fun line => line.startsWith "desired:m:") = ["desired:m:\x7b\x7d"] ∧
    ((Reconcile.build Script.adapter creatingRoot
        (.object [("spec", .object [("x", .object []), ("z", .object [("spec", .object [("k", .nat 1)])])])])
        .null 8 {}).2.log.filter fun line => line.startsWith "desired:m:") =
      ["desired:m:\x7b\"spec\":\x7b\"k\":1\x7d\x7d"] ∧
    ((Reconcile.build Script.adapter (creatingRoot.keepBranch ["z"] [])
        (.object [("spec", .object [("x", .object []), ("z", .object [("spec", .object [("k", .nat 1)])])])])
        .null 8 {}).2.log.filter fun line => line.startsWith "desired:m:") = [] := by
  unfold Reconcile.build
  unfold Build.node
  unfold Build.node
  unfold Build.node
  decide +kernel

end Script

end Reconcile
