import Reconcile.Proofs.BuildAgain
import Reconcile.Proofs.Mailbox

/-!
# Building as a pre-order expansion

A build visits its nodes root first, then each node's children in id order,
all over one working copy of the desired document, and stops at the first
node whose checks fail. Stated as a machine: a stack of nodes waiting to be
built, where the node on top is visited (`Build.visit`); a node that fails
stops the expansion with its failure, and one that passes puts its children,
in id order, on top of the rest (`Build.Expands`). The build's outcome is the
machine's (`build_preorder`).

Visiting a node checks, in order: its placement, its spec edit on the working
copy, the strict navigation to its desired document and the lenient lookup of
its current slice (`Build.locate`); then its adapter builds into a fresh
queue, and the queue's overflow fails the node whatever the adapter answered,
before a refused build does (`Build.settle`). A build that pushed more
changes than the queue holds fails with the first push refused.
-/

namespace Reconcile

variable {α : Type}

namespace Build

/-- Goes on with `k` from a step that passed; a failed step stops there. -/
def andThen {β γ : Type} (x : Except BuildError β × Session) (k : β → Session → Except BuildError γ × Session) :
    Except BuildError γ × Session :=
  match x with
  | (.error e, s) => (.error e, s)
  | (.ok b, s) => k b s

/-- Where a node goes and what its adapter builds from. -/
structure Located where
  relative : List String
  path : List String
  /-- The working copy after the node's spec edit. -/
  working : Document
  input : BuildInput

/-- A node's checks before its adapter builds, in order: its placement, its
spec edit on the working copy, the strict navigation to its desired document
and the lenient lookup of its current slice. -/
def locate (A : Adapter α) (scope : Scope) (a : α) (parent : Option (List String × Option Document))
    (working : Document) (s : Session) : Except BuildError Located × Session :=
  let identity := A.identity a
  match place A a parent s with
  | (.error e, s) => (.error e, s)
  | (.ok (relative, path, edit), s) =>
    let here := Path.format path
    match applyEdit working path edit with
    | .error e => (.error (.navigation identity here "desired" e), s)
    | .ok working =>
      match working.navigate path .desired with
      | .error e => (.error (.navigation identity here "desired" e), s)
      | .ok desired =>
        match scope.current.lookup path .current with
        | .error e => (.error (.navigation identity here "current" e), s)
        | .ok found =>
          let handedDown := match parent with
            | some (_, h) => h
            | none => none
          (.ok ⟨relative, path, working, ⟨desired, ⟨path, found.getD .null⟩, handedDown⟩⟩, s)

/-- What a node that passed its checks hands on. -/
structure Passed (A : Adapter α) (a : α) where
  relative : List String
  path : List String
  working : Document
  built : Built { c : α // A.rank c < A.rank a }
  queue : AgentQueue

/-- What the node's adapter answered, checked: an overflowed queue fails the
node whatever the adapter answered, then a refused build does. -/
def settle (A : Adapter α) (a : α) (l : Located) :
    Except Fault (Built { c : α // A.rank c < A.rank a }) × Session × AgentQueue → Except BuildError (Passed A a) × Session
  | (result, s, queue) =>
    match queue.overflow with
    | some e => (.error (.agent (A.identity a) (Path.format l.path) e), s)
    | none =>
      match result with
      | .error f => (.error (.adapter (A.identity a) (Path.format l.path) f), s)
      | .ok built => (.ok ⟨l.relative, l.path, l.working, built, queue⟩, s)

section Settle

variable {A : Adapter α} {a : α} {l : Located}
  {answer : Except Fault (Built { c : α // A.rank c < A.rank a }) × Session × AgentQueue}

theorem settle_overflow {e : AgentError} (overflowed : answer.2.2.overflow = some e) :
    settle A a l answer = (.error (.agent (A.identity a) (Path.format l.path) e), answer.2.1) := by
  obtain ⟨result, s, queue⟩ := answer
  simp [settle, overflowed]

theorem settle_refused {f : Fault} (fits : answer.2.2.overflow = none) (refused : answer.1 = .error f) :
    settle A a l answer = (.error (.adapter (A.identity a) (Path.format l.path) f), answer.2.1) := by
  obtain ⟨result, s, queue⟩ := answer
  simp only at fits refused
  simp [settle, fits, refused]

theorem settle_built {built : Built { c : α // A.rank c < A.rank a }} (fits : answer.2.2.overflow = none)
    (accepted : answer.1 = .ok built) :
    settle A a l answer = (.ok ⟨l.relative, l.path, l.working, built, answer.2.2⟩, answer.2.1) := by
  obtain ⟨result, s, queue⟩ := answer
  simp only at fits accepted
  simp [settle, fits, accepted]

end Settle

/-- One node's visit: its checks, then its adapter's build into a fresh queue,
checked. -/
def visit (A : Adapter α) (scope : Scope) (a : α) (parent : Option (List String × Option Document))
    (working : Document) (s : Session) : Except BuildError (Passed A a) × Session :=
  andThen (locate A scope a parent working s) fun l s =>
    settle A a l (A.build a l.input s (AgentQueue.create scope.capacity))

/-- The subtree a node that passed grows: its children built one after the
other, in id order, from the working copy, the first failure stopping the
rest. -/
def grow (A : Adapter α) (scope : Scope) (a : α) (v : Passed A a) (s : Session) :
    Except BuildError (Tree α × Document) × Session :=
  match (Keyed.ofList v.built.children).foldl
      (childStep fun c w s => node A scope c.1 (some (v.path, v.built.handDown)) w s) (.ok ([], v.working), s) with
  | (.error e, s) => (.error e, s)
  | (.ok (children, w), s) =>
    (.ok ({ path := v.path, relative := v.relative, identity := A.identity a, adapter := a, kind := v.built.kind,
            version := v.built.version, queue := v.queue, children }, w), s)

/-- Building a node is visiting it, then growing its children. -/
theorem node_eq (A : Adapter α) (scope : Scope) (a : α) (parent : Option (List String × Option Document))
    (w : Document) (s : Session) : node A scope a parent w s = andThen (visit A scope a parent w s) (grow A scope a) := by
  rw [node.eq_def]
  simp only [visit, locate, andThen]
  rcases place A a parent s with ⟨_ | ⟨relative, path, edit⟩, s₁⟩
  · rfl
  dsimp only
  rcases applyEdit w path edit with _ | working
  · rfl
  dsimp only
  rcases working.navigate path .desired with _ | desired
  · rfl
  dsimp only
  rcases scope.current.lookup path .current with _ | found
  · rfl
  dsimp only
  -- the hand-down is read off the parent alike on both sides once the parent is known;
  -- `settle` stays folded, so that only the node's own matches are split
  rcases parent with _ | ⟨parentPath, handedDown⟩
  all_goals
    dsimp only
    split
    · rename_i e overflowed
      rw [settle_overflow overflowed]
    · rename_i overflowed
      split
      · rename_i f refused
        rw [settle_refused overflowed refused]
      · rename_i built accepted
        rw [settle_built overflowed accepted]
        rfl

/-- A build that pushed more changes than its fresh queue holds fails the
node with the first push refused, whatever the adapter answered; one that did
not and was refused fails the node with the adapter's fault. -/
theorem settle_pushAll (A : Adapter α) (a : α) (l : Located) (result : Except Fault (Built { c : α // A.rank c < A.rank a }))
    (s : Session) (capacity : Nat) (pushes : List AgentChange) :
    (∀ p, pushes[capacity]? = some p → settle A a l (result, s, (AgentQueue.create capacity).pushAll pushes) =
      (.error (.agent (A.identity a) (Path.format l.path) (.queueFull (Path.format p.path) capacity)), s)) ∧
    (pushes[capacity]? = none → ∀ f, result = .error f →
      settle A a l (result, s, (AgentQueue.create capacity).pushAll pushes) =
        (.error (.adapter (A.identity a) (Path.format l.path) f), s)) := by
  obtain ⟨-, overflowIs⟩ := AgentQueue.pushAll_create capacity pushes
  refine ⟨fun p refused => ?_, fun room f failed => ?_⟩
  · simp [settle, overflowIs, refused]
  · simp [settle, overflowIs, room, failed]

theorem childStep_of_error {β : Type} (child : β → Document → Session → Except BuildError (Tree α × Document) × Session)
    {entry : String × β} {done : List (String × Tree α)} {w : Document} {s : Session} {e : BuildError} {s' : Session}
    (h : child entry.2 w s = (.error e, s')) : childStep child (.ok (done, w), s) entry = (.error e, s') := by
  simp [childStep, h]

theorem childStep_of_ok {β : Type} (child : β → Document → Session → Except BuildError (Tree α × Document) × Session)
    {entry : String × β} {done : List (String × Tree α)} {w : Document} {s : Session} {t : Tree α} {w' : Document}
    {s' : Session} (h : child entry.2 w s = (.ok (t, w'), s')) :
    childStep child (.ok (done, w), s) entry = (.ok (done ++ [(entry.1, t)], w'), s') := by
  simp [childStep, h]

/-- A node's checked build goes where it was located, and leaves the queue
its adapter built, which did not overflow. -/
theorem settle_ok {A : Adapter α} {a : α} {l : Located}
    {answer : Except Fault (Built { c : α // A.rank c < A.rank a }) × Session × AgentQueue} {v : Passed A a}
    {s : Session} (h : settle A a l answer = (.ok v, s)) :
    v.path = l.path ∧ v.queue = answer.2.2 ∧ v.queue.overflow = none := by
  obtain ⟨result, s', queue⟩ := answer
  cases overflowed : queue.overflow with
  | some e => simp [settle, overflowed] at h
  | none =>
    cases result with
    | error f => simp [settle, overflowed] at h
    | ok built =>
      simp only [settle, overflowed, Prod.mk.injEq, Except.ok.injEq] at h
      obtain ⟨rfl, -⟩ := h
      exact ⟨rfl, rfl, overflowed⟩

/-- A node that passed its visit was located, and its adapter built from the
located input into a fresh queue, which did not overflow. -/
theorem visit_ok {A : Adapter α} {scope : Scope} {a : α} {parent : Option (List String × Option Document)}
    {w : Document} {s : Session} {v : Passed A a} {s₁ : Session} (h : visit A scope a parent w s = (.ok v, s₁)) :
    ∃ l s₀, locate A scope a parent w s = (.ok l, s₀) ∧ v.path = l.path ∧
      v.queue = (A.build a l.input s₀ (AgentQueue.create scope.capacity)).2.2 ∧ v.queue.overflow = none := by
  unfold visit at h
  rcases located : locate A scope a parent w s with ⟨_ | l, s₀⟩
  · rw [located] at h
    cases h
  · rw [located] at h
    exact ⟨l, s₀, rfl, settle_ok h⟩

/-- A node that built passed its visit, which gave it its path and queue. -/
theorem node_visit_ok {A : Adapter α} {scope : Scope} {a : α} {parent : Option (List String × Option Document)}
    {w : Document} {s : Session} {t : Tree α} {w' : Document} {s' : Session}
    (h : node A scope a parent w s = (.ok (t, w'), s')) :
    ∃ v s₁, visit A scope a parent w s = (.ok v, s₁) ∧ t.path = v.path ∧ t.queue = v.queue := by
  rw [node_eq] at h
  rcases visited : visit A scope a parent w s with ⟨_ | v, s₁⟩
  · rw [visited] at h
    cases h
  · rw [visited] at h
    refine ⟨v, s₁, rfl, ?_⟩
    simp only [andThen, grow] at h
    split at h
    · cases h
    · simp only [Prod.mk.injEq, Except.ok.injEq] at h
      obtain ⟨⟨rfl, -⟩, -⟩ := h
      exact ⟨rfl, rfl⟩

theorem node_visits {A : Adapter α} {scope : Scope} (a : α) (parent : Option (List String × Option Document))
    (w : Document) (s : Session) {t : Tree α} {w' : Document} {s' : Session}
    (h : node A scope a parent w s = (.ok (t, w'), s')) :
    ∀ x ∈ t.nodes, ∃ parent w s v s₁, visit A scope x.adapter parent w s = (.ok v, s₁) ∧
      x.path = v.path ∧ x.queue = v.queue := by
  obtain ⟨edit, s₁, found, input, s₂, built, -, -, -, -, adapter, children⟩ := node_ok h
  intro x hx
  rcases Tree.mem_nodes.mp hx with rfl | ⟨e, mem, inside⟩
  · rw [adapter]
    obtain ⟨v, s₁, visited, path, queue⟩ := node_visit_ok h
    exact ⟨parent, w, s, v, s₁, visited, path, queue⟩
  · obtain ⟨entry, -, w, s, w', s', call⟩ := children e mem
    exact node_visits entry.2.1 _ w s call x inside
termination_by A.rank a
decreasing_by exact entry.2.2

/-! ## The expansion -/

/-- A node waiting to be built: the adapter's node, and its parent's path and
hand-down, none for the root. -/
abbrev Pending (α : Type) := α × Option (List String × Option Document)

/-- The children a node that passed puts in wait, in id order. -/
def Passed.pending {A : Adapter α} {a : α} (v : Passed A a) : List (Pending α) :=
  (Keyed.ofList v.built.children).map fun e => (e.2.1, some (v.path, v.built.handDown))

/-- The pre-order expansion of the nodes waiting to be built, over one working
copy of the desired document and one session: the node on top is visited; one
that fails ends the expansion with its failure, one that passes puts its
children on top of the rest. The outcome is the working copy at the end, or
the failure, with the session. -/
inductive Expands (A : Adapter α) (scope : Scope) :
    List (Pending α) → Document → Session → Except BuildError Document × Session → Prop
  | done (w : Document) (s : Session) : Expands A scope [] w s (.ok w, s)
  | fail {a : α} {parent : Option (List String × Option Document)} {rest : List (Pending α)} {w : Document}
      {s : Session} {e : BuildError} {s' : Session} :
      visit A scope a parent w s = (.error e, s') → Expands A scope ((a, parent) :: rest) w s (.error e, s')
  | next {a : α} {parent : Option (List String × Option Document)} {rest : List (Pending α)} {w : Document}
      {s : Session} {v : Passed A a} {s' : Session} {r : Except BuildError Document × Session} :
      visit A scope a parent w s = (.ok v, s') → Expands A scope (v.pending ++ rest) v.working s' r →
      Expands A scope ((a, parent) :: rest) w s r

/-- Where an outcome leads an expansion: a failure ends it there, a pass goes
on as `k` says. -/
def Leads {β : Type} (x : Except BuildError β × Session) (k : β → Session → Prop)
    (r : Except BuildError Document × Session) : Prop :=
  match x with
  | (.error e, s) => r = (.error e, s)
  | (.ok b, s) => k b s

@[simp] theorem leads_error {β : Type} (e : BuildError) (s : Session) (k : β → Session → Prop)
    (r : Except BuildError Document × Session) : Leads (.error e, s) k r ↔ r = (.error e, s) := Iff.rfl

@[simp] theorem leads_ok {β : Type} (b : β) (s : Session) (k : β → Session → Prop)
    (r : Except BuildError Document × Session) : Leads (.ok b, s) k r ↔ k b s := Iff.rfl

theorem leads_andThen {β γ : Type} (x : Except BuildError β × Session) (f : β → Session → Except BuildError γ × Session)
    (k : γ → Session → Prop) (r : Except BuildError Document × Session) :
    Leads (andThen x f) k r ↔ Leads x (fun b s => Leads (f b s) k r) r := by
  rcases x with ⟨_ | b, s⟩ <;> rfl

theorem leads_grow (A : Adapter α) (scope : Scope) (a : α) (v : Passed A a) (s : Session)
    (K : Document → Session → Prop) (r : Except BuildError Document × Session) :
    Leads (grow A scope a v s) (fun tw s' => K tw.2 s') r ↔
      Leads ((Keyed.ofList v.built.children).foldl
        (childStep fun c w s => node A scope c.1 (some (v.path, v.built.handDown)) w s) (.ok ([], v.working), s))
        (fun cw s' => K cw.2 s') r := by
  unfold grow
  rcases (Keyed.ofList v.built.children).foldl _ _ with ⟨_ | ⟨children, w⟩, s'⟩ <;> rfl

theorem expands_nil {A : Adapter α} {scope : Scope} {w : Document} {s : Session}
    {r : Except BuildError Document × Session} : Expands A scope [] w s r ↔ r = (.ok w, s) := by
  constructor
  · intro h
    cases h
    rfl
  · rintro rfl
    exact .done w s

/-- The expansion visits the node on top, and goes on from where the visit
leads. -/
theorem expands_cons {A : Adapter α} {scope : Scope} {a : α} {parent : Option (List String × Option Document)}
    {rest : List (Pending α)} {w : Document} {s : Session} {r : Except BuildError Document × Session} :
    Expands A scope ((a, parent) :: rest) w s r ↔
      Leads (visit A scope a parent w s) (fun v s' => Expands A scope (v.pending ++ rest) v.working s' r) r := by
  constructor
  · intro h
    cases h with
    | fail visited => rw [visited]; rfl
    | next visited later => rw [visited]; exact later
  · rcases visited : visit A scope a parent w s with ⟨_ | v, s'⟩
    · rintro rfl
      exact .fail visited
    · exact .next visited

/-- Expanding a node on top of other waiting nodes is building the node's
subtree, then going on with the rest from the working copy and session it
leaves; a failure in the subtree ends the expansion. -/
theorem node_expands (A : Adapter α) (scope : Scope) (a : α) (parent : Option (List String × Option Document))
    (w : Document) (s : Session) (rest : List (Pending α)) (r : Except BuildError Document × Session) :
    Expands A scope ((a, parent) :: rest) w s r ↔
      Leads (node A scope a parent w s) (fun tw s' => Expands A scope rest tw.2 s' r) r := by
  rw [expands_cons, node_eq, leads_andThen]
  rcases visit A scope a parent w s with ⟨_ | v, s₁⟩
  · rfl
  rw [leads_ok, leads_ok, leads_grow A scope a v s₁ (fun w' s' => Expands A scope rest w' s' r)]
  have children : ∀ (l : List (String × { c : α // A.rank c < A.rank a })) (done : List (String × Tree α))
      (w : Document) (s : Session),
      Expands A scope (l.map (fun e => (e.2.1, some (v.path, v.built.handDown))) ++ rest) w s r ↔
        Leads (l.foldl (childStep fun c w s => node A scope c.1 (some (v.path, v.built.handDown)) w s)
          (.ok (done, w), s)) (fun cw s' => Expands A scope rest cw.2 s' r) r := by
    intro l
    induction l with
    | nil => intro done w s; rfl
    | cons entry l ih =>
      intro done w s
      rw [List.map_cons, List.cons_append, node_expands A scope entry.2.1, List.foldl_cons]
      rcases built : node A scope entry.2.1 (some (v.path, v.built.handDown)) w s with ⟨_ | ⟨t, w'⟩, s'⟩
      · rw [childStep_of_error _ built, foldl_childStep_error]
        rfl
      · rw [childStep_of_ok _ built]
        exact ih _ w' s'
  exact children _ [] v.working s₁
termination_by A.rank a
decreasing_by exact entry.2.2

end Build

/-- Building a tree is expanding its nodes in pre-order from the root, over one
working copy of the desired document: the build fails with a failure, and
leaves a session, exactly when the expansion ends so, that is at the first
node in pre-order whose checks fail, no later node being visited; and it
succeeds exactly when the expansion runs out of nodes. At every node, a build
that pushed more changes than the queue holds fails the node with the first
push refused, whatever the adapter answered; one that did not and was refused
fails it with the adapter's fault. -/
theorem build_preorder (A : Adapter α) (root : α) (desired current : Document) (capacity : Nat) (s : Session) :
    (∀ e s', build A root desired current capacity s = (.error e, s') ↔
      Build.Expands A ⟨current, capacity⟩ [(root, none)] desired s (.error e, s')) ∧
    (∀ s', (∃ t, build A root desired current capacity s = (.ok t, s')) ↔
      ∃ w, Build.Expands A ⟨current, capacity⟩ [(root, none)] desired s (.ok w, s')) ∧
    ∀ (a : α) parent w s₀ l s₁, Build.locate A ⟨current, capacity⟩ a parent w s₀ = (.ok l, s₁) →
      ∀ result s₂ pushes, A.build a l.input s₁ (AgentQueue.create capacity) =
        (result, s₂, (AgentQueue.create capacity).pushAll pushes) →
        (∀ p, pushes[capacity]? = some p → Build.visit A ⟨current, capacity⟩ a parent w s₀ =
          (.error (.agent (A.identity a) (Path.format l.path) (.queueFull (Path.format p.path) capacity)), s₂)) ∧
        (pushes[capacity]? = none → ∀ f, result = .error f → Build.visit A ⟨current, capacity⟩ a parent w s₀ =
          (.error (.adapter (A.identity a) (Path.format l.path) f), s₂)) := by
  have whole : ∀ r, Build.Expands A ⟨current, capacity⟩ [(root, none)] desired s r ↔
      Build.Leads (Build.node A ⟨current, capacity⟩ root none desired s) (fun tw s' => r = (.ok tw.2, s')) r := by
    intro r
    rw [Build.node_expands]
    simp only [Build.expands_nil]
  refine ⟨fun e s' => ?_, fun s' => ?_, ?_⟩
  · rw [whole]
    unfold build
    rcases Build.node A ⟨current, capacity⟩ root none desired s with ⟨_ | ⟨t, w⟩, s''⟩ <;> simp [eq_comm]
  · simp only [whole]
    unfold build
    rcases Build.node A ⟨current, capacity⟩ root none desired s with ⟨_ | ⟨t, w⟩, s''⟩ <;> simp [eq_comm]
  · intro a parent w s₀ l s₁ located result s₂ pushes built
    have visited : Build.visit A ⟨current, capacity⟩ a parent w s₀ =
        Build.settle A a l (result, s₂, (AgentQueue.create capacity).pushAll pushes) := by
      simp only [Build.visit, located, Build.andThen, built]
    rw [visited]
    exact Build.settle_pushAll A a l result s₂ capacity pushes

end Reconcile
