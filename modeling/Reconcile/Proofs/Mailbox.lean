import Reconcile.Agent.Queue

/-!
# The agent queue as a bounded mailbox

A session on one agent queue is a list of calls: pushes, drains, and the
queries `len`, `is_empty`, `is_closed` and `overflow`, each answered in turn
(`AgentQueue.serve`). Over any session started on a fresh queue
(`bounded_mailbox`):

* a push is taken in exactly when the queue is open and has room, so the
  queue never holds more than its capacity;
* the first drain closes the queue for good: later pushes are refused as
  closed and later drains hand out nothing;
* the drains hand out exactly the accepted pushes, in push order, with what
  is still queued after them;
* `overflow` reports the first push refused for lack of room from then on,
  and nothing while there was none; a push refused as closed never counts.
-/

namespace Reconcile

namespace AgentQueue

/-- A call on an agent queue. -/
inductive Call where
  | push (change : AgentChange)
  | drain
  | len
  | isEmpty
  | isClosed
  | overflow
  deriving DecidableEq, Repr

/-- What a call answers. -/
inductive Reply where
  | pushed (outcome : Except AgentError Unit)
  | drained (changes : List AgentChange)
  | len (count : Nat)
  | isEmpty (empty : Bool)
  | isClosed (closed : Bool)
  | overflow (error : Option AgentError)

/-- Makes one call, answering the queue after it and the reply. -/
def call (q : AgentQueue) : Call → AgentQueue × Reply
  | .push change => ((q.push change).1, .pushed (q.push change).2)
  | .drain => (q.drain.2, .drained q.drain.1)
  | .len => (q, .len q.size)
  | .isEmpty => (q, .isEmpty (q.size == 0))
  | .isClosed => (q, .isClosed q.closed)
  | .overflow => (q, .overflow q.overflow)

/-- Makes calls one after the other, answering the last queue and each call
with its reply, in order. -/
def serve (q : AgentQueue) : List Call → AgentQueue × List (Call × Reply)
  | [] => (q, [])
  | k :: ks => (((q.call k).1.serve ks).1, (k, (q.call k).2) :: ((q.call k).1.serve ks).2)

/-- The change a logged call queued: a push answered ok. -/
def queued : Call × Reply → Option AgentChange
  | (.push change, .pushed (.ok ())) => some change
  | _ => none

/-- The changes a logged call handed out: a drain's. -/
def handedOut : Call × Reply → List AgentChange
  | (_, .drained changes) => changes
  | _ => []

/-- The change a logged call could not queue for lack of room. -/
def refusedForRoom : Call × Reply → Option AgentChange
  | (.push change, .pushed (.error (.queueFull _ _))) => some change
  | _ => none

@[simp] theorem serve_nil (q : AgentQueue) : q.serve [] = (q, []) := rfl

@[simp] theorem serve_cons (q : AgentQueue) (k : Call) (ks : List Call) :
    q.serve (k :: ks) = (((q.call k).1.serve ks).1, (k, (q.call k).2) :: ((q.call k).1.serve ks).2) := rfl

/-! ## One call -/

/-- What a push can do: on a closed queue refuse and change nothing; on a
full one refuse and remember the change's path unless a refusal is already
remembered; otherwise append the change. -/
theorem push_cases (q : AgentQueue) (change : AgentChange) :
    (q.closed = true ∧ q.push change = (q, .error (.closed (Path.format change.path)))) ∨
    (q.closed = false ∧ q.capacity ≤ q.size ∧
      q.push change = ({ q with overflowed := q.overflowed.orElse fun _ => some (Path.format change.path) },
        .error (.queueFull (Path.format change.path) q.capacity))) ∨
    (q.closed = false ∧ q.size < q.capacity ∧
      q.push change = ({ q with changes := q.changes ++ [change] }, .ok ())) := by
  cases closed : q.closed with
  | true => exact .inl ⟨rfl, by simp [push, closed]⟩
  | false =>
    by_cases full : q.capacity ≤ q.size
    · refine .inr (.inl ⟨rfl, full, ?_⟩)
      simp only [size] at full
      simp [push, closed, full]
    · refine .inr (.inr ⟨rfl, Nat.lt_of_not_le full, ?_⟩)
      simp only [size] at full
      simp [push, closed, full]

/-- A push is accepted exactly when the queue is open and has room. -/
theorem push_ok_iff (q : AgentQueue) (change : AgentChange) :
    (q.push change).2 = .ok () ↔ q.closed = false ∧ q.size < q.capacity := by
  rcases push_cases q change with ⟨closed, pushed⟩ | ⟨opened, full, pushed⟩ | ⟨opened, room, pushed⟩
  · simp [pushed, closed]
  · simp only [pushed, reduceCtorEq, false_iff, not_and, Nat.not_lt]
    exact fun _ => full
  · simp [pushed, opened, room]

@[simp] theorem push_capacity (q : AgentQueue) (change : AgentChange) : (q.push change).1.capacity = q.capacity := by
  rcases push_cases q change with ⟨-, pushed⟩ | ⟨-, -, pushed⟩ | ⟨-, -, pushed⟩ <;> simp [pushed]

@[simp] theorem push_closed (q : AgentQueue) (change : AgentChange) : (q.push change).1.closed = q.closed := by
  rcases push_cases q change with ⟨-, pushed⟩ | ⟨-, -, pushed⟩ | ⟨-, -, pushed⟩ <;> simp [pushed]

@[simp] theorem call_capacity (q : AgentQueue) (k : Call) : (q.call k).1.capacity = q.capacity := by
  cases k with
  | push change => exact push_capacity q change
  | drain => rfl
  | len => rfl
  | isEmpty => rfl
  | isClosed => rfl
  | overflow => rfl

/-- What every queue a session reaches satisfies: it holds at most its
capacity, and nothing once closed. -/
structure Sound (q : AgentQueue) : Prop where
  bounded : q.size ≤ q.capacity
  closed_empty : q.closed = true → q.changes = []

@[simp] theorem create_changes (capacity : Nat) : (create capacity).changes = [] := rfl

@[simp] theorem create_overflowed (capacity : Nat) : (create capacity).overflowed = none := rfl

@[simp] theorem create_capacity (capacity : Nat) : (create capacity).capacity = capacity := rfl

theorem sound_create (capacity : Nat) : (create capacity).Sound :=
  ⟨Nat.zero_le _, fun h => absurd h Bool.false_ne_true⟩

theorem Sound.call {q : AgentQueue} (sound : q.Sound) (k : Call) : (q.call k).1.Sound := by
  cases k with
  | push change =>
    rcases push_cases q change with ⟨-, pushed⟩ | ⟨opened, -, pushed⟩ | ⟨opened, room, pushed⟩
    · simpa [AgentQueue.call, pushed] using sound
    · simp only [AgentQueue.call, pushed]
      exact ⟨sound.bounded, sound.closed_empty⟩
    · simp only [AgentQueue.call, pushed]
      refine ⟨?_, fun closed => absurd (opened ▸ closed) Bool.false_ne_true⟩
      simp only [size, List.length_append, List.length_singleton] at room ⊢
      omega
  | drain => exact ⟨Nat.zero_le _, fun _ => rfl⟩
  | len => exact sound
  | isEmpty => exact sound
  | isClosed => exact sound
  | overflow => exact sound

theorem Sound.serve {q : AgentQueue} (sound : q.Sound) (ks : List Call) : (q.serve ks).1.Sound := by
  induction ks generalizing q with
  | nil => exact sound
  | cons k ks ih => exact ih (sound.call k)

/-- A call hands out what it takes off the queue, and what it queues stays
queued: the queue before and what the call queued are what it handed out and
the queue after. -/
theorem call_conserves (q : AgentQueue) (k : Call) :
    handedOut (k, (q.call k).2) ++ (q.call k).1.changes = q.changes ++ (queued (k, (q.call k).2)).toList := by
  cases k with
  | push change =>
    rcases push_cases q change with ⟨-, pushed⟩ | ⟨-, -, pushed⟩ | ⟨-, -, pushed⟩ <;>
      simp [AgentQueue.call, pushed, handedOut, queued]
  | drain => simp [AgentQueue.call, drain, handedOut, queued]
  | len => simp [AgentQueue.call, handedOut, queued]
  | isEmpty => simp [AgentQueue.call, handedOut, queued]
  | isClosed => simp [AgentQueue.call, handedOut, queued]
  | overflow => simp [AgentQueue.call, handedOut, queued]

theorem call_closed (q : AgentQueue) (k : Call) (h : q.closed = true ∨ k = .drain) : (q.call k).1.closed = true := by
  rcases h with closed | rfl
  · cases k with
    | push change =>
      rcases push_cases q change with ⟨-, pushed⟩ | ⟨opened, -, -⟩ | ⟨opened, -, -⟩
      · simpa [AgentQueue.call, pushed] using closed
      · exact absurd (opened ▸ closed) Bool.false_ne_true
      · exact absurd (opened ▸ closed) Bool.false_ne_true
    | drain => rfl
    | len => exact closed
    | isEmpty => exact closed
    | isClosed => exact closed
    | overflow => exact closed
  · rfl

/-- A call remembers the change it refused for lack of room, unless a refusal
is already remembered. -/
theorem call_overflowed (q : AgentQueue) (k : Call) :
    (q.call k).1.overflowed =
      q.overflowed.orElse fun _ => (refusedForRoom (k, (q.call k).2)).map fun change => Path.format change.path := by
  cases k with
  | push change =>
    rcases push_cases q change with ⟨-, pushed⟩ | ⟨-, -, pushed⟩ | ⟨-, -, pushed⟩ <;>
      simp [AgentQueue.call, pushed, refusedForRoom]
  | drain => simp [AgentQueue.call, drain, refusedForRoom]
  | len => simp [AgentQueue.call, refusedForRoom]
  | isEmpty => simp [AgentQueue.call, refusedForRoom]
  | isClosed => simp [AgentQueue.call, refusedForRoom]
  | overflow => simp [AgentQueue.call, refusedForRoom]

/-! ## A session -/

/-- Nothing is lost or made up: the queue before a session and what the
session queued are what it handed out and what is still queued. -/
theorem serve_conserves (q : AgentQueue) (ks : List Call) :
    (q.serve ks).2.flatMap handedOut ++ (q.serve ks).1.changes = q.changes ++ (q.serve ks).2.filterMap queued := by
  induction ks generalizing q with
  | nil => simp
  | cons k ks ih =>
    have first := call_conserves q k
    simp only [serve_cons, List.flatMap_cons, List.filterMap_cons, List.append_assoc, ih]
    cases h : queued (k, (q.call k).2) with
    | none =>
      rw [h, Option.toList_none, List.append_nil] at first
      simp only [← List.append_assoc, first]
    | some change =>
      rw [h, Option.toList_some] at first
      simp only [← List.append_assoc, first]
      simp

theorem serve_closed (q : AgentQueue) (ks : List Call) (h : q.closed = true ∨ Call.drain ∈ ks) :
    (q.serve ks).1.closed = true := by
  induction ks generalizing q with
  | nil =>
    rcases h with closed | mem
    · exact closed
    · exact absurd mem List.not_mem_nil
  | cons k ks ih =>
    apply ih
    rcases h with closed | mem
    · exact .inl (call_closed q k (.inl closed))
    · rcases List.mem_cons.mp mem with rfl | later
      · exact .inl (call_closed q _ (.inr rfl))
      · exact .inr later

/-- The refusal a session remembers is the first one for lack of room, unless
one was remembered before it. -/
theorem serve_overflowed (q : AgentQueue) (ks : List Call) :
    (q.serve ks).1.overflowed =
      q.overflowed.orElse fun _ => ((q.serve ks).2.findSome? refusedForRoom).map fun change => Path.format change.path := by
  induction ks generalizing q with
  | nil => simp
  | cons k ks ih =>
    simp only [serve_cons, ih, call_overflowed, List.findSome?_cons]
    cases refusedForRoom (k, (q.call k).2) <;> simp

theorem serve_capacity (q : AgentQueue) (ks : List Call) : (q.serve ks).1.capacity = q.capacity := by
  induction ks generalizing q with
  | nil => rfl
  | cons k ks ih => simp [ih]

/-- A session on a fresh queue of capacity `capacity`, whatever its calls:
the queue holds at most `capacity` changes, and the next push is accepted
exactly when it is open with room; the drains hand out the accepted pushes
in push order, with what is still queued; once a drain was made every later
push is refused as closed and every later drain hands out nothing, so the
drains hand out exactly the accepted pushes; and `overflow` reports the first
push refused for lack of room, and nothing when there was none. -/
theorem bounded_mailbox (capacity : Nat) (calls : List Call) :
    let q := ((create capacity).serve calls).1
    let log := ((create capacity).serve calls).2
    q.size ≤ capacity ∧
    (∀ change, (q.call (.push change)).2 = .pushed (.ok ()) ↔ q.closed = false ∧ q.size < capacity) ∧
    log.flatMap handedOut ++ q.changes = log.filterMap queued ∧
    (Call.drain ∈ calls → log.flatMap handedOut = log.filterMap queued ∧
      (∀ change, (q.call (.push change)).2 = .pushed (.error (.closed (Path.format change.path)))) ∧
      (q.call .drain).2 = .drained []) ∧
    (q.call .overflow).2 =
      .overflow ((log.findSome? refusedForRoom).map fun change => .queueFull (Path.format change.path) capacity) ∧
    ((q.call .overflow).2 = .overflow none ↔ ∀ e ∈ log, refusedForRoom e = none) := by
  intro q log
  have sound := (sound_create capacity).serve calls
  have capacityKept : q.capacity = capacity := serve_capacity (create capacity) calls
  have conserved : log.flatMap handedOut ++ q.changes = log.filterMap queued := by
    simpa only [create_changes, List.nil_append] using serve_conserves (create capacity) calls
  have overflowIs : (q.call .overflow).2 =
      .overflow ((log.findSome? refusedForRoom).map fun change => .queueFull (Path.format change.path) capacity) := by
    have remembered : q.overflowed = (log.findSome? refusedForRoom).map fun change => Path.format change.path := by
      simpa only [create_overflowed, Option.orElse_none] using serve_overflowed (create capacity) calls
    simp only [call, overflow, capacityKept, remembered, Option.map_map]
    rfl
  refine ⟨capacityKept ▸ sound.bounded, fun change => ?_, conserved, fun drained => ?_, overflowIs, ?_⟩
  · simp only [call, Reply.pushed.injEq, push_ok_iff, capacityKept]
  · have closed : q.closed = true := serve_closed (create capacity) calls (.inr drained)
    have empty : q.changes = [] := sound.closed_empty closed
    refine ⟨by simpa [empty] using conserved, fun change => ?_, by simp [call, drain, empty]⟩
    rcases push_cases q change with ⟨-, pushed⟩ | ⟨opened, -, -⟩ | ⟨opened, -, -⟩
    · simp [call, pushed]
    · simp [closed] at opened
    · simp [closed] at opened
  · rw [overflowIs]
    simp [List.findSome?_eq_none_iff]

/-! ## Pushes alone -/

/-- Pushes changes one after the other. -/
def pushAll (q : AgentQueue) (changes : List AgentChange) : AgentQueue :=
  changes.foldl (fun q change => (q.push change).1) q

@[simp] theorem pushAll_nil (q : AgentQueue) : q.pushAll [] = q := rfl

theorem pushAll_cons (q : AgentQueue) (change : AgentChange) (changes : List AgentChange) :
    q.pushAll (change :: changes) = (q.push change).1.pushAll changes := rfl

/-- On an open queue with no room every push is refused: nothing is queued,
and the first refusal is remembered unless one already was. -/
theorem pushAll_full {q : AgentQueue} (opened : q.closed = false) (full : q.capacity ≤ q.size)
    (changes : List AgentChange) :
    (q.pushAll changes).changes = q.changes ∧
      (q.pushAll changes).overflowed = q.overflowed.or (changes.head?.map fun change => Path.format change.path) := by
  induction changes generalizing q with
  | nil => simp
  | cons change changes ih =>
    rcases push_cases q change with ⟨closed, -⟩ | ⟨-, -, pushed⟩ | ⟨-, room, -⟩
    · simp [opened] at closed
    · rw [pushAll_cons, pushed]
      obtain ⟨kept, remembered⟩ := @ih { q with overflowed := q.overflowed.orElse fun _ => some (Path.format change.path) }
        opened full
      refine ⟨kept, ?_⟩
      rw [remembered]
      cases q.overflowed <;> simp
    · omega

/-- On an open queue that never ran full, the pushes that find room are
queued, in order, and the first one past the room left is the refusal
remembered. -/
theorem pushAll_open {q : AgentQueue} (opened : q.closed = false) (bounded : q.size ≤ q.capacity)
    (fresh : q.overflowed = none) (changes : List AgentChange) :
    (q.pushAll changes).changes = q.changes ++ changes.take (q.capacity - q.size) ∧
      (q.pushAll changes).overflowed = changes[q.capacity - q.size]?.map fun change => Path.format change.path := by
  induction changes generalizing q with
  | nil => simp [fresh]
  | cons change changes ih =>
    rcases push_cases q change with ⟨closed, -⟩ | ⟨-, full, pushed⟩ | ⟨-, room, pushed⟩
    · simp [opened] at closed
    · -- no room left: this push is the first refusal
      have none_left : q.capacity - q.size = 0 := by omega
      rw [pushAll_cons, pushed, none_left]
      obtain ⟨kept, remembered⟩ := @pushAll_full { q with overflowed := q.overflowed.orElse fun _ => some (Path.format change.path) }
        opened full changes
      refine ⟨by simpa using kept, ?_⟩
      rw [remembered, fresh]
      simp
    · have left : q.capacity - q.size = (q.capacity - (q.size + 1)) + 1 := by omega
      obtain ⟨queued, remembered⟩ := @ih { q with changes := q.changes ++ [change] } opened
        (by simp only [size, List.length_append, List.length_singleton] at room ⊢; omega) fresh
      have grown : ({ q with changes := q.changes ++ [change] } : AgentQueue).size = q.size + 1 := by
        simp [size]
      rw [pushAll_cons, pushed, left]
      rw [grown] at queued remembered
      refine ⟨by simp [queued], by simp [remembered]⟩

@[simp] theorem pushAll_capacity (q : AgentQueue) (changes : List AgentChange) :
    (q.pushAll changes).capacity = q.capacity := by
  induction changes generalizing q with
  | nil => rfl
  | cons change changes ih => rw [pushAll_cons, ih, push_capacity]

@[simp] theorem pushAll_closed (q : AgentQueue) (changes : List AgentChange) :
    (q.pushAll changes).closed = q.closed := by
  induction changes generalizing q with
  | nil => rfl
  | cons change changes ih => rw [pushAll_cons, ih, push_closed]

/-- Pushes on a fresh queue of capacity `capacity`: the first `capacity` of
them are queued, and the one after them, if any, is the overflow reported. -/
theorem pushAll_create (capacity : Nat) (changes : List AgentChange) :
    ((create capacity).pushAll changes).changes = changes.take capacity ∧
      ((create capacity).pushAll changes).overflow =
        changes[capacity]?.map fun change => .queueFull (Path.format change.path) capacity := by
  obtain ⟨queued, remembered⟩ := pushAll_open (q := create capacity) rfl (Nat.zero_le _) rfl changes
  refine ⟨by simpa [size] using queued, ?_⟩
  simp only [overflow, pushAll_capacity, create_capacity, remembered, Option.map_map]
  simp [size]
  rfl

/-- Three pushes on a queue with room for one: the second is the overflow
reported, though the third was refused too. -/
example : ((create 1).pushAll [⟨["m0"], .null, .null⟩, ⟨["m1"], .null, .null⟩, ⟨["m2"], .null, .null⟩]).overflow =
    some (.queueFull "m1" 1) := by decide

end AgentQueue

end Reconcile
