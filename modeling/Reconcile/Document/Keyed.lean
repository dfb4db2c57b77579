/-!
# Keyed lists

A keyed list is a list of entries `(key, value)` kept in increasing key order
with one entry per key. It is the shape of a document mapping, of a tree's
children by id and of a secret store. Insertion replaces the entry of an
existing key, so the last write for a key wins.
-/

namespace Reconcile.Keyed

variable {α : Type}

/-- The value stored under `key`. -/
def get? (key : String) : List (String × α) → Option α
  | [] => none
  | (k, v) :: rest => if k = key then some v else get? key rest

/-- Whether some entry has the key `key`. -/
def contains (key : String) (entries : List (String × α)) : Bool :=
  (get? key entries).isSome

/-- Stores `value` under `key`, replacing an entry with that key and keeping
the keys in increasing order. -/
def insert (key : String) (value : α) : List (String × α) → List (String × α)
  | [] => [(key, value)]
  | (k, v) :: rest =>
    if key < k then (key, value) :: (k, v) :: rest
    else if key = k then (key, value) :: rest
    else (k, v) :: insert key value rest

/-- Removes the entry with key `key`, if there is one. -/
def erase (key : String) (entries : List (String × α)) : List (String × α) :=
  entries.filter fun entry => entry.1 != key

/-- The keyed list holding the given entries, a later entry for a key
replacing an earlier one. -/
def ofList (entries : List (String × α)) : List (String × α) :=
  entries.foldl (fun acc entry => insert entry.1 entry.2 acc) []

/-- The keys, in increasing order. -/
def keys (entries : List (String × α)) : List String :=
  entries.map Prod.fst

@[simp] theorem get?_nil (key : String) : get? key ([] : List (String × α)) = none := rfl

theorem get?_cons (key k : String) (v : α) (rest : List (String × α)) :
    get? key ((k, v) :: rest) = if k = key then some v else get? key rest := rfl

/-- Reading back a key that was just stored gives the stored value. -/
@[simp] theorem get?_insert_self (key : String) (value : α) (entries : List (String × α)) :
    get? key (insert key value entries) = some value := by
  induction entries with
  | nil => simp [insert, get?]
  | cons entry rest ih =>
    obtain ⟨k, v⟩ := entry
    unfold insert
    by_cases hlt : key < k
    · simp [hlt, get?]
    · by_cases heq : key = k
      · simp [heq, get?]
      · simp only [hlt, heq, if_false, get?]
        have hne : ¬ k = key := fun h => heq h.symm
        simp [hne, ih]

/-- Storing under one key leaves every other key as it was. -/
theorem get?_insert_of_ne {key other : String} (value : α) (entries : List (String × α))
    (h : other ≠ key) : get? other (insert key value entries) = get? other entries := by
  induction entries with
  | nil =>
    have hne : ¬ key = other := fun e => h e.symm
    simp [insert, get?, hne]
  | cons entry rest ih =>
    obtain ⟨k, v⟩ := entry
    unfold insert
    have hne : ¬ key = other := fun e => h e.symm
    by_cases hlt : key < k
    · simp [hlt, get?, hne]
    · by_cases heq : key = k
      · subst heq
        simp [get?, hne]
      · simp only [hlt, heq, if_false, get?]
        rw [ih]

/-- Removing a key leaves no entry for it. -/
@[simp] theorem get?_erase_self (key : String) (entries : List (String × α)) :
    get? key (erase key entries) = none := by
  induction entries with
  | nil => rfl
  | cons entry rest ih =>
    obtain ⟨k, v⟩ := entry
    by_cases hk : k = key
    · subst hk
      simpa [erase] using ih
    · simpa [erase, get?, hk] using ih

/-- Removing one key leaves every other key as it was. -/
theorem get?_erase_of_ne {key other : String} (entries : List (String × α)) (h : other ≠ key) :
    get? other (erase key entries) = get? other entries := by
  induction entries with
  | nil => rfl
  | cons entry rest ih =>
    obtain ⟨k, v⟩ := entry
    by_cases hk : k = key
    · subst hk
      have hne : ¬ k = other := fun e => h e.symm
      simpa [erase, get?, hne] using ih
    · by_cases ho : k = other
      · subst ho
        simp [erase, get?, hk]
      · simpa [erase, get?, hk, ho] using ih

end Reconcile.Keyed
