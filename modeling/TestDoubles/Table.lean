/-!
# Tables

A finite map that keeps its keys in the order in which they first came. Writing under a key that is
present changes its value in place; a new key goes to the end.
-/

namespace TestDoubles

/-- A finite map from `α` to `β`, in order of first insertion. -/
structure Table (α β : Type) where
  /-- The pairs, oldest key first. -/
  entries : List (α × β) := []

namespace Table

variable {α β : Type}

/-- The table without entries. -/
def empty : Table α β := {}

instance : Inhabited (Table α β) := ⟨empty⟩

/-- The number of keys. -/
def size (t : Table α β) : Nat :=
  t.entries.length

/-- The keys, oldest first. -/
def keys (t : Table α β) : List α :=
  t.entries.map Prod.fst

variable [DecidableEq α]

/-- The value under `key` in a list of pairs. -/
def find (key : α) : List (α × β) → Option β
  | [] => none
  | (k, v) :: rest => if k = key then some v else find key rest

/-- Write `value` under `key` in a list of pairs: in place if the key is there, else at the end. -/
def put (key : α) (value : β) : List (α × β) → List (α × β)
  | [] => [(key, value)]
  | (k, v) :: rest => if k = key then (k, value) :: rest else (k, v) :: put key value rest

/-- The value under `key`. -/
def find? (t : Table α β) (key : α) : Option β :=
  find key t.entries

/-- Whether there is a value under `key`. -/
def contains (t : Table α β) (key : α) : Bool :=
  (t.find? key).isSome

/-- Write `value` under `key`. -/
def insert (t : Table α β) (key : α) (value : β) : Table α β :=
  ⟨put key value t.entries⟩

/-! ## What a write does to a look-up -/

@[simp] theorem find?_empty (key : α) : (empty : Table α β).find? key = none := rfl

private theorem find_put (key other : α) (value : β) (entries : List (α × β)) :
    find other (put key value entries) = if key = other then some value else find other entries := by
  induction entries with
  | nil => simp [put, find]
  | cons head rest ih =>
    obtain ⟨k, v⟩ := head
    grind [put, find]

/-- A write is seen under its key and nowhere else. -/
theorem find?_insert (t : Table α β) (key other : α) (value : β) :
    (t.insert key value).find? other = if key = other then some value else t.find? other :=
  find_put key other value t.entries

@[simp] theorem find?_insert_self (t : Table α β) (key : α) (value : β) :
    (t.insert key value).find? key = some value := by
  simp [find?_insert]

theorem find?_insert_of_ne (t : Table α β) {key other : α} (value : β) (h : key ≠ other) :
    (t.insert key value).find? other = t.find? other := by
  simp [find?_insert, h]

/-! ## What a write does to the pairs -/

private theorem mem_of_find {key : α} {value : β} {entries : List (α × β)}
    (h : find key entries = some value) : (key, value) ∈ entries := by
  induction entries with
  | nil => cases h
  | cons head rest ih =>
    obtain ⟨k, v⟩ := head
    unfold find at h
    split at h
    next hkey =>
      rw [hkey, Option.some.inj h]
      exact List.mem_cons_self
    next => exact List.mem_cons_of_mem _ (ih h)

private theorem mem_put {key : α} {value : β} {entries : List (α × β)} {pair : α × β}
    (h : pair ∈ put key value entries) : pair = (key, value) ∨ pair ∈ entries := by
  induction entries with
  | nil => exact .inl (List.mem_singleton.mp h)
  | cons head rest ih =>
    obtain ⟨k, v⟩ := head
    unfold put at h
    split at h
    next hkey =>
      rcases List.mem_cons.mp h with hnew | hrest
      · exact .inl (hkey ▸ hnew)
      · exact .inr (List.mem_cons_of_mem _ hrest)
    next =>
      rcases List.mem_cons.mp h with hhead | hput
      · exact .inr (List.mem_cons.mpr (.inl hhead))
      · exact (ih hput).imp_right (List.mem_cons_of_mem _)

theorem mem_entries_of_find? {t : Table α β} {key : α} {value : β}
    (h : t.find? key = some value) : (key, value) ∈ t.entries :=
  mem_of_find h

/-- A write adds no pair but its own. -/
theorem mem_entries_insert {t : Table α β} {key : α} {value : β} {pair : α × β}
    (h : pair ∈ (t.insert key value).entries) : pair = (key, value) ∨ pair ∈ t.entries :=
  mem_put h

end Table

end TestDoubles
