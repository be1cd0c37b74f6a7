import Mathlib.Logic.Relation
import TestDoubles.Registry.Update

/-!
# The index of a registry

A registry finds an entry by an index from own keys to positions, and looks through the entries only
for aliases. Here the index is shown to be nothing but a shortcut: in every registry that operations
can produce, it leads where a plain scan of the entries leads.

- `Registry.Indexed` is the invariant: no two entries share a key, and the index holds exactly the
  positions of the own keys.
- `Registry.Step` is one operation short of `clear`, whatever came of it; `Registry.Reachable` is
  what any sequence of operations produces.
- `Registry.Reachable.indexed` and `Registry.Run.extends` are the two facts that the rest of the
  theory builds on: reachable registries are indexed, and entries stay where they are.
-/

namespace TestDoubles

namespace Registry

variable {mockOf : TypeId → TypeId}

/-! ## Scanning the entries -/

/-- The own keys of the entries, in the order of registration. -/
def keys (r : Registry) : List Key :=
  r.entries.map Entry.key

/-- The position that a plain scan finds: the entry with that own key, otherwise the first one with
such an alias. -/
def scan (r : Registry) (key : Key) : Option Nat :=
  (r.entries.findIdx? fun entry => entry.key = key).or
    (r.entries.findIdx? fun entry => entry.hasAlias key)

/-- Looking for an own key among the entries is looking for it among the keys. -/
theorem findIdx?_keys (r : Registry) (key : Key) :
    r.keys.findIdx? (fun k => k = key) = r.entries.findIdx? fun entry => entry.key = key := by
  rw [keys, List.findIdx?_map]
  rfl

/-- An alias of an entry is something that the entry provides. -/
theorem provides?_isSome_iff (entry : Entry) (key : Key) :
    (entry.provides? key).isSome ↔ entry.key = key ∨ entry.hasAlias key := by
  by_cases h : entry.key = key
  · simp [Entry.provides?, h]
  · simp [Entry.provides?, Entry.hasAlias, h]

/-- Whatever a scan finds is the position of an entry that provides the key. -/
theorem provides?_of_scan {r : Registry} {key : Key} {i : Nat} (h : r.scan key = some i) :
    ∃ entry, r.entries[i]? = some entry ∧ (entry.provides? key).isSome := by
  rcases Option.or_eq_some_iff.mp h with hown | ⟨-, halias⟩
  · obtain ⟨hi, hkey, -⟩ := List.findIdx?_eq_some_iff_getElem.mp hown
    refine ⟨r.entries[i], List.getElem?_eq_getElem hi, ?_⟩
    exact (provides?_isSome_iff _ _).mpr (.inl (by simpa using hkey))
  · obtain ⟨hi, hkey, -⟩ := List.findIdx?_eq_some_iff_getElem.mp halias
    refine ⟨r.entries[i], List.getElem?_eq_getElem hi, ?_⟩
    exact (provides?_isSome_iff _ _).mpr (.inr hkey)

/-! ## The invariant -/

/-- The index holds the own keys and nothing else, each with the position of its only entry. -/
structure Indexed (r : Registry) : Prop where
  -- No two entries share a key.
  keys_nodup : r.keys.Nodup
  -- The index leads to the first entry with the key.
  find?_exact : ∀ key, r.exact.find? key = r.keys.findIdx? fun k => k = key

theorem indexed_empty : empty.Indexed :=
  ⟨List.nodup_nil, fun _ => rfl⟩

namespace Indexed

variable {r : Registry}

/-- The index leads to the entry that bears the key. -/
theorem key_of_find?_exact (h : r.Indexed) {key : Key} {i : Nat}
    (hi : r.exact.find? key = some i) :
    ∃ entry, r.entries[i]? = some entry ∧ entry.key = key := by
  rw [h.find?_exact, findIdx?_keys] at hi
  obtain ⟨hlt, hkey, -⟩ := List.findIdx?_eq_some_iff_getElem.mp hi
  exact ⟨r.entries[i], List.getElem?_eq_getElem hlt, by simpa using hkey⟩

/-- A key that the index does not hold is the key of no entry. -/
theorem not_mem_keys (h : r.Indexed) {key : Key} (hnone : r.exact.find? key = none) :
    key ∉ r.keys := by
  rw [h.find?_exact] at hnone
  intro hmem
  have := List.findIdx?_eq_none_iff.mp hnone key hmem
  simp at this

/-- The index leads to every entry by its own key. -/
theorem find?_exact_key (h : r.Indexed) {i : Nat} {entry : Entry} (hi : r.entries[i]? = some entry) :
    r.exact.find? entry.key = some i := by
  have hkey : r.keys[i]? = some entry.key := by simp [keys, hi]
  cases hfind : r.exact.find? entry.key with
  | none => exact absurd (List.mem_of_getElem? hkey) (h.not_mem_keys hfind)
  | some j =>
    obtain ⟨other, hj, hsame⟩ := h.key_of_find?_exact hfind
    have hkey' : r.keys[j]? = some entry.key := by simp [keys, hj, hsame]
    have hlt : j < r.keys.length := (List.getElem?_eq_some_iff.mp hkey').1
    rw [(List.getElem?_inj hlt h.keys_nodup).mp (hkey'.trans hkey.symm)]

/-- **The index is a shortcut**: it leads where a plain scan leads. -/
theorem position?_eq_scan (h : r.Indexed) (key : Key) : r.position? key = r.scan key := by
  unfold position? scan
  rw [h.find?_exact, findIdx?_keys]
  cases r.entries.findIdx? fun entry => entry.key = key <;> rfl

/-- The invariant depends on the own keys and the index only. -/
theorem of_keys_eq (h : r.Indexed) {r' : Registry} (hkeys : r'.keys = r.keys)
    (hexact : r'.exact = r.exact) : r'.Indexed :=
  ⟨hkeys ▸ h.keys_nodup, fun key => by rw [hexact, hkeys]; exact h.find?_exact key⟩

/-- A new key goes to the end of the entries, and its position into the index. -/
theorem append (h : r.Indexed) {entry : Entry} (hnone : r.exact.find? entry.key = none) :
    Indexed ⟨r.entries ++ [entry], r.exact.insert entry.key r.entries.length⟩ := by
  have hnew : entry.key ∉ r.keys := h.not_mem_keys hnone
  constructor
  · have hnodup : (r.keys ++ [entry.key]).Nodup := by
      refine List.nodup_append.mpr ⟨h.keys_nodup, List.pairwise_singleton _ _, ?_⟩
      rintro a ha b hb rfl
      exact hnew (List.mem_singleton.mp hb ▸ ha)
    simpa [keys] using hnodup
  · intro key
    rw [Table.find?_insert, h.find?_exact]
    by_cases hk : entry.key = key
    · subst hk
      have hold : r.keys.findIdx? (fun k => k = entry.key) = none := by
        rw [← h.find?_exact]; exact hnone
      simp only [keys] at hold
      simp [keys, List.findIdx?_append, hold]
    · simp [keys, List.findIdx?_append, hk]

end Indexed

/-! ## What an insertion does to the keys -/

/-- An entry that is replaced by one with the same key leaves the keys as they are. -/
theorem keys_set {r : Registry} {i : Nat} {previous : Entry} (entry : Entry)
    (hi : r.entries[i]? = some previous) (hkey : entry.key = previous.key) :
    keys { r with entries := r.entries.set i entry } = r.keys := by
  obtain ⟨hlt, rfl⟩ := List.getElem?_eq_some_iff.mp hi
  have hlt' : i < (r.entries.map Entry.key).length := by simpa using hlt
  have hold : r.entries[i].key = (r.entries.map Entry.key)[i] := by simp
  unfold keys
  rw [List.map_set, hkey, hold, List.set_getElem_self]

/-- What `insert` comes to: the place of the key is taken over, or the entry goes to the end. -/
theorem insert_cases (mockOf : TypeId → TypeId) {r : Registry} (h : r.Indexed) (entry : Entry) :
    (∃ i previous, r.exact.find? entry.key = some i ∧ r.entries[i]? = some previous ∧
      previous.key = entry.key ∧
      (r.insert mockOf entry).1 =
        { r with
          entries := r.entries.set i
            { entry with aliases := carriedAliases mockOf previous entry } }) ∨
    (r.exact.find? entry.key = none ∧
      (r.insert mockOf entry).1 =
        ⟨r.entries ++ [entry], r.exact.insert entry.key r.entries.length⟩) := by
  cases hfind : r.exact.find? entry.key with
  | none => exact .inr ⟨rfl, by simp [insert, hfind]⟩
  | some i =>
    obtain ⟨previous, hi, hkey⟩ := h.key_of_find?_exact hfind
    exact .inl ⟨i, previous, rfl, hi, hkey, by simp [insert, hfind, hi]⟩

/-- An entry for a key that nothing answers for goes to the end. -/
theorem insert_of_position? (mockOf : TypeId → TypeId) {r : Registry} {entry : Entry}
    (hnone : r.position? entry.key = none) :
    (r.insert mockOf entry).1 =
      ⟨r.entries ++ [entry], r.exact.insert entry.key r.entries.length⟩ := by
  have hexact : r.exact.find? entry.key = none := by
    unfold position? at hnone
    split at hnone
    · cases hnone
    · assumption
  simp [insert, hexact]

/-- A registered key keeps the keys as they are; a new one comes last. -/
theorem keys_insert (mockOf : TypeId → TypeId) {r : Registry} (h : r.Indexed) (entry : Entry) :
    (r.insert mockOf entry).1.keys =
      if (r.exact.find? entry.key).isSome then r.keys else r.keys ++ [entry.key] := by
  rcases insert_cases mockOf h entry with
    ⟨i, previous, hfind, hi, hkey, heq⟩ | ⟨hnone, heq⟩
  · have hset := keys_set { entry with aliases := carriedAliases mockOf previous entry } hi hkey.symm
    simp [heq, hset, hfind]
  · simp [heq, hnone, keys]

theorem indexed_insert {r : Registry} (h : r.Indexed) (entry : Entry) :
    (r.insert mockOf entry).1.Indexed := by
  have hkeys := keys_insert mockOf h entry
  rcases insert_cases mockOf h entry with
    ⟨i, previous, hfind, -, -, heq⟩ | ⟨hnone, heq⟩
  · rw [hfind] at hkeys
    exact h.of_keys_eq (by simpa using hkeys) (by rw [heq])
  · rw [heq]
    exact h.append hnone

/-- No insertion moves an entry. -/
theorem keys_prefix_insert {r : Registry} (h : r.Indexed) (entry : Entry) :
    r.keys <+: (r.insert mockOf entry).1.keys := by
  rw [keys_insert mockOf h]
  split
  · exact List.prefix_refl _
  · exact List.prefix_append _ _

/-! ## What the operations do to the keys

Every operation but `clear` is an insertion, changes nothing, or, for `combine`, adds an alias to an
entry after such an operation. So it is enough to know of each of them that it keeps the invariant
and moves no entry, which is said in one word: it *extends* the registry. -/

/-- A registry that came of another one without losing the index or moving an entry. -/
structure Extends (r r' : Registry) : Prop where
  indexed : r'.Indexed
  keys_prefix : r.keys <+: r'.keys

theorem Extends.refl {r : Registry} (h : r.Indexed) : r.Extends r :=
  ⟨h, List.prefix_refl _⟩

theorem Extends.trans {r₁ r₂ r₃ : Registry} (h₁ : r₁.Extends r₂) (h₂ : r₂.Extends r₃) :
    r₁.Extends r₃ :=
  ⟨h₂.indexed, h₁.keys_prefix.trans h₂.keys_prefix⟩

theorem extends_insert {r : Registry} (h : r.Indexed) (entry : Entry) :
    r.Extends (r.insert mockOf entry).1 :=
  ⟨indexed_insert h entry, keys_prefix_insert h entry⟩

theorem extends_addAlias {r : Registry} (h : r.Indexed) {i : Nat} {entry : Entry}
    (hi : r.entries[i]? = some entry) (added : Alias) :
    r.Extends { r with
      entries := r.entries.set i { entry with aliases := entry.aliases ++ [added] } } := by
  have hkeys := keys_set { entry with aliases := entry.aliases ++ [added] } hi rfl
  exact ⟨h.of_keys_eq hkeys rfl, hkeys ▸ List.prefix_refl _⟩

theorem extends_getOrCreateMock (mockOf : TypeId → TypeId) {r : Registry} (h : r.Indexed) (fresh : Ref)
    (capability : TypeId) (name : Option String) :
    r.Extends (r.getOrCreateMock mockOf fresh capability name).registry := by
  unfold getOrCreateMock
  split
  · exact .refl h
  · split
    · split <;> exact .refl h
    · exact extends_insert h _

theorem extends_addCustomMock {r : Registry} (h : r.Indexed) (fresh : Ref)
    (capability : TypeId) (name : Option String) :
    r.Extends (r.addCustomMock mockOf fresh capability name).registry := by
  unfold addCustomMock
  split
  · exact .refl h
  · exact extends_insert h _

theorem extends_combine {r : Registry} (h : r.Indexed) (fresh : Ref) (capability other : TypeId) :
    r.Extends (r.combine mockOf fresh capability other).registry := by
  have hcreated := extends_getOrCreateMock mockOf h fresh capability none
  unfold combine
  split
  · exact .refl h
  · generalize r.getOrCreateMock mockOf fresh capability none = created at hcreated ⊢
    dsimp only
    split
    · exact hcreated
    · split
      · exact hcreated
      · split
        · exact hcreated
        next entry hentry =>
          split
          · exact hcreated
          · exact hcreated.trans (extends_addAlias hcreated.indexed hentry _)

/-! ## Sequences of operations -/

/-- One operation on a registry short of `clear`, whatever came of it. -/
inductive Step (mockOf : TypeId → TypeId) : Registry → Registry → Prop where
  | getOrCreateMock (r : Registry) (fresh : Ref) (capability : TypeId) (name : Option String) :
      Step mockOf r (r.getOrCreateMock mockOf fresh capability name).registry
  | addCustomMock (r : Registry) (fresh : Ref) (capability : TypeId) (name : Option String) :
      Step mockOf r (r.addCustomMock mockOf fresh capability name).registry
  | useInstance (r : Registry) (capability : TypeId) (ref : Ref) :
      Step mockOf r (r.useInstance mockOf capability ref).1
  -- Registering a value, and keeping the product of a singleton factory.
  | insertValue (r : Registry) (key : Key) (value : Stored) :
      Step mockOf r (r.insertValue mockOf key value).1
  | combine (r : Registry) (fresh : Ref) (capability other : TypeId) :
      Step mockOf r (r.combine mockOf fresh capability other).registry

/-- A sequence of operations without `clear`. -/
abbrev Run (mockOf : TypeId → TypeId) : Registry → Registry → Prop :=
  Relation.ReflTransGen (Step mockOf)

/-- The registries that sequences of operations produce. -/
inductive Reachable (mockOf : TypeId → TypeId) : Registry → Prop where
  | empty : Reachable mockOf empty
  | step {r r' : Registry} : Reachable mockOf r → Step mockOf r r' → Reachable mockOf r'
  | clear {r : Registry} : Reachable mockOf r → Reachable mockOf r.clear

/-- A step lemma for all operations: an indexed registry is extended. -/
theorem Step.extends {r r' : Registry} (hstep : Step mockOf r r') (h : r.Indexed) :
    r.Extends r' := by
  cases hstep with
  | getOrCreateMock fresh capability name => exact extends_getOrCreateMock mockOf h fresh capability name
  | addCustomMock fresh capability name => exact extends_addCustomMock h fresh capability name
  | useInstance capability ref => exact extends_insert h _
  | insertValue key value => exact extends_insert h _
  | combine fresh capability other => exact extends_combine h fresh capability other

/-- Without `clear`, no sequence of operations moves an entry. -/
theorem Run.extends {r r' : Registry} (hrun : Run mockOf r r') (h : r.Indexed) : r.Extends r' := by
  induction hrun with
  | refl => exact .refl h
  | tail _ hstep ih => exact ih.trans (hstep.extends ih.indexed)

/-- Every registry that operations produce is indexed. -/
theorem Reachable.indexed {r : Registry} (hr : Reachable mockOf r) : r.Indexed := by
  induction hr with
  | empty => exact indexed_empty
  | step _ hstep ih => exact (hstep.extends ih).indexed
  | clear _ _ => exact indexed_empty

end Registry

end TestDoubles
