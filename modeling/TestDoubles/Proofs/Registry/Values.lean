import TestDoubles.Proofs.Registry.Requests

/-!
# Values that a registry holds

A value that is registered for a type is found under the type until something else is registered under
the very same key. No double that is created on demand and no combination of doubles takes its place.

- `Registry.held?` is the value that is registered under the key of its type, and `Registry.Holds` says
  that there is one.
- `Registry.Coherent.value?_eq_held?` says that this is the value that can be read.
-/

namespace TestDoubles

namespace Registry

/-- The entry of the type itself is a plain value of it. -/
def Holds (type : TypeId) (r : Registry) : Prop :=
  ∃ i entry datum, r.exact.find? (.of type) = some i ∧ r.entries[i]? = some entry ∧
    entry.object = .value type datum

/-- The value of the entry of the type itself. -/
def held? (type : TypeId) (r : Registry) : Option Datum :=
  ((r.exact.find? (.of type)).bind fun i => r.entries[i]?).bind fun entry =>
    entry.object.value? type

variable {type : TypeId} {r : Registry}

theorem held?_eq_some_iff {datum : Datum} : r.held? type = some datum ↔
    ∃ i entry, r.exact.find? (.of type) = some i ∧ r.entries[i]? = some entry ∧
      entry.object = .value type datum := by
  unfold held?
  constructor
  · intro h
    obtain ⟨entry, hfound, hvalue⟩ := Option.bind_eq_some_iff.mp h
    obtain ⟨i, hexact, hentry⟩ := Option.bind_eq_some_iff.mp hfound
    exact ⟨i, entry, hexact, hentry, Stored.value?_eq_some_iff.mp hvalue⟩
  · rintro ⟨i, entry, hexact, hentry, hobject⟩
    simp [hexact, hentry, hobject]

theorem holds_iff : r.Holds type ↔ ∃ datum, r.held? type = some datum := by
  constructor
  · rintro ⟨i, entry, datum, h⟩
    exact ⟨datum, held?_eq_some_iff.mpr ⟨i, entry, h⟩⟩
  · rintro ⟨datum, h⟩
    obtain ⟨i, entry, h⟩ := held?_eq_some_iff.mp h
    exact ⟨i, entry, datum, h⟩

/-! ## What operations do to it -/

section Operations

variable (mockOf : TypeId → TypeId) (h : r.Indexed)

include h

/-- What is registered for the type itself takes the place of a value, and nothing else does. -/
theorem held?_insert (entry : Entry) : (r.insert mockOf entry).1.held? type =
    if entry.key = .of type then entry.object.value? type else r.held? type := by
  unfold held?
  rcases insert_cases mockOf h entry with ⟨i, previous, hexact, hi, hprevious, heq⟩ | ⟨hnone, heq⟩
  · have hlt : i < r.entries.length := (List.getElem?_eq_some_iff.mp hi).1
    rw [heq]
    by_cases hkey : entry.key = .of type
    · rw [if_pos hkey, show r.exact.find? (.of type) = some i from hkey ▸ hexact]
      simp [hlt]
    · -- Another key leads to another position.
      rw [if_neg hkey]
      cases hown : r.exact.find? (.of type) with
      | none => rfl
      | some j =>
        obtain ⟨held, hheld, hsame⟩ := h.key_of_find?_exact hown
        have hij : i ≠ j := by
          rintro rfl
          obtain rfl : previous = held := Option.some.inj (hi.symm.trans hheld)
          exact hkey (hprevious ▸ hsame)
        simp [List.getElem?_set_ne hij]
  · rw [heq]
    by_cases hkey : entry.key = .of type
    · simp [hkey]
    · rw [if_neg hkey, Table.find?_insert_of_ne _ _ hkey]
      cases hown : r.exact.find? (.of type) with
      | none => rfl
      | some j =>
        obtain ⟨held, hheld, -⟩ := h.key_of_find?_exact hown
        have hlt : j < r.entries.length := (List.getElem?_eq_some_iff.mp hheld).1
        simp [List.getElem?_append_left hlt]

theorem held?_insertValue (product : TypeId) (datum : Datum) :
    (r.insertValue mockOf (.of product) (.value product datum)).1.held? type =
      if product = type then some datum else r.held? type := by
  rw [insertValue, held?_insert mockOf h]
  simp only [Entry.ofValue, Key.of_inj]
  split
  next hsame => simp [hsame]
  next => rfl

variable {fresh : Ref} {capability other : TypeId} {name : Option String}

omit h in
/-- A double is created for a key without an entry, so in the place of no value. -/
theorem Requested.held?_eq (h : r.Indexed) {outcome : Outcome Mock}
    (hrequested : Requested mockOf r fresh capability name outcome) :
    outcome.registry.held? type = r.held? type := by
  cases hrequested with
  | nameless _ => rfl
  | found _ _ => rfl
  | created _ hnone =>
    rw [held?_insert mockOf h]
    split
    next hkey =>
      have hexact : r.exact.find? (.of type) = none := by
        rw [← hkey]
        unfold position? at hnone
        split at hnone
        · cases hnone
        · assumption
      simp [held?, hexact, Entry.ofMock, Stored.value?]
    next => rfl

theorem held?_getOrCreateMock :
    (r.getOrCreateMock mockOf fresh capability name).registry.held? type = r.held? type :=
  (requested mockOf h fresh capability name).held?_eq mockOf h

omit h in
/-- Another alias for an entry leaves its object as it is. -/
theorem held?_addAlias {i : Nat} {entry : Entry} (hi : r.entries[i]? = some entry) (added : Alias) :
    held? type { r with
      entries := r.entries.set i { entry with aliases := entry.aliases ++ [added] } } =
        r.held? type := by
  unfold held?
  cases r.exact.find? (.of type) with
  | none => rfl
  | some j =>
    by_cases hij : i = j
    · subst hij
      have hlt : i < r.entries.length := (List.getElem?_eq_some_iff.mp hi).1
      simp [List.getElem?_set_self hlt, hi]
    · simp [List.getElem?_set_ne hij]

theorem held?_combine :
    (r.combine mockOf fresh capability other).registry.held? type = r.held? type := by
  have hcombined := combined mockOf h fresh capability other
  generalize r.combine mockOf fresh capability other = outcome at hcombined ⊢
  cases hcombined with
  | itself _ => rfl
  | refused hcreated _ => exact hcreated.held?_eq mockOf h
  | served hcreated _ _ => exact hcreated.held?_eq mockOf h
  | added hcreated _ _ hentry _ _ => exact (held?_addAlias hentry _).trans (hcreated.held?_eq mockOf h)

theorem held?_addCustomMock :
    (r.addCustomMock mockOf fresh capability name).registry.held? type =
      if (⟨capability, name⟩ : Key) = .of type then none else r.held? type := by
  rcases addCustomMock_cases mockOf r fresh capability name with ⟨hname, heq⟩ | ⟨-, -, hregistry⟩
  · have hkey : (⟨capability, name⟩ : Key) ≠ .of type := by
      rw [hname]
      exact fun hkey => nomatch (Key.mk.inj hkey).2
    rw [heq, if_neg hkey]
  · rw [hregistry, held?_insert mockOf h]
    rfl

end Operations

/-! ## Whether there is one -/

section Holding

variable (mockOf : TypeId → TypeId) (h : r.Indexed)

include h

theorem Indexed.value?_of_holds (hholds : r.Holds type) :
    ∃ datum, r.value? type = some datum := by
  obtain ⟨i, entry, datum, hexact, hentry, hobject⟩ := hholds
  obtain ⟨entry', hentry', hkey⟩ := h.key_of_find?_exact hexact
  obtain rfl : entry = entry' := Option.some.inj (hentry.symm.trans hentry')
  refine ⟨datum, ?_⟩
  simp [value?, lookup, entry?, position?, hexact, hentry, Entry.provides?, hkey, hobject]

/-- What is registered under another key leaves a value where it is. -/
theorem holds_insert_of_ne {entry : Entry} (hkey : entry.key ≠ .of type) (hholds : r.Holds type) :
    (r.insert mockOf entry).1.Holds type := by
  rw [holds_iff, held?_insert mockOf h, if_neg hkey]
  exact holds_iff.mp hholds

/-- A value that is registered is held. -/
theorem holds_insertValue (datum : Datum) :
    (r.insertValue mockOf (.of type) (.value type datum)).1.Holds type := by
  rw [holds_iff, held?_insertValue mockOf h, if_pos rfl]
  exact ⟨datum, rfl⟩

/-- A value that is registered, for whatever type, displaces no value. -/
theorem holds_insertValue_of_holds (other : TypeId) (datum : Datum) (hholds : r.Holds type) :
    (r.insertValue mockOf (.of other) (.value other datum)).1.Holds type := by
  rw [holds_iff, held?_insertValue mockOf h]
  split
  · exact ⟨datum, rfl⟩
  · exact holds_iff.mp hholds

theorem holds_getOrCreateMock (fresh : Ref) (capability : TypeId) (name : Option String)
    (hholds : r.Holds type) :
    (r.getOrCreateMock mockOf fresh capability name).registry.Holds type := by
  rw [holds_iff, held?_getOrCreateMock mockOf h]
  exact holds_iff.mp hholds

theorem holds_combine (fresh : Ref) (capability other : TypeId) (hholds : r.Holds type) :
    (r.combine mockOf fresh capability other).registry.Holds type := by
  rw [holds_iff, held?_combine mockOf h]
  exact holds_iff.mp hholds

/-- Registering a double leaves a value alone, unless it is for the type of the value. -/
theorem holds_addCustomMock (fresh : Ref) {capability : TypeId} {name : Option String}
    (hne : ¬(capability = type ∧ name = none)) (hholds : r.Holds type) :
    (r.addCustomMock mockOf fresh capability name).registry.Holds type := by
  have hkey : (⟨capability, name⟩ : Key) ≠ .of type := fun hown => hne (Key.mk.inj hown)
  rw [holds_iff, held?_addCustomMock mockOf h, if_neg hkey]
  exact holds_iff.mp hholds

end Holding

/-! ## What can be read -/

/-- **The value that can be read for a type is the one that is registered under its own key**: what an
alias provides is an object. -/
theorem Coherent.value?_eq_held? {mockOf : TypeId → TypeId} {n : Nat} (h : r.Coherent mockOf n)
    (type : TypeId) : r.value? type = r.held? type := by
  unfold value? lookup held? entry? position?
  cases hexact : r.exact.find? (.of type) with
  | some i =>
    obtain ⟨entry, hentry, hkey⟩ := h.indexed.key_of_find?_exact hexact
    simp [hentry, Entry.provides?, hkey]
  | none =>
    simp only [Option.bind_none]
    by_contra hne
    obtain ⟨datum, hvalue⟩ := Option.ne_none_iff_exists'.mp hne
    simp only [Option.bind_eq_some_iff, Option.map_eq_some_iff] at hvalue
    obtain ⟨found, ⟨entry, ⟨i, -, hget⟩, object, hobject, rfl⟩, hdatum⟩ := hvalue
    have hentry := h.entries entry (List.mem_of_getElem? hget)
    cases horigin : entry.origin.isMock with
    | true =>
      obtain ⟨ref, hhandle, -⟩ := hentry.mock horigin
      rw [hentry.provides?_of_handle hhandle hobject] at hdatum
      cases hdatum
    | false =>
      obtain ⟨hkey, -⟩ := hentry.provides?_of_plain horigin hobject
      rw [← hkey, h.indexed.find?_exact_key hget] at hexact
      cases hexact

end Registry

end TestDoubles
