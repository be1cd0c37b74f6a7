import TestDoubles.Proofs.Registry.Answers

/-!
# Doubles and their views

An entry of a double holds the double itself, the object that is injected for its own key, and one
object for each alias. All of these are to be views of one object, and no two entries are to share a
double. Entries are replaced and aliases are carried over to the replacement, so this has to be kept up
by every operation; here it is.

- `Entry.Coherent` says of one entry what it consists of, `Registry.Coherent` of a registry that all
  its entries do and that no two of them share a double.
- `Registry.Coherent.write` is about the one entry that an operation writes, and
  `Registry.Coherent.insert` about a new entry, which takes over the aliases of the one it replaces.
-/

namespace TestDoubles

/-- Whether an entry of this origin is a double. -/
def Origin.isMock : Origin → Bool
  | .autoMock | .customMock => true
  | .real | .value => false

/-- An entry consists of what its origin tells. -/
structure Entry.Coherent (mockOf : TypeId → TypeId) (entry : Entry) : Prop where
  -- The object and the aliases of a double are views of it.
  mock : entry.origin.isMock → ∃ ref, entry.handle = some ⟨mockOf entry.key.type, ref⟩ ∧
    entry.object = .object entry.key.type ref ∧
    ∀ a ∈ entry.aliases, a.object = .object a.key.type ref
  real : entry.origin = .real → ∃ ref, entry.object = .object entry.key.type ref
  value : entry.origin = .value → ∃ datum, entry.object = .value entry.key.type datum
  -- Anything else has neither a double nor aliases.
  plain : entry.origin.isMock = false → entry.handle = none ∧ entry.aliases = []
  -- Nothing is registered under the empty name.
  name_ne : entry.key.name ≠ some ""
  aliasKeys_unnamed : ∀ key ∈ entry.aliasKeys, key.name = none
  aliasKeys_nodup : entry.aliasKeys.Nodup
  key_not_mem_aliasKeys : entry.key ∉ entry.aliasKeys

namespace Registry

variable {mockOf : TypeId → TypeId}

/-- All entries are coherent, and their doubles are different ones among the first `allocated`
objects. -/
structure Coherent (mockOf : TypeId → TypeId) (allocated : Nat) (r : Registry) : Prop where
  indexed : r.Indexed
  entries : ∀ entry ∈ r.entries, entry.Coherent mockOf
  handle_lt : ∀ entry ∈ r.entries, ∀ handle, entry.handle = some handle →
    handle.ref.index < allocated
  handle_inj : ∀ (i j : Nat) (entry other : Entry) (handle handle' : Handle),
    r.entries[i]? = some entry → r.entries[j]? = some other → entry.handle = some handle →
    other.handle = some handle' → handle.ref = handle'.ref → i = j

end Registry

/-! ## Single entries -/

namespace Entry

variable {mockOf : TypeId → TypeId} {entry previous : Entry}

theorem mem_aliasKeys_iff (entry : Entry) (key : Key) :
    key ∈ entry.aliasKeys ↔ entry.hasAlias key := by
  simp [aliasKeys, hasAlias]

/-- A new entry without aliases has nothing to say of them. -/
theorem coherent_of_aliases_nil (haliases : entry.aliases = [])
    (hname : entry.key.name ≠ some "")
    (hmock : entry.origin.isMock → ∃ ref, entry.handle = some ⟨mockOf entry.key.type, ref⟩ ∧
      entry.object = .object entry.key.type ref)
    (hreal : entry.origin = .real → ∃ ref, entry.object = .object entry.key.type ref)
    (hvalue : entry.origin = .value → ∃ datum, entry.object = .value entry.key.type datum)
    (hplain : entry.origin.isMock = false → entry.handle = none) : entry.Coherent mockOf where
  mock horigin := by
    obtain ⟨ref, hhandle, hobject⟩ := hmock horigin
    exact ⟨ref, hhandle, hobject, by simp [haliases]⟩
  real := hreal
  value := hvalue
  plain horigin := ⟨hplain horigin, haliases⟩
  name_ne := hname
  aliasKeys_unnamed := by simp [aliasKeys, haliases]
  aliasKeys_nodup := by simp [aliasKeys, haliases]
  key_not_mem_aliasKeys := by simp [aliasKeys, haliases]

theorem coherent_ofMock (mockOf : TypeId → TypeId) {origin : Origin} (horigin : origin.isMock)
    {key : Key} (hname : key.name ≠ some "") (ref : Ref) :
    (ofMock origin (mockOf key.type) ⟨key, ref, ref⟩).Coherent mockOf := by
  apply coherent_of_aliases_nil rfl hname
  · exact fun _ => ⟨ref, rfl, rfl⟩
  · rintro rfl
    cases horigin
  · rintro rfl
    cases horigin
  · intro hplain
    rw [show (ofMock origin (mockOf key.type) ⟨key, ref, ref⟩).origin = origin from rfl, horigin]
      at hplain
    cases hplain

theorem coherent_ofReal (mockOf : TypeId → TypeId) (capability : TypeId) (ref : Ref) :
    (ofReal capability ref).Coherent mockOf := by
  apply coherent_of_aliases_nil rfl (by simp [ofReal])
  · simp [ofReal, Origin.isMock]
  · exact fun _ => ⟨ref, rfl⟩
  · simp [ofReal]
  · exact fun _ => rfl

theorem coherent_ofValue (mockOf : TypeId → TypeId) (type : TypeId) (datum : Datum) :
    (ofValue (.of type) (.value type datum)).Coherent mockOf := by
  apply coherent_of_aliases_nil rfl (by simp [ofValue])
  · simp [ofValue, Origin.isMock]
  · simp [ofValue]
  · exact fun _ => ⟨datum, rfl⟩
  · exact fun _ => rfl

namespace Coherent

/-- Only doubles have a double. -/
theorem isMock_of_handle (h : entry.Coherent mockOf) {handle : Handle}
    (hhandle : entry.handle = some handle) : entry.origin.isMock := by
  cases horigin : entry.origin.isMock with
  | true => rfl
  | false =>
    have hnone := (h.plain horigin).1
    rw [hhandle] at hnone
    cases hnone

/-- What the entry of a double provides is a view of the double. -/
theorem provides?_of_handle (h : entry.Coherent mockOf) {handle : Handle}
    (hhandle : entry.handle = some handle) {key : Key} {object : Stored}
    (hprovides : entry.provides? key = some object) : object = .object key.type handle.ref := by
  obtain ⟨ref, hown, hobject, haliases⟩ := h.mock (h.isMock_of_handle hhandle)
  obtain rfl : handle = ⟨mockOf entry.key.type, ref⟩ := Option.some.inj (hhandle.symm.trans hown)
  unfold provides? at hprovides
  by_cases hkey : entry.key = key
  · rw [if_pos hkey] at hprovides
    rw [← Option.some.inj hprovides, hobject, hkey]
  · rw [if_neg hkey] at hprovides
    obtain ⟨a, hfind, rfl⟩ := Option.map_eq_some_iff.mp hprovides
    have ha : a.key = key := by simpa using List.find?_some hfind
    rw [haliases a (List.mem_of_find?_eq_some hfind), ha]

/-- What any other entry provides is what is registered under its own key. -/
theorem provides?_of_plain (h : entry.Coherent mockOf) (horigin : entry.origin.isMock = false)
    {key : Key} {object : Stored} (hprovides : entry.provides? key = some object) :
    entry.key = key ∧ object = entry.object := by
  obtain ⟨-, haliases⟩ := h.plain horigin
  unfold provides? at hprovides
  by_cases hkey : entry.key = key
  · rw [if_pos hkey] at hprovides
    exact ⟨hkey, (Option.some.inj hprovides).symm⟩
  · rw [if_neg hkey, haliases] at hprovides
    cases hprovides

/-- One more alias, for a capability that the double does not serve yet. -/
theorem addAlias (h : entry.Coherent mockOf) {handle : Handle}
    (hhandle : entry.handle = some handle) {other : TypeId}
    (hnone : entry.provides? (.of other) = none) :
    Coherent mockOf
      { entry with aliases := entry.aliases ++ [⟨.of other, .object other handle.ref⟩] } := by
  have horigin := h.isMock_of_handle hhandle
  obtain ⟨ref, hown, hobject, haliases⟩ := h.mock horigin
  obtain rfl : handle = ⟨mockOf entry.key.type, ref⟩ := Option.some.inj (hhandle.symm.trans hown)
  have hfree : ¬(entry.key = .of other ∨ entry.hasAlias (.of other)) := by
    rw [← Registry.provides?_isSome_iff, hnone]
    simp
  obtain ⟨hkey, halias⟩ := not_or.mp hfree
  have hkeys (a : Alias) : aliasKeys { entry with aliases := entry.aliases ++ [a] } =
      entry.aliasKeys ++ [a.key] := by
    simp [aliasKeys]
  constructor
  · intro _
    refine ⟨ref, hown, hobject, ?_⟩
    intro a ha
    rcases List.mem_append.mp ha with hold | hnew
    · exact haliases a hold
    · rw [List.mem_singleton.mp hnew]
      rfl
  · exact h.real
  · exact h.value
  · intro hplain
    rw [show entry.origin.isMock = true from horigin] at hplain
    cases hplain
  · exact h.name_ne
  · intro key hmem
    rw [hkeys, List.mem_append, List.mem_singleton] at hmem
    rcases hmem with hold | rfl
    · exact h.aliasKeys_unnamed key hold
    · rfl
  · rw [hkeys]
    refine List.nodup_append.mpr ⟨h.aliasKeys_nodup, List.pairwise_singleton _ _, ?_⟩
    rintro a ha b hb rfl
    rw [List.mem_singleton.mp hb] at ha
    exact halias ((mem_aliasKeys_iff entry _).mp ha)
  · rw [hkeys, List.mem_append, List.mem_singleton, not_or]
    exact ⟨h.key_not_mem_aliasKeys, hkey⟩

end Coherent

end Entry

namespace Registry

/-! ## Aliases that are carried over -/

section Carried

variable {mockOf : TypeId → TypeId} {previous entry : Entry}

/-- An alias keeps its key, and views the double of the replacement. -/
theorem rebind?_eq_some {old carried : Alias} (h : rebind? mockOf entry old = some carried) :
    ∃ ref, entry.handle = some ⟨mockOf old.key.type, ref⟩ ∧
      carried = ⟨old.key, .object old.key.type ref⟩ := by
  obtain ⟨object, hobject, rfl⟩ := Option.map_eq_some_iff.mp h
  obtain ⟨handle, hhandle, hview⟩ := Option.bind_eq_some_iff.mp hobject
  obtain ⟨ref, href, rfl⟩ := Option.map_eq_some_iff.mp hview
  rw [Handle.as?_eq_some_iff.mp href] at hhandle
  exact ⟨ref, hhandle, rfl⟩

/-- A double serves whatever its type stands in for. -/
theorem rebind?_of_handle {handle : Handle} (hhandle : entry.handle = some handle) {old : Alias}
    (htype : handle.mockType = mockOf old.key.type) :
    rebind? mockOf entry old = some ⟨old.key, .object old.key.type handle.ref⟩ := by
  simp [rebind?, hhandle, Handle.viewAs?, Handle.as?, htype]

/-- An alias that the replacement serves is carried over. -/
theorem hasAlias_carriedAliases {old carried : Alias} (hold : old ∈ previous.aliases)
    (hrebind : rebind? mockOf entry old = some carried) :
    Entry.hasAlias { entry with aliases := carriedAliases mockOf previous entry } old.key := by
  obtain ⟨ref, -, rfl⟩ := rebind?_eq_some hrebind
  exact List.any_eq_true.mpr ⟨_, List.mem_filterMap.mpr ⟨old, hold, hrebind⟩, decide_eq_true rfl⟩

theorem aliasKeys_carriedAliases (mockOf : TypeId → TypeId) (previous entry : Entry) :
    ((carriedAliases mockOf previous entry).map Alias.key).Sublist previous.aliasKeys := by
  unfold carriedAliases Entry.aliasKeys
  induction previous.aliases with
  | nil => exact List.Sublist.slnil
  | cons old rest ih =>
    cases hrebind : rebind? mockOf entry old with
    | none =>
      rw [List.filterMap_cons_none hrebind, List.map_cons]
      exact ih.cons old.key
    | some carried =>
      obtain ⟨ref, -, rfl⟩ := rebind?_eq_some hrebind
      rw [List.filterMap_cons_some hrebind, List.map_cons, List.map_cons]
      exact ih.cons_cons old.key

/-- A coherent entry takes over the aliases of the one it replaces. -/
theorem coherent_carriedAliases (hprevious : previous.Coherent mockOf)
    (hentry : entry.Coherent mockOf) (hkey : previous.key = entry.key) :
    Entry.Coherent mockOf { entry with aliases := carriedAliases mockOf previous entry } := by
  have hsublist := aliasKeys_carriedAliases mockOf previous entry
  constructor
  · intro horigin
    obtain ⟨ref, hhandle, hobject, -⟩ := hentry.mock horigin
    refine ⟨ref, hhandle, hobject, ?_⟩
    intro carried hcarried
    obtain ⟨old, -, hrebind⟩ := List.mem_filterMap.mp hcarried
    obtain ⟨ref', hhandle', rfl⟩ := rebind?_eq_some hrebind
    have hsame := Handle.mk.inj (Option.some.inj (hhandle.symm.trans hhandle'))
    rw [hsame.2]
  · exact hentry.real
  · exact hentry.value
  · intro horigin
    obtain ⟨hhandle, -⟩ := hentry.plain horigin
    refine ⟨hhandle, List.filterMap_eq_nil_iff.mpr fun old _ => ?_⟩
    simp [rebind?, hhandle]
  · exact hentry.name_ne
  · exact fun key hmem => hprevious.aliasKeys_unnamed key (hsublist.subset hmem)
  · exact hprevious.aliasKeys_nodup.sublist hsublist
  · intro hmem
    apply hprevious.key_not_mem_aliasKeys
    rw [hkey]
    exact hsublist.subset hmem

end Carried

/-! ## Writing one entry -/

theorem getElem?_set_cases {entries : List Entry} {entry other : Entry} {i k : Nat}
    (h : (entries.set k entry)[i]? = some other) :
    i = k ∧ other = entry ∨ i ≠ k ∧ entries[i]? = some other := by
  rw [List.getElem?_set] at h
  by_cases hik : k = i
  · rw [if_pos hik] at h
    split at h
    · exact .inl ⟨hik.symm, (Option.some.inj h).symm⟩
    · cases h
  · rw [if_neg hik] at h
    exact .inr ⟨Ne.symm hik, h⟩

theorem getElem?_concat_cases {entries : List Entry} {entry other : Entry} {i : Nat}
    (h : (entries ++ [entry])[i]? = some other) :
    i = entries.length ∧ other = entry ∨ i ≠ entries.length ∧ entries[i]? = some other := by
  rcases Nat.lt_trichotomy i entries.length with hlt | rfl | hgt
  · rw [List.getElem?_append_left hlt] at h
    exact .inr ⟨Nat.ne_of_lt hlt, h⟩
  · rw [List.getElem?_concat_length] at h
    exact .inl ⟨rfl, (Option.some.inj h).symm⟩
  · have hlength := (List.getElem?_eq_some_iff.mp h).1
    rw [List.length_append, List.length_singleton] at hlength
    omega

namespace Coherent

variable {mockOf : TypeId → TypeId} {n m : Nat} {r r' : Registry}

theorem allocate (h : r.Coherent mockOf n) (hnm : n ≤ m) : r.Coherent mockOf m where
  indexed := h.indexed
  entries := h.entries
  handle_lt entry hentry handle hhandle :=
    Nat.lt_of_lt_of_le (h.handle_lt entry hentry handle hhandle) hnm
  handle_inj := h.handle_inj

/-- One position is written, with an entry whose double is new or was there before. -/
theorem write (h : r.Coherent mockOf n) (hindexed : r'.Indexed) (hnm : n ≤ m) (k : Nat)
    {entry : Entry} (hentry : entry.Coherent mockOf)
    (hwritten : ∀ i other, r'.entries[i]? = some other →
      i = k ∧ other = entry ∨ i ≠ k ∧ r.entries[i]? = some other)
    (hhandle : ∀ handle, entry.handle = some handle →
      n ≤ handle.ref.index ∧ handle.ref.index < m ∨
        ∃ previous, r.entries[k]? = some previous ∧ previous.handle = some handle) :
    r'.Coherent mockOf m := by
  have hcases {other : Entry} (hother : other ∈ r'.entries) :
      other = entry ∨ other ∈ r.entries := by
    obtain ⟨i, hi⟩ := List.mem_iff_getElem?.mp hother
    rcases hwritten i other hi with ⟨-, hsame⟩ | ⟨-, hold⟩
    · exact .inl hsame
    · exact .inr (List.mem_of_getElem? hold)
  -- Another entry with the double of the written one would have had it before.
  have hnew {j : Nat} {other : Entry} {handle handle' : Handle} (hj : r.entries[j]? = some other)
      (hown : entry.handle = some handle) (hother : other.handle = some handle')
      (href : handle.ref = handle'.ref) : k = j := by
    rcases hhandle handle hown with ⟨hle, -⟩ | ⟨previous, hk, hprevious⟩
    · have hlt := h.handle_lt other (List.mem_of_getElem? hj) handle' hother
      rw [← href] at hlt
      omega
    · exact h.handle_inj k j previous other handle handle' hk hj hprevious hother href
  constructor
  · exact hindexed
  · intro other hother
    rcases hcases hother with rfl | hold
    · exact hentry
    · exact h.entries other hold
  · intro other hother handle hown
    rcases hcases hother with rfl | hold
    · rcases hhandle handle hown with ⟨-, hlt⟩ | ⟨previous, hk, hprevious⟩
      · exact hlt
      · have hlt := h.handle_lt previous (List.mem_of_getElem? hk) handle hprevious
        omega
    · have hlt := h.handle_lt other hold handle hown
      omega
  · intro i j first second handle handle' hi hj hfirst hsecond href
    rcases hwritten i first hi with ⟨rfl, rfl⟩ | ⟨hik, hi'⟩ <;>
      rcases hwritten j second hj with ⟨rfl, rfl⟩ | ⟨hjk, hj'⟩
    · rfl
    · exact hnew hj' hfirst hsecond href
    · exact (hnew hi' hsecond hfirst href.symm).symm
    · exact h.handle_inj i j first second handle handle' hi' hj' hfirst hsecond href

/-- A new entry is registered, without a double or with a new one. -/
theorem insert (h : r.Coherent mockOf n) (hnm : n ≤ m) {entry : Entry}
    (hentry : entry.Coherent mockOf)
    (hhandle : ∀ handle, entry.handle = some handle →
      n ≤ handle.ref.index ∧ handle.ref.index < m) :
    (r.insert mockOf entry).1.Coherent mockOf m := by
  have hindexed : (r.insert mockOf entry).1.Indexed := indexed_insert h.indexed entry
  rcases insert_cases mockOf h.indexed entry with
    ⟨i, previous, -, hi, hkey, heq⟩ | ⟨-, heq⟩
  · have hcarried := coherent_carriedAliases (h.entries previous (List.mem_of_getElem? hi)) hentry hkey
    refine h.write hindexed hnm i hcarried ?_ fun handle hown => .inl (hhandle handle hown)
    rw [heq]
    exact fun j other hj => getElem?_set_cases hj
  · refine h.write hindexed hnm r.entries.length hentry ?_ fun handle hown =>
      .inl (hhandle handle hown)
    rw [heq]
    exact fun j other hj => getElem?_concat_cases hj

/-- A new double is registered. -/
theorem insert_ofMock (h : r.Coherent mockOf n) {origin : Origin} (horigin : origin.isMock)
    {key : Key} (hname : key.name ≠ some "") :
    (r.insert mockOf (.ofMock origin (mockOf key.type) ⟨key, ⟨n⟩, ⟨n⟩⟩)).1.Coherent mockOf
      (n + 1) := by
  apply h.insert (Nat.le_succ n) (Entry.coherent_ofMock mockOf horigin hname ⟨n⟩)
  intro handle hown
  rw [← Option.some.inj hown]
  exact ⟨Nat.le_refl n, Nat.lt_succ_self n⟩

end Coherent

end Registry

end TestDoubles
