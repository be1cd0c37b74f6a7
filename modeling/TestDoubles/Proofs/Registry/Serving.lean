import TestDoubles.Construction
import TestDoubles.Proofs.Registry.Requests

/-!
# Entries that go on to answer

Which entry answers for a key can change: an entry of that very key takes over from an alias, and an
alias in front takes over from one behind. Here it is shown that nothing else makes a difference. As
long as nothing is registered under the key or in the place of the entry, and no other double is
combined with the key, the entry that answers now answers later, and says the same.

- `Registry.Serves` holds of the entry that answers for a key, however many aliases it has got since.
- `Entry.Uniform` says that the aliases of an entry are served by the type of double that it has.
- `Registry.Backs` says that what was injected is backed by an entry, and `Registry.Backs.doubled` and
  `Registry.Backs.plain` what the registry answers then.
-/

namespace TestDoubles

/-- The double of an entry is of the type that stands in for its capability, and for those of all its
aliases. -/
structure Entry.Uniform (mockOf : TypeId → TypeId) (entry : Entry) : Prop where
  handle : ∀ handle, entry.handle = some handle → handle.mockType = mockOf entry.key.type
  aliases : ∀ a ∈ entry.aliases, mockOf a.key.type = mockOf entry.key.type

section Entries

variable {mockOf : TypeId → TypeId} {entry : Entry} {key : Key}

/-- What an entry provides for a key is served by the type of double that the key asks for. -/
theorem Entry.Uniform.mockOf_eq (h : entry.Uniform mockOf)
    (hprovides : (entry.provides? key).isSome) : mockOf key.type = mockOf entry.key.type := by
  rcases (Registry.provides?_isSome_iff entry key).mp hprovides with rfl | halias
  · rfl
  · obtain ⟨a, ha, rfl⟩ := List.mem_map.mp ((Entry.mem_aliasKeys_iff entry key).mpr halias)
    exact h.aliases a ha

/-- Nothing is provided under the empty name. -/
theorem Entry.Coherent.name_ne_of_provides (h : entry.Coherent mockOf)
    (hprovides : (entry.provides? key).isSome) : key.name ≠ some "" := by
  rcases (Registry.provides?_isSome_iff entry key).mp hprovides with rfl | halias
  · exact h.name_ne
  · rw [h.aliasKeys_unnamed key ((Entry.mem_aliasKeys_iff entry key).mpr halias)]
    simp

end Entries

namespace Registry

variable {mockOf : TypeId → TypeId} {r : Registry} {key : Key} {entry : Entry}

/-! ## Who answers -/

/-- The entry answers for the key; it may have got more aliases by now. -/
def Serves (r : Registry) (key : Key) (entry : Entry) : Prop :=
  ∃ i later, r.position? key = some i ∧
    r.entries[i]? = some { entry with aliases := entry.aliases ++ later } ∧
    (entry.provides? key).isSome

theorem serves_of_found (h : r.Indexed) (hentry : r.entry? key = some entry) :
    r.Serves key entry := by
  obtain ⟨i, hposition, hget⟩ := Option.bind_eq_some_iff.mp hentry
  exact ⟨i, [], hposition, by simpa using hget, provides?_of_found h hentry⟩

/-- The own key of an entry is found. -/
theorem Indexed.position?_isSome (h : r.Indexed) (hentry : entry ∈ r.entries) :
    (r.position? entry.key).isSome := by
  have hanswers : answers r.entries entry.key = true := by
    apply List.any_eq_true.mpr
    exact ⟨entry, hentry, by simp [Entry.provides?]⟩
  rw [← h.contains_eq_answers] at hanswers
  exact hanswers

namespace Serves

theorem entry?_eq (h : r.Serves key entry) :
    ∃ later, r.entry? key = some { entry with aliases := entry.aliases ++ later } := by
  obtain ⟨i, later, hposition, hget, -⟩ := h
  exact ⟨later, by simp [hposition, entry?, hget]⟩

/-- Something is registered, neither under the key nor in the place of the entry. -/
theorem insert (h : r.Serves key entry) (hindexed : r.Indexed) {new : Entry} (hkey : new.key ≠ key)
    (hserver : new.key ≠ entry.key) : (r.insert mockOf new).1.Serves key entry := by
  obtain ⟨i, later, hposition, hget, hprovides⟩ := h
  rcases insert_cases mockOf hindexed new with ⟨j, previous, -, hj, hprevious, heq⟩ | ⟨-, heq⟩
  · have hij : j ≠ i := by
      rintro rfl
      obtain rfl := Option.some.inj (hj.symm.trans hget)
      exact hserver hprevious.symm
    rw [heq]
    refine ⟨i, later, position?_set hj ?_ (fun hji => absurd hji hij) hposition, ?_, hprovides⟩
    · -- The replacement carries over aliases, and gets no new ones.
      intro _ hcarried
      have hmem := (Entry.mem_aliasKeys_iff _ key).mpr hcarried
      apply (Entry.mem_aliasKeys_iff previous key).mp
      exact (aliasKeys_carriedAliases mockOf previous new).subset hmem
    · rw [List.getElem?_set_ne hij]
      exact hget
  · have hlt : i < r.entries.length := (List.getElem?_eq_some_iff.mp hget).1
    rw [heq]
    refine ⟨i, later, ?_, ?_, hprovides⟩
    · unfold position? at hposition ⊢
      rw [Table.find?_insert_of_ne _ _ hkey]
      cases hexact : r.exact.find? key with
      | some k =>
        rw [hexact] at hposition
        exact hposition
      | none =>
        rw [hexact] at hposition
        show (r.entries ++ [new]).findIdx? _ = some i
        rw [List.findIdx?_append, show r.entries.findIdx? _ = some i from hposition]
        rfl
    · rw [List.getElem?_append_left hlt]
      exact hget

/-- Some entry gets another alias, for another key. -/
theorem addAlias (h : r.Serves key entry) {j : Nat} {other : Entry} {added : Alias}
    (hj : r.entries[j]? = some other) (hadded : added.key ≠ key) :
    Serves { r with
      entries := r.entries.set j { other with aliases := other.aliases ++ [added] } } key entry := by
  obtain ⟨i, later, hposition, hget, hprovides⟩ := h
  have hsame : Entry.hasAlias { other with aliases := other.aliases ++ [added] } key =
      other.hasAlias key := by
    simp [Entry.hasAlias, hadded]
  have hfound := position?_set hj (fun _ halias => hsame ▸ halias) (fun _ halias => hsame ▸ halias)
    hposition
  by_cases hij : j = i
  · subst hij
    obtain rfl := Option.some.inj (hj.symm.trans hget)
    refine ⟨j, later ++ [added], hfound, ?_, hprovides⟩
    rw [List.getElem?_set_self (List.getElem?_eq_some_iff.mp hj).1]
    simp
  · refine ⟨i, later, hfound, ?_, hprovides⟩
    rw [List.getElem?_set_ne hij]
    exact hget

/-- A double is requested, under whatever key. -/
theorem requested (h : r.Serves key entry) (hindexed : r.Indexed) {fresh : Ref}
    {capability : TypeId} {name : Option String} {outcome : Outcome Mock}
    (hrequested : Requested mockOf r fresh capability name outcome) :
    outcome.registry.Serves key entry := by
  cases hrequested with
  | nameless _ => exact h
  | found _ _ => exact h
  | created _ hnone =>
    -- A key that has an entry needs no new double, so the new one is for another key.
    obtain ⟨i, later, hposition, hget, -⟩ := id h
    apply h.insert hindexed
    · rintro rfl
      cases hnone.symm.trans hposition
    · intro hown
      have hsome := hindexed.position?_isSome (List.mem_of_getElem? hget)
      have hnone' : r.position? entry.key = none := hown ▸ hnone
      rw [show r.position? _ = none from hnone'] at hsome
      cases hsome

/-- Two capabilities are combined, unless the second is the key and the first has another entry. -/
theorem combined (h : r.Serves key entry) (hindexed : r.Indexed) {fresh : Ref}
    {capability other : TypeId} {outcome : Outcome Mock}
    (hcombined : Combined mockOf r fresh capability other outcome)
    (hsame : .of other = key → r.position? (.of capability) = r.position? key) :
    outcome.registry.Serves key entry := by
  cases hcombined with
  | itself _ => exact h
  | refused hcreated _ => exact h.requested hindexed hcreated
  | served hcreated _ _ => exact h.requested hindexed hcreated
  | @added created mock j found hcreated hok hposition hget _ hfree =>
    by_cases hkey : .of other = key
    · -- The entry for the first one is the entry itself, and it provides the key already.
      exfalso
      obtain ⟨i, later, hi, hentry, hprovides⟩ := id h
      have hcapability : r.position? (.of capability) = some i := (hsame hkey).trans hi
      cases hcreated with
      | nameless hname => cases hname
      | @found first _ _ =>
        obtain ⟨hmock, -⟩ := provides?_of_mockAt hok
        rw [hmock] at hposition
        obtain rfl := Option.some.inj (hcapability.symm.trans hposition)
        obtain rfl := Option.some.inj (hentry.symm.trans hget)
        rw [hkey, provides?_addAliases later hprovides] at hfree
        rw [hfree] at hprovides
        cases hprovides
      | created _ hnone => cases hcapability.symm.trans hnone
    · exact (h.requested hindexed hcreated).addAlias hget hkey

end Serves

/-! ## Types of doubles -/

/-- Every entry has one type of double, for its own capability and for its aliases. -/
structure Uniform (mockOf : TypeId → TypeId) (r : Registry) : Prop where
  indexed : r.Indexed
  entries : ∀ entry ∈ r.entries, entry.Uniform mockOf

theorem uniform_empty (mockOf : TypeId → TypeId) : empty.Uniform mockOf :=
  ⟨indexed_empty, fun _ hentry => nomatch hentry⟩

/-- An entry that is registered serves the aliases that it takes over. -/
theorem Uniform.insert (h : r.Uniform mockOf) {new : Entry} (hnew : new.Uniform mockOf) :
    (r.insert mockOf new).1.Uniform mockOf := by
  refine ⟨indexed_insert h.indexed new, fun entry hentry => ?_⟩
  rcases insert_cases mockOf h.indexed new with ⟨j, previous, -, -, -, heq⟩ | ⟨-, heq⟩
  · rw [heq] at hentry
    rcases List.mem_or_eq_of_mem_set hentry with hold | rfl
    · exact h.entries entry hold
    · refine ⟨hnew.handle, fun carried hcarried => ?_⟩
      obtain ⟨old, -, hrebind⟩ := List.mem_filterMap.mp hcarried
      obtain ⟨ref, hown, rfl⟩ := rebind?_eq_some hrebind
      exact hnew.handle _ hown
  · rw [heq] at hentry
    rcases List.mem_append.mp hentry with hold | hlast
    · exact h.entries entry hold
    · rw [List.mem_singleton.mp hlast]
      exact hnew

theorem uniform_ofMock (mockOf : TypeId → TypeId) (origin : Origin) (mock : Mock) :
    (Entry.ofMock origin (mockOf mock.key.type) mock).Uniform mockOf := by
  refine ⟨fun handle hown => ?_, fun _ ha => nomatch ha⟩
  rw [← Option.some.inj hown]
  rfl

/-- What is no double has no type of double. -/
theorem uniform_of_handle_eq_none (hhandle : entry.handle = none) (haliases : entry.aliases = []) :
    entry.Uniform mockOf := by
  constructor
  · simp [hhandle]
  · simp [haliases]

theorem Requested.uniform (h : r.Uniform mockOf) {fresh : Ref} {capability : TypeId}
    {name : Option String} {outcome : Outcome Mock}
    (hrequested : Requested mockOf r fresh capability name outcome) :
    outcome.registry.Uniform mockOf := by
  cases hrequested with
  | nameless _ => exact h
  | found _ _ => exact h
  | created _ _ => exact h.insert (uniform_ofMock mockOf .autoMock ⟨⟨capability, name⟩, fresh, fresh⟩)

/-- A double is requested under the key that it is for. -/
theorem Requested.key_eq {fresh : Ref} {capability : TypeId} {name : Option String}
    {outcome : Outcome Mock} (hrequested : Requested mockOf r fresh capability name outcome)
    {mock : Mock} (hok : outcome.result = .ok mock) : mock.key = ⟨capability, name⟩ := by
  cases hrequested with
  | nameless _ => cases hok
  | found _ _ => exact (provides?_of_mockAt hok).1
  | created _ _ => rw [← Except.ok.inj hok]

/-- A double that is had of an entry is of the type that was asked for. -/
theorem handle_of_mockAt {mock : Mock} (h : mockAt mockOf entry key = .ok mock) :
    ∃ ref, entry.handle = some ⟨mockOf key.type, ref⟩ := by
  unfold mockAt at h
  split at h
  · cases h
  next ref hview =>
    obtain ⟨handle, hhandle, has⟩ := Option.bind_eq_some_iff.mp hview
    rw [Handle.as?_eq_some_iff.mp has] at hhandle
    exact ⟨ref, hhandle⟩

/-- Combining keeps to one type of double if the two capabilities have the same one. -/
theorem Combined.uniform (h : r.Uniform mockOf) {fresh : Ref} {capability other : TypeId}
    {outcome : Outcome Mock} (hcombined : Combined mockOf r fresh capability other outcome)
    (hsame : mockOf other = mockOf capability) : outcome.registry.Uniform mockOf := by
  cases hcombined with
  | itself _ => exact h
  | refused hcreated _ => exact hcreated.uniform h
  | served hcreated _ _ => exact hcreated.uniform h
  | @added created mock j found hcreated hok _ hget hmock _ =>
    have huniform := hcreated.uniform h
    have hfound := huniform.entries found (List.mem_of_getElem? hget)
    obtain ⟨ref, hhandle⟩ := handle_of_mockAt hmock
    have hown : mockOf capability = mockOf found.key.type := by
      rw [← hfound.handle _ hhandle, hcreated.key_eq hok]
    refine ⟨(extends_addAlias huniform.indexed hget _).indexed, fun entry hentry => ?_⟩
    rcases List.mem_or_eq_of_mem_set hentry with hold | rfl
    · exact huniform.entries entry hold
    · refine ⟨hfound.handle, fun a ha => ?_⟩
      rcases List.mem_append.mp ha with hold | hlast
      · exact hfound.aliases a hold
      · rw [List.mem_singleton.mp hlast]
        exact hsame.trans hown

/-! ## What was injected -/

/-- Something that is registered is found under its own key. -/
theorem lookup_insert (h : r.Indexed) (entry : Entry) :
    (r.insert mockOf entry).1.lookup entry.key = some (entry.object, entry.origin) := by
  obtain ⟨aliases, hentry⟩ := entry?_insert mockOf h entry
  unfold lookup
  rw [hentry]
  simp [Entry.provides?]

/-- What is registered under one key answers for no other, unless what it replaces did. -/
theorem lookup_insert_eq_none (h : r.Indexed) {entry : Entry} {key : Key} (hkey : entry.key ≠ key)
    (haliases : entry.aliases = []) (hnone : r.lookup key = none) :
    (r.insert mockOf entry).1.lookup key = none := by
  rw [h.lookup_eq_none_iff, answers, List.any_eq_false] at hnone
  rw [(indexed_insert h entry).lookup_eq_none_iff, answers, List.any_eq_false]
  intro other hother
  rcases insert_cases mockOf h entry with ⟨i, previous, -, hi, hprevious, heq⟩ | ⟨-, heq⟩
  · rw [heq] at hother
    rcases List.mem_or_eq_of_mem_set hother with hold | rfl
    · exact hnone other hold
    · have hold := hnone previous (List.mem_of_getElem? hi)
      rw [provides?_isSome_iff, not_or] at hold ⊢
      refine ⟨hkey, fun halias => hold.2 ?_⟩
      apply (Entry.mem_aliasKeys_iff previous key).mp
      apply (aliasKeys_carriedAliases mockOf previous entry).subset
      exact (Entry.mem_aliasKeys_iff _ key).mpr halias
  · rw [heq] at hother
    rcases List.mem_append.mp hother with hold | hnew
    · exact hnone other hold
    · obtain rfl := List.mem_singleton.mp hnew
      rw [provides?_isSome_iff, not_or]
      exact ⟨hkey, by simp [Entry.hasAlias, haliases]⟩

theorem Requested.lookup_eq_none (h : r.Indexed) {fresh : Ref} {capability : TypeId}
    {name : Option String} {outcome : Outcome Mock}
    (hrequested : Requested mockOf r fresh capability name outcome) {key : Key}
    (hkey : ⟨capability, name⟩ ≠ key) (hnone : r.lookup key = none) :
    outcome.registry.lookup key = none := by
  cases hrequested with
  | nameless _ => exact hnone
  | found _ _ => exact hnone
  | created _ _ => exact lookup_insert_eq_none h hkey rfl hnone

/-- A double that is created is found. -/
theorem lookup_getOrCreateMock (h : r.Indexed) {fresh : Ref} (hlookup : r.lookup key = none)
    {mock : Mock}
    (hok : (r.getOrCreateMock mockOf fresh key.type key.name).result = .ok mock) :
    (r.getOrCreateMock mockOf fresh key.type key.name).registry.lookup key =
      some (.object mock.capability mock.object, .autoMock) := by
  have hrequested := requested mockOf h fresh key.type key.name
  generalize r.getOrCreateMock mockOf fresh key.type key.name = outcome at hrequested hok ⊢
  cases hrequested with
  | nameless _ => cases hok
  | found _ hentry =>
    obtain ⟨object, hobject⟩ := Option.isSome_iff_exists.mp (provides?_of_found h hentry)
    unfold lookup at hlookup
    rw [hentry, Option.bind_some, hobject] at hlookup
    cases hlookup
  | created _ _ =>
    rw [← Except.ok.inj hok]
    exact lookup_insert h _

/-- A double is requested of the entry that answers. -/
theorem getOrCreateMock_of_found (hname : key.name ≠ some "") (hentry : r.entry? key = some entry)
    (fresh : Ref) : r.getOrCreateMock mockOf fresh key.type key.name =
      { result := mockAt mockOf entry key, registry := r } := by
  obtain ⟨i, hposition, hget⟩ := Option.bind_eq_some_iff.mp hentry
  rcases capabilityKey_cases key.type key.name with ⟨hempty, -⟩ | ⟨-, hkey⟩
  · exact absurd hempty hname
  · simp [getOrCreateMock, hkey, hposition, hget]

/-- An entry answers for the key of the parameter, with what was injected and from that source. -/
def Backs (mockOf : TypeId → TypeId) (r : Registry) (injection : Injection) : Prop :=
  ∃ entry : Entry, entry.Coherent mockOf ∧ entry.Uniform mockOf ∧ r.Serves injection.key entry ∧
    entry.provides? injection.key = some injection.value ∧
    injection.source = .ofOrigin entry.origin

namespace Backs

variable {injection : Injection}

theorem of_lookup {n : Nat} (hcoherent : r.Coherent mockOf n) (huniform : r.Uniform mockOf)
    {origin : Origin} (hsource : injection.source = .ofOrigin origin)
    (hlookup : r.lookup injection.key = some (injection.value, origin)) : r.Backs mockOf injection := by
  obtain ⟨entry, hentry, hprovided⟩ := Option.bind_eq_some_iff.mp hlookup
  obtain ⟨object, hobject, hpair⟩ := Option.map_eq_some_iff.mp hprovided
  obtain ⟨rfl, rfl⟩ := Prod.mk.inj hpair
  obtain ⟨i, -, hget⟩ := Option.bind_eq_some_iff.mp hentry
  have hmem := List.mem_of_getElem? hget
  exact ⟨entry, hcoherent.entries entry hmem, huniform.entries entry hmem,
    serves_of_found hcoherent.indexed hentry, hobject, hsource⟩

/-- What was injected is backed as long as entries go on to answer. -/
theorem serves {r' : Registry} (h : r.Backs mockOf injection)
    (hserves : ∀ key entry, r.Serves key entry → r'.Serves key entry) :
    r'.Backs mockOf injection := by
  obtain ⟨entry, hcoherent, huniform, hentry, hprovided⟩ := h
  exact ⟨entry, hcoherent, huniform, hserves _ _ hentry, hprovided⟩

/-- The registry finds what was injected. -/
theorem lookup_eq (h : r.Backs mockOf injection) :
    ∃ origin, injection.source = .ofOrigin origin ∧
      r.lookup injection.key = some (injection.value, origin) := by
  obtain ⟨entry, -, -, hserves, hobject, hsource⟩ := h
  obtain ⟨later, hentry⟩ := hserves.entry?_eq
  refine ⟨entry.origin, hsource, ?_⟩
  unfold lookup
  rw [hentry, Option.bind_some, provides?_addAliases later (by rw [hobject]; rfl), hobject]
  rfl

/-- **An injected double is handed out.** -/
theorem doubled (h : r.Backs mockOf injection)
    (hsource : injection.source = .autoMock ∨ injection.source = .customMock) :
    ∃ ref, injection.value = .object injection.key.type ref ∧ ∀ fresh,
      r.getOrCreateMock mockOf fresh injection.key.type injection.key.name =
        { result := .ok ⟨injection.key, ref, ref⟩, registry := r } := by
  obtain ⟨entry, hcoherent, huniform, hserves, hobject, horigin⟩ := h
  have hprovides : (entry.provides? injection.key).isSome := by rw [hobject]; rfl
  have hmock : entry.origin.isMock := by
    rw [horigin] at hsource
    cases hentry : entry.origin <;> simp_all [Source.ofOrigin, Origin.isMock]
  obtain ⟨ref, hhandle, -⟩ := hcoherent.mock hmock
  have hvalue := hcoherent.provides?_of_handle hhandle hobject
  refine ⟨ref, hvalue, fun fresh => ?_⟩
  obtain ⟨later, hentry⟩ := hserves.entry?_eq
  have hown : entry.handle = some ⟨mockOf injection.key.type, ref⟩ := by
    rw [hhandle, huniform.mockOf_eq hprovides]
  rw [getOrCreateMock_of_found (hcoherent.name_ne_of_provides hprovides) hentry,
    mockAt_addAliases later hprovides, mockAt_of_handle hcoherent hown hprovides]

/-- **An injected real implementation is no double.** -/
theorem plain (h : r.Backs mockOf injection) (hsource : injection.source = .real) :
    ∃ ref, injection.value = .object injection.key.type ref ∧ ∀ fresh,
      r.getOrCreateMock mockOf fresh injection.key.type injection.key.name =
        { result := .error (.invalidArgument (.notAMock injection.key .real)), registry := r } := by
  obtain ⟨entry, hcoherent, -, hserves, hobject, horigin⟩ := h
  have hprovides : (entry.provides? injection.key).isSome := by rw [hobject]; rfl
  have hreal : entry.origin = .real := by
    rw [horigin] at hsource
    cases hentry : entry.origin <;> simp_all [Source.ofOrigin]
  have hplain : entry.origin.isMock = false := by rw [hreal]; rfl
  obtain ⟨hkey, hvalue⟩ := hcoherent.provides?_of_plain hplain hobject
  obtain ⟨ref, hstored⟩ := hcoherent.real hreal
  refine ⟨ref, by rw [hvalue, hstored, hkey], fun fresh => ?_⟩
  obtain ⟨later, hentry⟩ := hserves.entry?_eq
  rw [getOrCreateMock_of_found (hcoherent.name_ne_of_provides hprovides) hentry,
    mockAt_addAliases later hprovides]
  unfold mockAt
  rw [(hcoherent.plain hplain).1, hreal]
  rfl

end Backs

end Registry

end TestDoubles
