import TestDoubles.Proofs.Registry.Coherence

/-!
# Requests for doubles

A double is requested by a key, supplied by the test, or combined with another capability. Here it is
said what these operations come to, and which double they answer with: the one that the registry has
for the key from then on.

- `Registry.Requested` and `Registry.Combined` list the outcomes of requesting and of combining.
- `Registry.Yields` holds of the doubles that a registry has for their keys, and
  `Registry.Asks.yields` shows that the operations answer with such doubles.
- `Registry.Arises` holds of the registries that operations produce when every double is a new object
  and every value is of the type that it is registered for; `Registry.Arises.coherent` shows that
  these are coherent.
-/

namespace TestDoubles

namespace Registry

variable {mockOf : TypeId → TypeId} {r : Registry} {n : Nat}

/-! ## What requests come to -/

/-- What requesting a double comes to. -/
inductive Requested (mockOf : TypeId → TypeId) (r : Registry) (fresh : Ref) (capability : TypeId)
    (name : Option String) : Outcome Mock → Prop where
  -- A double cannot have the empty name.
  | nameless (hname : name = some "") : Requested mockOf r fresh capability name
      { result := .error (.invalidArgument (.emptyMockName capability)), registry := r }
  -- An entry answers for the key.
  | found {entry : Entry} (hname : name ≠ some "") (hentry : r.entry? ⟨capability, name⟩ = some entry) :
      Requested mockOf r fresh capability name
        { result := mockAt mockOf entry ⟨capability, name⟩, registry := r }
  -- A double is created.
  | created (hname : name ≠ some "") (hnone : r.position? ⟨capability, name⟩ = none) :
      Requested mockOf r fresh capability name
        { result := .ok ⟨⟨capability, name⟩, fresh, fresh⟩
          registry := (r.insert mockOf
            (.ofMock .autoMock (mockOf capability) ⟨⟨capability, name⟩, fresh, fresh⟩)).1
          events := .createdMock ⟨capability, name⟩ (mockOf capability) :: (r.insert mockOf
            (.ofMock .autoMock (mockOf capability) ⟨⟨capability, name⟩, fresh, fresh⟩)).2 }

theorem capabilityKey_cases (capability : TypeId) (name : Option String) :
    name = some "" ∧
        capabilityKey capability name = .error (.invalidArgument (.emptyMockName capability)) ∨
      name ≠ some "" ∧ capabilityKey capability name = .ok ⟨capability, name⟩ := by
  rcases name with _ | name
  · exact .inr ⟨by simp, rfl⟩
  · by_cases hname : name = ""
    · exact .inl ⟨by rw [hname], by simp [capabilityKey, hname]⟩
    · exact .inr ⟨by simpa using hname, by simp [capabilityKey, hname]⟩

theorem requested (mockOf : TypeId → TypeId) (h : r.Indexed) (fresh : Ref) (capability : TypeId)
    (name : Option String) :
    Requested mockOf r fresh capability name (r.getOrCreateMock mockOf fresh capability name) := by
  unfold getOrCreateMock
  rcases capabilityKey_cases capability name with ⟨hname, hkey⟩ | ⟨hname, hkey⟩
  · rw [hkey]
    exact .nameless hname
  · rw [hkey]
    dsimp only
    cases hposition : r.position? ⟨capability, name⟩ with
    | none => exact .created hname hposition
    | some i =>
      have hscan := h.position?_eq_scan ⟨capability, name⟩ ▸ hposition
      obtain ⟨entry, hentry, -⟩ := provides?_of_scan hscan
      simp only [hentry]
      exact .found hname (by simp [hposition, entry?, hentry])

/-- The entry that answers for a key provides it. -/
theorem provides?_of_found (h : r.Indexed) {key : Key} {entry : Entry}
    (hentry : r.entry? key = some entry) : (entry.provides? key).isSome := by
  obtain ⟨i, hi, hget⟩ := Option.bind_eq_some_iff.mp hentry
  obtain ⟨found, hfound, hprovides⟩ := provides?_of_scan (h.position?_eq_scan key ▸ hi)
  rw [hget] at hfound
  exact Option.some.inj hfound ▸ hprovides

/-- Of a coherent entry its double is had, for whatever it provides that is of this type. -/
theorem mockAt_of_handle {entry : Entry} (hentry : entry.Coherent mockOf) {key : Key} {ref : Ref}
    (hhandle : entry.handle = some ⟨mockOf key.type, ref⟩) (hprovides : (entry.provides? key).isSome) :
    mockAt mockOf entry key = .ok ⟨key, ref, ref⟩ := by
  obtain ⟨object, hobject⟩ := Option.isSome_iff_exists.mp hprovides
  have hviewed := hentry.provides?_of_handle hhandle hobject
  simp [mockAt, hhandle, hobject, hviewed]

/-- Of a coherent entry a double is had, or it is not of the type that was asked for. -/
theorem mockAt_cases {entry : Entry} (hentry : entry.Coherent mockOf) {key : Key}
    (hprovides : (entry.provides? key).isSome) :
    (∃ ref, entry.handle = some ⟨mockOf key.type, ref⟩ ∧
        mockAt mockOf entry key = .ok ⟨key, ref, ref⟩) ∨
      mockAt mockOf entry key = .error (.invalidArgument (.notAMock key entry.origin)) := by
  cases hview : entry.handle.bind (Handle.as? (mockOf key.type)) with
  | none => exact .inr (by simp [mockAt, hview])
  | some ref =>
    obtain ⟨handle, hhandle, has⟩ := Option.bind_eq_some_iff.mp hview
    obtain rfl := Handle.as?_eq_some_iff.mp has
    exact .inl ⟨ref, hhandle, mockAt_of_handle hentry hhandle hprovides⟩

theorem provides?_of_mockAt {entry : Entry} {key : Key} {mock : Mock}
    (h : mockAt mockOf entry key = .ok mock) : mock.key = key ∧ (entry.provides? key).isSome := by
  unfold mockAt at h
  split at h
  · cases h
  · split at h
    · cases h
    next object hobject =>
      obtain ⟨provided, hprovided, -⟩ := Option.bind_eq_some_iff.mp hobject
      rw [← Except.ok.inj h, hprovided]
      exact ⟨rfl, rfl⟩

/-! ## What a registry has for a key -/

/-- The registry has this double for its key: whoever asks for it gets it, and nothing changes. -/
def Yields (mockOf : TypeId → TypeId) (r : Registry) (mock : Mock) : Prop :=
  ∀ fresh, r.getOrCreateMock mockOf fresh mock.key.type mock.key.name =
    { result := .ok mock, registry := r }

theorem yields_iff (h : r.Indexed) {mock : Mock} : r.Yields mockOf mock ↔
    mock.key.name ≠ some "" ∧
      ∃ entry, r.entry? mock.key = some entry ∧ mockAt mockOf entry mock.key = .ok mock := by
  constructor
  · intro hyields
    -- A double that is created is whatever object there is for it, and so not always this one.
    have hrequested := requested mockOf h ⟨mock.handle.index + 1⟩ mock.key.type mock.key.name
    rw [hyields] at hrequested
    generalize houtcome : Outcome.mk (.ok mock) r [] = outcome at hrequested
    cases hrequested with
    | nameless _ => cases houtcome
    | @found entry hname hentry =>
      exact ⟨hname, entry, hentry, (congrArg Outcome.result houtcome).symm⟩
    | created _ _ =>
      have hmock := Except.ok.inj (congrArg Outcome.result houtcome)
      have hindex := congrArg (fun m : Mock => m.handle.index) hmock
      dsimp only at hindex
      omega
  · rintro ⟨hname, entry, hentry, hmock⟩ fresh
    obtain ⟨i, hposition, hget⟩ := Option.bind_eq_some_iff.mp hentry
    have hkey : capabilityKey mock.key.type mock.key.name = .ok mock.key := by
      rcases capabilityKey_cases mock.key.type mock.key.name with ⟨hempty, -⟩ | ⟨-, hkey⟩
      · exact absurd hempty hname
      · exact hkey
    simp [getOrCreateMock, hkey, hposition, hget, hmock]

/-- A double that the registry has is a view of itself. -/
theorem Coherent.handle_eq_object (h : r.Coherent mockOf n) {mock : Mock}
    (hyields : r.Yields mockOf mock) : mock.handle = mock.object := by
  obtain ⟨-, entry, hentry, hmock⟩ := (yields_iff h.indexed).mp hyields
  obtain ⟨i, -, hget⟩ := Option.bind_eq_some_iff.mp hentry
  have hcoherent := h.entries entry (List.mem_of_getElem? hget)
  rcases mockAt_cases hcoherent (provides?_of_found h.indexed hentry) with ⟨ref, -, hok⟩ | herror
  · rw [hok] at hmock
    rw [← Except.ok.inj hmock]
  · rw [herror] at hmock
    cases hmock

/-- **Two keys have the same double only if one entry answers for both.** -/
theorem Coherent.position?_eq (h : r.Coherent mockOf n) {mock other : Mock}
    (hmock : r.Yields mockOf mock) (hother : r.Yields mockOf other)
    (hsame : mock.handle = other.handle) :
    ∃ i, r.position? mock.key = some i ∧ r.position? other.key = some i := by
  have hfound {mock : Mock} (hyields : r.Yields mockOf mock) : ∃ i entry,
      r.position? mock.key = some i ∧ r.entries[i]? = some entry ∧
        entry.handle = some ⟨mockOf mock.key.type, mock.handle⟩ := by
    obtain ⟨-, entry, hentry, hmock⟩ := (yields_iff h.indexed).mp hyields
    obtain ⟨i, hi, hget⟩ := Option.bind_eq_some_iff.mp hentry
    have hcoherent := h.entries entry (List.mem_of_getElem? hget)
    rcases mockAt_cases hcoherent (provides?_of_found h.indexed hentry) with
      ⟨ref, hhandle, hok⟩ | herror
    · rw [hok] at hmock
      refine ⟨i, entry, hi, hget, ?_⟩
      rw [hhandle, ← Except.ok.inj hmock]
    · rw [herror] at hmock
      cases hmock
  obtain ⟨i, entry, hi, hget, hhandle⟩ := hfound hmock
  obtain ⟨j, entry', hj, hget', hhandle'⟩ := hfound hother
  have hij := h.handle_inj i j entry entry' _ _ hget hget' hhandle hhandle' hsame
  exact ⟨i, hi, hij ▸ hj⟩

/-! ### New doubles -/

/-- An entry that is registered answers for its own key. -/
theorem entry?_insert (mockOf : TypeId → TypeId) (h : r.Indexed) (entry : Entry) :
    ∃ aliases, entry? (r.insert mockOf entry).1 entry.key =
      some { entry with aliases := aliases } := by
  rcases insert_cases mockOf h entry with ⟨i, previous, hexact, hi, -, heq⟩ | ⟨-, heq⟩
  · have hlt : i < r.entries.length := (List.getElem?_eq_some_iff.mp hi).1
    refine ⟨carriedAliases mockOf previous entry, ?_⟩
    rw [heq]
    simp [position?, entry?, hexact, hlt]
  · refine ⟨entry.aliases, ?_⟩
    rw [heq]
    simp [position?, entry?]

theorem yields_insert_ofMock (h : r.Indexed) (origin : Origin) {key : Key}
    (hname : key.name ≠ some "") (ref : Ref) :
    (r.insert mockOf (.ofMock origin (mockOf key.type) ⟨key, ref, ref⟩)).1.Yields mockOf
      ⟨key, ref, ref⟩ := by
  obtain ⟨aliases, hentry⟩ := entry?_insert mockOf h
    (.ofMock origin (mockOf key.type) ⟨key, ref, ref⟩)
  refine (yields_iff (indexed_insert h _)).mpr ⟨hname, _, hentry, ?_⟩
  simp [mockAt, Entry.ofMock, Entry.provides?, Mock.capability]

theorem Requested.yields (h : r.Indexed) {fresh : Ref} {capability : TypeId} {name : Option String}
    {outcome : Outcome Mock} (hrequested : Requested mockOf r fresh capability name outcome)
    {mock : Mock} (hok : outcome.result = .ok mock) : outcome.registry.Yields mockOf mock := by
  cases hrequested with
  | nameless hname => cases hok
  | @found entry hname hentry =>
    obtain ⟨hkey, -⟩ := provides?_of_mockAt hok
    refine (yields_iff h).mpr ⟨?_, entry, ?_, ?_⟩
    · rw [hkey]
      exact hname
    · rw [hkey]
      exact hentry
    · rw [hkey]
      exact hok
  | created hname hnone =>
    obtain rfl := Except.ok.inj hok
    exact yields_insert_ofMock h .autoMock hname fresh

theorem Requested.indexed (h : r.Indexed) {fresh : Ref} {capability : TypeId}
    {name : Option String} {outcome : Outcome Mock}
    (hrequested : Requested mockOf r fresh capability name outcome) :
    outcome.registry.Indexed := by
  cases hrequested with
  | nameless _ => exact h
  | found _ _ => exact h
  | created _ _ => exact indexed_insert h _

/-! ### Combined doubles -/

/-- More aliases do not change what an entry provides already. -/
theorem provides?_addAliases {entry : Entry} {key : Key} (later : List Alias)
    (hprovides : (entry.provides? key).isSome) :
    Entry.provides? { entry with aliases := entry.aliases ++ later } key = entry.provides? key := by
  unfold Entry.provides? at hprovides ⊢
  by_cases hkey : entry.key = key
  · rw [if_pos hkey, if_pos hkey]
  · rw [if_neg hkey, Option.isSome_map] at hprovides
    rw [if_neg hkey, if_neg hkey, List.find?_append]
    obtain ⟨a, ha⟩ := Option.isSome_iff_exists.mp hprovides
    rw [ha]
    rfl

theorem mockAt_addAliases {entry : Entry} {key : Key} (later : List Alias)
    (hprovides : (entry.provides? key).isSome) :
    mockAt mockOf { entry with aliases := entry.aliases ++ later } key =
      mockAt mockOf entry key := by
  unfold mockAt
  rw [provides?_addAliases later hprovides]

/-- One entry is written, which may have other aliases than before: as long as no entry in front gets
the key as an alias, the entry that answers for the key goes on to do so. -/
theorem position?_set {key : Key} {i j : Nat} {previous entry : Entry}
    (hj : r.entries[j]? = some previous)
    (hbefore : j < i → entry.hasAlias key → previous.hasAlias key)
    (hat : j = i → previous.hasAlias key → entry.hasAlias key)
    (hposition : r.position? key = some i) :
    position? { r with entries := r.entries.set j entry } key = some i := by
  unfold position? at hposition ⊢
  cases hexact : r.exact.find? key with
  | some k =>
    rw [hexact] at hposition
    exact hposition
  | none =>
    rw [hexact] at hposition
    obtain ⟨hlt, halias, hfirst⟩ := List.findIdx?_eq_some_iff_getElem.mp hposition
    obtain ⟨_, hget⟩ := List.getElem?_eq_some_iff.mp hj
    refine List.findIdx?_eq_some_iff_getElem.mpr ⟨by simpa using hlt, ?_, ?_⟩
    · by_cases hij : j = i
      · subst hij
        rw [List.getElem_set_self]
        exact hat rfl (hget ▸ halias)
      · rw [List.getElem_set_ne hij]
        exact halias
    · intro k hk
      by_cases hjk : j = k
      · subst hjk
        rw [List.getElem_set_self]
        intro hnew
        exact hfirst j hk (hget ▸ hbefore hk hnew)
      · rw [List.getElem_set_ne hjk]
        exact hfirst k hk

/-- What is written at the position that answers is what answers. -/
theorem entry?_set_self {key : Key} {i : Nat} {previous entry : Entry}
    (hi : r.entries[i]? = some previous)
    (hposition : position? { r with entries := r.entries.set i entry } key = some i) :
    entry? { r with entries := r.entries.set i entry } key = some entry := by
  unfold entry?
  rw [hposition]
  exact List.getElem?_set_self (List.getElem?_eq_some_iff.mp hi).1

/-- The entry that answers for a key goes on to do so when it gets another alias. -/
theorem position?_addAlias {key : Key} {i : Nat} {entry : Entry} (added : Alias)
    (hi : r.entries[i]? = some entry) (hposition : r.position? key = some i) :
    position? { r with
      entries := r.entries.set i { entry with aliases := entry.aliases ++ [added] } } key =
        some i := by
  refine position?_set hi (fun hlt => absurd hlt (Nat.lt_irrefl i)) ?_ hposition
  intro _ halias
  simp only [Entry.hasAlias] at halias ⊢
  rw [List.any_append, halias]
  rfl

/-- What combining two capabilities comes to. -/
inductive Combined (mockOf : TypeId → TypeId) (r : Registry) (fresh : Ref)
    (capability other : TypeId) : Outcome Mock → Prop where
  -- A capability serves itself anyway.
  | itself (h : other = capability) : Combined mockOf r fresh capability other
      { result := .error (.invalidArgument (.combinedWithItself other)), registry := r }
  -- There is no double for the first of them.
  | refused {created : Outcome Mock} {e : Error}
      (hcreated : Requested mockOf r fresh capability none created)
      (herror : created.result = .error e) : Combined mockOf r fresh capability other created
  -- The double serves the other one already.
  | served {created : Outcome Mock} {mock : Mock}
      (hcreated : Requested mockOf r fresh capability none created)
      (hok : created.result = .ok mock)
      (hserved : created.registry.lookup (.of other) ≠ none) :
      Combined mockOf r fresh capability other created
  -- The double serves the other one from now on.
  | added {created : Outcome Mock} {mock : Mock} {i : Nat} {entry : Entry}
      (hcreated : Requested mockOf r fresh capability none created)
      (hok : created.result = .ok mock) (hposition : created.registry.position? mock.key = some i)
      (hentry : created.registry.entries[i]? = some entry)
      (hmock : mockAt mockOf entry mock.key = .ok mock)
      (hfree : entry.provides? (.of other) = none) :
      Combined mockOf r fresh capability other
        { result := .ok mock
          registry := { created.registry with
            entries := created.registry.entries.set i
              { entry with
                aliases := entry.aliases ++ [⟨.of other, .object other mock.handle⟩] } }
          events := created.events ++ [.combinedMock mock.key (.of other)] }

theorem combined (mockOf : TypeId → TypeId) (h : r.Indexed) (fresh : Ref) (capability other : TypeId) :
    Combined mockOf r fresh capability other (r.combine mockOf fresh capability other) := by
  have hcreated := requested mockOf h fresh capability none
  unfold combine
  split
  next hsame => exact .itself hsame
  next =>
    generalize r.getOrCreateMock mockOf fresh capability none = created at hcreated ⊢
    dsimp only
    split
    next e herror => exact .refused hcreated herror
    next mock hok =>
      -- The double that was just requested is there.
      obtain ⟨-, entry, hentry, hmock⟩ :=
        (yields_iff (hcreated.indexed h)).mp (hcreated.yields h hok)
      obtain ⟨i, hposition, hget⟩ := Option.bind_eq_some_iff.mp hentry
      simp only [hposition, hget]
      cases hfree : entry.provides? (.of other) with
      | some object =>
        refine .served hcreated hok fun hnone => ?_
        rw [(hcreated.indexed h).lookup_eq_none_iff, answers, List.any_eq_false] at hnone
        exact hnone entry (List.mem_of_getElem? hget) (by rw [hfree]; rfl)
      | none => exact .added hcreated hok hposition hget hmock hfree

/-! ## What operations answer with -/

/-- The operations that answer with a double. -/
inductive Asks (mockOf : TypeId → TypeId) (r : Registry) (fresh : Ref) : Outcome Mock → Prop where
  | getOrCreateMock (capability : TypeId) (name : Option String) :
      Asks mockOf r fresh (r.getOrCreateMock mockOf fresh capability name)
  | addCustomMock (capability : TypeId) (name : Option String) :
      Asks mockOf r fresh (r.addCustomMock mockOf fresh capability name)
  | combine (capability other : TypeId) :
      Asks mockOf r fresh (r.combine mockOf fresh capability other)

/-- Why an operation does not answer with a double. -/
inductive Refused : Error → Prop where
  | emptyMockName (capability : TypeId) : Refused (.invalidArgument (.emptyMockName capability))
  | notAMock (key : Key) (origin : Origin) : Refused (.invalidArgument (.notAMock key origin))
  | combinedWithItself (capability : TypeId) :
      Refused (.invalidArgument (.combinedWithItself capability))

theorem addCustomMock_cases (mockOf : TypeId → TypeId) (r : Registry) (fresh : Ref) (capability : TypeId)
    (name : Option String) :
    name = some "" ∧ r.addCustomMock mockOf fresh capability name =
        { result := .error (.invalidArgument (.emptyMockName capability)), registry := r } ∨
      name ≠ some "" ∧ (r.addCustomMock mockOf fresh capability name).result =
          .ok ⟨⟨capability, name⟩, fresh, fresh⟩ ∧
        (r.addCustomMock mockOf fresh capability name).registry = (r.insert mockOf
          (.ofMock .customMock (mockOf capability) ⟨⟨capability, name⟩, fresh, fresh⟩)).1 := by
  unfold addCustomMock
  rcases capabilityKey_cases capability name with ⟨hname, hkey⟩ | ⟨hname, hkey⟩
  · rw [hkey]
    exact .inl ⟨hname, rfl⟩
  · rw [hkey]
    exact .inr ⟨hname, rfl, rfl⟩

/-- **Operations answer with the double that the registry has from then on.** -/
theorem Asks.yields (h : r.Indexed) {fresh : Ref} {outcome : Outcome Mock}
    (hasks : Asks mockOf r fresh outcome) {mock : Mock} (hok : outcome.result = .ok mock) :
    outcome.registry.Yields mockOf mock := by
  cases hasks with
  | getOrCreateMock capability name =>
    exact (requested mockOf h fresh capability name).yields h hok
  | addCustomMock capability name =>
    rcases addCustomMock_cases mockOf r fresh capability name with
      ⟨-, heq⟩ | ⟨hname, hresult, hregistry⟩
    · rw [heq] at hok
      cases hok
    · rw [hresult] at hok
      rw [hregistry, ← Except.ok.inj hok]
      exact yields_insert_ofMock h .customMock hname fresh
  | combine capability other =>
    have hcombined := combined mockOf h fresh capability other
    generalize r.combine mockOf fresh capability other = outcome at hcombined hok ⊢
    cases hcombined with
    | itself _ => cases hok
    | refused _ herror =>
      rw [herror] at hok
      cases hok
    | served hcreated _ _ => exact hcreated.yields h hok
    | @added created double i entry hcreated hdouble hposition hget hmock _ =>
      obtain rfl : double = mock := Except.ok.inj hok
      let added : Alias := ⟨.of other, .object other double.handle⟩
      have hcreated' := hcreated.indexed h
      obtain ⟨hname, -⟩ := (yields_iff hcreated').mp (hcreated.yields h hdouble)
      have hadded := (extends_addAlias hcreated' hget added).indexed
      have hfound := entry?_set_self hget (position?_addAlias added hget hposition)
      exact (yields_iff hadded).mpr ⟨hname, _, hfound,
        (mockAt_addAliases [added] (provides?_of_mockAt hmock).2).trans hmock⟩

theorem Requested.refused (h : r.Coherent mockOf n) {fresh : Ref} {capability : TypeId}
    {name : Option String} {outcome : Outcome Mock}
    (hrequested : Requested mockOf r fresh capability name outcome) {e : Error}
    (herror : outcome.result = .error e) : Refused e := by
  cases hrequested with
  | nameless _ =>
    obtain rfl := Except.error.inj herror
    exact .emptyMockName capability
  | @found entry _ hentry =>
    obtain ⟨i, -, hget⟩ := Option.bind_eq_some_iff.mp hentry
    have hcoherent := h.entries entry (List.mem_of_getElem? hget)
    rcases mockAt_cases hcoherent (provides?_of_found h.indexed hentry) with
      ⟨ref, -, hok⟩ | hrefused
    · rw [show mockAt mockOf entry ⟨capability, name⟩ = _ from hok] at herror
      cases herror
    · obtain rfl := Except.error.inj (hrefused.symm.trans herror)
      exact .notAMock _ _
  | created _ _ => cases herror

/-- Nothing is found under the empty name. -/
theorem Coherent.lookup_nameless (h : r.Coherent mockOf n) {key : Key}
    (hname : key.name = some "") : r.lookup key = none := by
  rcases hlookup : r.lookup key with _ | ⟨object, origin⟩
  · rfl
  · obtain ⟨entry, hentry, hprovided⟩ := Option.bind_eq_some_iff.mp hlookup
    obtain ⟨i, -, hget⟩ := Option.bind_eq_some_iff.mp hentry
    have hcoherent := h.entries entry (List.mem_of_getElem? hget)
    rcases (provides?_isSome_iff entry key).mp (provides?_of_found h.indexed hentry) with
      rfl | halias
    · exact absurd hname hcoherent.name_ne
    · have hmem := (Entry.mem_aliasKeys_iff entry key).mpr halias
      rw [hcoherent.aliasKeys_unnamed key hmem] at hname
      cases hname

/-- A key for which nothing is found is refused on account of its name. -/
theorem Requested.nameless_of_lookup (h : r.Indexed) {fresh : Ref} {key : Key}
    {outcome : Outcome Mock} (hrequested : Requested mockOf r fresh key.type key.name outcome)
    (hlookup : r.lookup key = none) {e : Error} (herror : outcome.result = .error e) :
    key.name = some "" ∧ e = .invalidArgument (.emptyMockName key.type) := by
  cases hrequested with
  | nameless hname => exact ⟨hname, (Except.error.inj herror).symm⟩
  | @found entry _ hentry =>
    obtain ⟨object, hobject⟩ := Option.isSome_iff_exists.mp (provides?_of_found h hentry)
    have hfound : r.lookup key = some (object, entry.origin) :=
      Option.bind_eq_some_iff.mpr ⟨entry, hentry, by rw [hobject]; rfl⟩
    rw [hlookup] at hfound
    cases hfound
  | created _ _ => cases herror

/-- **Operations fail for the listed reasons only**: a key that has an entry is found, and the entry
provides it. -/
theorem Asks.refused (h : r.Coherent mockOf n) {fresh : Ref} {outcome : Outcome Mock}
    (hasks : Asks mockOf r fresh outcome) {e : Error} (herror : outcome.result = .error e) :
    Refused e := by
  cases hasks with
  | getOrCreateMock capability name =>
    exact (requested mockOf h.indexed fresh capability name).refused h herror
  | addCustomMock capability name =>
    rcases addCustomMock_cases mockOf r fresh capability name with
      ⟨-, heq⟩ | ⟨-, hresult, -⟩
    · rw [heq] at herror
      obtain rfl := Except.error.inj herror
      exact .emptyMockName capability
    · rw [hresult] at herror
      cases herror
  | combine capability other =>
    have hcombined := combined mockOf h.indexed fresh capability other
    generalize r.combine mockOf fresh capability other = outcome at hcombined herror
    cases hcombined with
    | itself _ =>
      obtain rfl := Except.error.inj herror
      exact .combinedWithItself other
    | refused hcreated _ => exact hcreated.refused h herror
    | served hcreated hok _ =>
      rw [hok] at herror
      cases herror
    | added _ _ _ _ _ _ => cases herror

/-! ## Registries with new doubles -/

/-- The registries that come about when `allocated` objects have been allocated: every double is a
new one, and every value is of the type it is registered for. -/
inductive Arises (mockOf : TypeId → TypeId) : Nat → Registry → Prop where
  | empty (allocated : Nat) : Arises mockOf allocated empty
  -- Objects are allocated for other purposes.
  | allocate {n m : Nat} {r : Registry} (h : n ≤ m) : Arises mockOf n r → Arises mockOf m r
  | asks {n : Nat} {r : Registry} {outcome : Outcome Mock} (h : Asks mockOf r ⟨n⟩ outcome) :
      Arises mockOf n r → Arises mockOf (n + 1) outcome.registry
  | useInstance {n : Nat} {r : Registry} (capability : TypeId) (ref : Ref) :
      Arises mockOf n r → Arises mockOf n (r.useInstance mockOf capability ref).1
  -- Registering a value, and keeping the product of a singleton factory.
  | useValue {n : Nat} {r : Registry} (type : TypeId) (datum : Datum) :
      Arises mockOf n r → Arises mockOf n (r.useValue mockOf type datum).1
  | clear {n : Nat} {r : Registry} : Arises mockOf n r → Arises mockOf n r.clear

theorem Requested.coherent (h : r.Coherent mockOf n) {capability : TypeId} {name : Option String}
    {outcome : Outcome Mock} (hrequested : Requested mockOf r ⟨n⟩ capability name outcome) :
    outcome.registry.Coherent mockOf (n + 1) := by
  cases hrequested with
  | nameless _ => exact h.allocate (Nat.le_succ n)
  | found _ _ => exact h.allocate (Nat.le_succ n)
  | created hname _ => exact h.insert_ofMock rfl hname

theorem coherent_empty (n : Nat) : empty.Coherent mockOf n where
  indexed := indexed_empty
  entries _ hentry := nomatch hentry
  handle_lt _ hentry := nomatch hentry
  handle_inj _ _ _ _ _ _ hi := nomatch hi

theorem Asks.coherent (h : r.Coherent mockOf n) {outcome : Outcome Mock}
    (hasks : Asks mockOf r ⟨n⟩ outcome) : outcome.registry.Coherent mockOf (n + 1) := by
  cases hasks with
  | getOrCreateMock capability name => exact (requested mockOf h.indexed _ _ _).coherent h
  | addCustomMock capability name =>
    rcases addCustomMock_cases mockOf r ⟨n⟩ capability name with
      ⟨-, heq⟩ | ⟨hname, -, hregistry⟩
    · rw [heq]
      exact h.allocate (Nat.le_succ n)
    · rw [hregistry]
      exact h.insert_ofMock rfl hname
  | combine capability other =>
    have hcombined := combined mockOf h.indexed ⟨n⟩ capability other
    have hindexed : (r.combine mockOf ⟨n⟩ capability other).registry.Indexed :=
      (extends_combine h.indexed ⟨n⟩ capability other).indexed
    generalize r.combine mockOf ⟨n⟩ capability other = outcome at hcombined hindexed ⊢
    cases hcombined with
    | itself _ => exact h.allocate (Nat.le_succ n)
    | refused hcreated _ => exact hcreated.coherent h
    | served hcreated _ _ => exact hcreated.coherent h
    | @added created mock i entry hcreated _ _ hentry hmock hfree =>
      have hcoherent := hcreated.coherent h
      have hown := hcoherent.entries entry (List.mem_of_getElem? hentry)
      rcases mockAt_cases hown (provides?_of_mockAt hmock).2 with ⟨ref, hhandle, hok⟩ | herror
      · have href : mock.handle = ref :=
          congrArg Mock.handle (Except.ok.inj (hmock.symm.trans hok))
        subst href
        -- The entry keeps its double, so it is still the only one with it.
        refine hcoherent.write hindexed (Nat.le_refl _) i (hown.addAlias hhandle hfree) ?_ ?_
        · exact fun j other hj => getElem?_set_cases hj
        · exact fun handle hhandle => .inr ⟨entry, hentry, hhandle⟩
      · rw [herror] at hmock
        cases hmock

/-- **Registries with new doubles are coherent**, by induction on the operations. -/
theorem Arises.coherent (h : Arises mockOf n r) : r.Coherent mockOf n := by
  induction h with
  | empty n => exact coherent_empty n
  | allocate hnm _ ih => exact ih.allocate hnm
  | asks hasks _ ih => exact hasks.coherent ih
  | useInstance capability ref _ ih =>
    apply ih.insert (Nat.le_refl _) (Entry.coherent_ofReal mockOf capability ref)
    exact fun handle hhandle => nomatch hhandle
  | useValue type datum _ ih =>
    apply ih.insert (Nat.le_refl _) (Entry.coherent_ofValue mockOf type datum)
    exact fun handle hhandle => nomatch hhandle
  | clear _ _ => exact coherent_empty _

end Registry

end TestDoubles
