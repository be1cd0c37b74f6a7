import TestDoubles.Proofs.Filling.HandedOut

/-!
# What a registration does to look-ups

What is registered goes to the end of the entries, or takes the place of the entry with its key. In the
second case it matters what it is: a double takes over the aliases of the entry before it and serves
them itself, a real implementation or a value drops them, and then entries further behind come to answer
for their keys. Here it is said what is found afterwards, key by key.

- `Registry.position?_set_of_ne`, `Registry.lookup_set_of_ne` and `Registry.entry?_set_of_dropped` are
  about one entry that is written: the keys answered elsewhere, and those it no longer serves.
- `Registry.Registers` is the whole effect of a registration, with that of a replacement in
  `Registry.Replaces`.
- `Registry.registration_effect` shows that accepted registrations have it.
-/

namespace TestDoubles

namespace Registry

/-! ## The effect -/

/-- The aliases that an entry has in the place of another one: a double keeps all of them in their
order, as views of itself; anything else keeps none. -/
def keptAliases (previous entry : Entry) : List Alias :=
  match entry.handle with
  | some handle => previous.aliases.map fun a => ⟨a.key, .object a.key.type handle.ref⟩
  | none => []

/-- The entry at position `i` makes way for another one with its key. -/
structure Replaces (r : Registry) (i : Nat) (previous entry : Entry) (after : Registry) : Prop where
  -- Only this entry changes.
  entries : after.entries = r.entries.set i { entry with aliases := keptAliases previous entry }
  -- What it answered for through an alias, a double answers for with a view of itself.
  double (handle : Handle) (hhandle : entry.handle = some handle) (key : Key)
    (hkey : key ≠ entry.key) (hposition : r.position? key = some i) :
    after.lookup key = some (.object key.type handle.ref, entry.origin)
  -- For anything else, the next entry with such an alias takes over, if there is one.
  dropped (hhandle : entry.handle = none) (key : Key) (hkey : key ≠ entry.key)
    (hposition : r.position? key = some i) :
    after.entry? key = (r.entries.drop (i + 1)).find? (fun later => later.hasAlias key) ∧
      after.lookup key = ((r.entries.drop (i + 1)).find? fun later => later.hasAlias key).bind
        fun later => (later.provides? key).map fun object => (object, later.origin)
  elsewhere (key : Key) (hposition : r.position? key ≠ some i) :
    after.position? key = r.position? key ∧ after.lookup key = r.lookup key

/-- An event warns that a double created on demand has been replaced. -/
def warnsOfReplacement (event : Event) : Bool :=
  event.level = .warn ∧
    event.message = "Replacing auto-created mock; instances built earlier keep the old one"

/-- An entry is registered, and this is the registry afterwards, with the events that were emitted. -/
structure Registers (r : Registry) (entry : Entry) (after : Registry) (events : List Event) :
    Prop where
  found : after.lookup entry.key = some (entry.object, entry.origin)
  appended (hnew : entry.key ∉ r.keys) :
    after.entries = r.entries ++ [entry] ∧ entry.aliases = [] ∧
      ∀ key, key ≠ entry.key → after.position? key = r.position? key ∧ after.lookup key = r.lookup key
  replaced (i : Nat) (previous : Entry) (hprevious : r.entries[i]? = some previous)
    (hkey : previous.key = entry.key) : r.Replaces i previous entry after
  warned : events.filter warnsOfReplacement =
    if r.entries.any fun previous => previous.key = entry.key ∧ previous.origin = .autoMock then
      [.replacedAutoMock entry.key]
    else
      []

/-- Every registration that is accepted has this effect. -/
def RegistersAll (mockOf : TypeId → TypeId) (r : Registry) : Prop :=
  ∀ (operation : Operation) (fresh : Ref) (entry : Entry) (answer : Option Mock),
    operation.registration? mockOf fresh = some entry →
    (operation.perform mockOf r fresh).result = .ok answer →
      r.Registers entry (operation.perform mockOf r fresh).registry
        (operation.perform mockOf r fresh).events

variable {mockOf : TypeId → TypeId} {r : Registry} {key : Key} {i : Nat} {previous entry : Entry}

/-! ## Aliases that are kept -/

/-- The aliases that are carried over are all that a double is to keep, if they are served by its type
of double. -/
theorem carriedAliases_eq_keptAliases (hentry : entry.Uniform mockOf)
    (hprevious : previous.Uniform mockOf) (hkey : previous.key = entry.key) :
    carriedAliases mockOf previous entry = keptAliases previous entry := by
  unfold carriedAliases keptAliases
  cases hhandle : entry.handle with
  | none =>
    apply List.filterMap_eq_nil_iff.mpr
    intro old _
    simp [rebind?, hhandle]
  | some handle =>
    dsimp only
    rw [← List.filterMap_eq_map]
    apply List.filterMap_congr
    intro old hold
    apply rebind?_of_handle hhandle
    rw [hentry.handle handle hhandle, hprevious.aliases old hold, hkey]

/-- A double keeps all aliases, and anything else keeps none. -/
theorem hasAlias_keptAliases (previous entry : Entry) (key : Key) :
    Entry.hasAlias { entry with aliases := keptAliases previous entry } key =
      (entry.handle.isSome && previous.hasAlias key) := by
  unfold keptAliases
  cases hhandle : entry.handle with
  | none => simp [Entry.hasAlias]
  | some handle => simp [Entry.hasAlias, Function.comp_def]

/-- For a key of an alias that it has kept, a double provides a view of itself. -/
theorem provides?_keptAliases {handle : Handle} (hhandle : entry.handle = some handle)
    (hkey : entry.key ≠ key) (halias : previous.hasAlias key) :
    Entry.provides? { entry with aliases := keptAliases previous entry } key =
      some (.object key.type handle.ref) := by
  obtain ⟨old, hold⟩ : ∃ old, previous.aliases.find? (fun a => a.key = key) = some old := by
    rw [← Option.isSome_iff_exists, List.find?_isSome]
    simpa [Entry.hasAlias] using halias
  have hown : old.key = key := by simpa using List.find?_some hold
  unfold Entry.provides? keptAliases
  rw [if_neg hkey, hhandle]
  simp only [List.find?_map, Function.comp_def, hold, hown, Option.map_some]

/-! ## Writing one entry -/

/-- A key for which an entry answers by an alias is the own key of no entry. -/
theorem Indexed.answered_by_alias (h : r.Indexed) (hposition : r.position? key = some i)
    (hi : r.entries[i]? = some previous) (hkey : previous.key ≠ key) :
    r.exact.find? key = none ∧ previous.hasAlias key ∧
      ∀ other ∈ r.entries.take i, other.hasAlias key = false := by
  unfold position? at hposition
  cases hexact : r.exact.find? key with
  | none =>
    rw [hexact] at hposition
    obtain ⟨hlt, halias, hbefore⟩ := List.findIdx?_eq_some_iff_getElem.mp hposition
    obtain rfl : r.entries[i] = previous := (List.getElem?_eq_some_iff.mp hi).2
    refine ⟨rfl, halias, fun other hother => ?_⟩
    obtain ⟨j, hj, rfl⟩ := List.mem_take_iff_getElem.mp hother
    simpa using hbefore j (by omega)
  | some j =>
    rw [hexact] at hposition
    obtain rfl := Option.some.inj hposition
    obtain ⟨found, hfound, hown⟩ := h.key_of_find?_exact hexact
    obtain rfl := Option.some.inj (hi.symm.trans hfound)
    exact absurd hown hkey

/-- An entry that is written without new aliases leaves the keys alone that are answered elsewhere. -/
theorem position?_set_of_ne (hi : r.entries[i]? = some previous)
    (halias : entry.hasAlias key → previous.hasAlias key) (hne : r.position? key ≠ some i) :
    position? { r with entries := r.entries.set i entry } key = r.position? key := by
  cases hposition : r.position? key with
  | some j =>
    exact position?_set hi (fun _ => halias) (fun hij => absurd (hij ▸ hposition) hne) hposition
  | none =>
    unfold position? at hposition ⊢
    cases hexact : r.exact.find? key with
    | some j =>
      rw [hexact] at hposition
      cases hposition
    | none =>
      rw [hexact] at hposition
      dsimp only at hposition ⊢
      rw [List.findIdx?_eq_none_iff] at hposition ⊢
      intro other hother
      rcases List.mem_or_eq_of_mem_set hother with hold | rfl
      · exact hposition other hold
      · have hprevious := hposition previous (List.mem_of_getElem? hi)
        simpa [hprevious] using halias

theorem lookup_set_of_ne (hi : r.entries[i]? = some previous)
    (halias : entry.hasAlias key → previous.hasAlias key) (hne : r.position? key ≠ some i) :
    lookup { r with entries := r.entries.set i entry } key = r.lookup key := by
  unfold lookup entry?
  rw [position?_set_of_ne hi halias hne]
  cases hposition : r.position? key with
  | none => rfl
  | some j =>
    have hij : i ≠ j := by
      rintro rfl
      exact hne hposition
    rw [Option.bind_some, Option.bind_some, List.getElem?_set_ne hij]

/-- When the first entry with an alias drops it, the next one that has it answers. -/
theorem entry?_set_of_dropped (h : r.Indexed) (hi : r.entries[i]? = some previous)
    (hposition : r.position? key = some i) (hkey : previous.key ≠ key)
    (hplain : entry.hasAlias key = false) :
    entry? { r with entries := r.entries.set i entry } key =
      (r.entries.drop (i + 1)).find? fun later => later.hasAlias key := by
  obtain ⟨hexact, -, hbefore⟩ := h.answered_by_alias hposition hi hkey
  have hlt := (List.getElem?_eq_some_iff.mp hi).1
  have hfront : (r.entries.take i).find? (fun other => other.hasAlias key) = none := by
    rw [List.find?_eq_none]
    intro other hother
    simp [hbefore other hother]
  unfold entry? position?
  rw [hexact]
  dsimp only
  rw [← List.find?_eq_bind_findIdx?_getElem?, List.set_eq_take_append_cons_drop, if_pos hlt,
    List.find?_append, hfront, Option.none_or, List.find?_cons_of_neg (by simp [hplain])]

/-! ## Adding one entry -/

/-- An entry at the end answers for no key but its own. -/
theorem position?_concat (r : Registry) (haliases : entry.aliases = []) (hkey : key ≠ entry.key) :
    position? ⟨r.entries ++ [entry], r.exact.insert entry.key r.entries.length⟩ key =
      r.position? key := by
  unfold position?
  rw [Table.find?_insert_of_ne _ _ hkey.symm]
  cases r.exact.find? key with
  | some j => rfl
  | none => simp [List.findIdx?_append, Entry.hasAlias, haliases]

theorem Indexed.lookup_concat (h : r.Indexed) (haliases : entry.aliases = [])
    (hkey : key ≠ entry.key) :
    lookup ⟨r.entries ++ [entry], r.exact.insert entry.key r.entries.length⟩ key =
      r.lookup key := by
  unfold lookup entry?
  rw [position?_concat r haliases hkey]
  cases hposition : r.position? key with
  | none => rfl
  | some j =>
    have hlt : j < r.entries.length := h.agreesWithScan.position?_lt hposition
    rw [Option.bind_some, Option.bind_some, List.getElem?_append_left hlt]

/-! ## Registering -/

theorem replaces_insert (h : r.Uniform mockOf) (hentry : entry.Uniform mockOf)
    (hi : r.entries[i]? = some previous) (hkey : previous.key = entry.key) :
    r.Replaces i previous entry (r.insert mockOf entry).1 := by
  have hkept := carriedAliases_eq_keptAliases hentry (h.entries previous (List.mem_of_getElem? hi)) hkey
  have heq : (r.insert mockOf entry).1 =
      { r with entries := r.entries.set i { entry with aliases := keptAliases previous entry } } := by
    have hexact := h.indexed.find?_exact_key hi
    rw [hkey] at hexact
    simp [Registry.insert, hexact, hi, hkept]
  have hold {key : Key}
      (halias : Entry.hasAlias { entry with aliases := keptAliases previous entry } key) :
      previous.hasAlias key := by
    rw [hasAlias_keptAliases, Bool.and_eq_true] at halias
    exact halias.2
  rw [heq]
  constructor
  · rfl
  · intro handle hhandle key hne hposition
    obtain ⟨-, halias, -⟩ := h.indexed.answered_by_alias hposition hi (hkey ▸ hne.symm)
    have hfound := entry?_set_self hi (position?_set hi (fun hii => absurd hii (Nat.lt_irrefl i))
      (fun _ _ => by rw [hasAlias_keptAliases, hhandle, halias]; rfl) hposition)
    unfold lookup
    rw [hfound, Option.bind_some, provides?_keptAliases hhandle hne.symm halias, Option.map_some]
  · intro hhandle key hne hposition
    have hlater := entry?_set_of_dropped h.indexed hi hposition (hkey ▸ hne.symm)
      (show Entry.hasAlias { entry with aliases := keptAliases previous entry } key = false by
        rw [hasAlias_keptAliases, hhandle]; rfl)
    refine ⟨hlater, ?_⟩
    unfold lookup
    rw [hlater]
  · exact fun key hne => ⟨position?_set_of_ne hi hold hne, lookup_set_of_ne hi hold hne⟩

/-- Of the entry with a key is known what is known of any such entry, for there is no other one. -/
theorem Indexed.any_key (h : r.Indexed) (hi : r.entries[i]? = some previous)
    (hkey : previous.key = key) (p : Entry → Prop) [DecidablePred p] :
    (r.entries.any fun other => other.key = key ∧ p other) = decide (p previous) := by
  rw [Bool.eq_iff_iff, List.any_eq_true, decide_eq_true_iff]
  constructor
  · rintro ⟨other, hother, hsame⟩
    obtain ⟨hown, hp⟩ := of_decide_eq_true hsame
    obtain ⟨j, hj⟩ := List.mem_iff_getElem?.mp hother
    have hij := (h.find?_exact_key hi).symm.trans (hkey ▸ hown ▸ h.find?_exact_key hj)
    obtain rfl := Option.some.inj hij
    exact Option.some.inj (hi.symm.trans hj) ▸ hp
  · exact fun hp => ⟨previous, List.mem_of_getElem? hi, decide_eq_true ⟨hkey, hp⟩⟩

/-- What is reported about dropped aliases is another warning. -/
theorem filter_droppedAliases (mockOf : TypeId → TypeId) (previous entry : Entry) :
    (droppedAliases mockOf previous entry).filter warnsOfReplacement = [] := by
  rw [List.filter_eq_nil_iff]
  intro event hevent
  obtain ⟨old, -, hold⟩ := List.mem_filterMap.mp hevent
  split at hold
  · cases hold
  · rw [← Option.some.inj hold]
    simp [warnsOfReplacement, Event.message]

/-- It is warned of a replacement exactly if the entry with the key was a double created on demand. -/
theorem warned_insert (h : r.Indexed) (horigin : entry.origin ≠ .autoMock) :
    (r.insert mockOf entry).2.filter warnsOfReplacement =
      if r.entries.any fun previous => previous.key = entry.key ∧ previous.origin = .autoMock then
        [.replacedAutoMock entry.key]
      else
        [] := by
  unfold Registry.insert
  cases hexact : r.exact.find? entry.key with
  | none =>
    rw [if_neg]
    · rfl
    · intro hany
      obtain ⟨previous, hprevious, hsame⟩ := List.any_eq_true.mp hany
      exact h.not_mem_keys hexact
        (List.mem_map.mpr ⟨previous, hprevious, (of_decide_eq_true hsame).1⟩)
  | some i =>
    obtain ⟨previous, hi, hkey⟩ := h.key_of_find?_exact hexact
    simp only [hi, h.any_key hi hkey fun other => other.origin = .autoMock]
    rw [List.filter_append, filter_droppedAliases, List.nil_append]
    by_cases hauto : previous.origin = .autoMock
    · simp [replacementWarning, hauto, horigin, warnsOfReplacement, Event.level, Event.message]
    · simp [replacementWarning, hauto]

/-- **Inserting an entry registers it.** -/
theorem registers_insert (h : r.Uniform mockOf) (hentry : entry.Uniform mockOf)
    (haliases : entry.aliases = []) (horigin : entry.origin ≠ .autoMock) :
    r.Registers entry (r.insert mockOf entry).1 (r.insert mockOf entry).2 where
  found := lookup_insert h.indexed entry
  appended hnew := by
    rcases insert_cases mockOf h.indexed entry with ⟨i, previous, -, hi, hkey, -⟩ | ⟨-, heq⟩
    · exact absurd (List.mem_map.mpr ⟨previous, List.mem_of_getElem? hi, hkey⟩) hnew
    · rw [heq]
      exact ⟨rfl, haliases, fun key hkey =>
        ⟨position?_concat r haliases hkey, h.indexed.lookup_concat haliases hkey⟩⟩
  replaced _ _ hprevious hkey := replaces_insert h hentry hprevious hkey
  warned := warned_insert h.indexed horigin

/-- Uniform registries are enough. -/
theorem Uniform.registersAll (h : r.Uniform mockOf) : r.RegistersAll mockOf := by
  intro operation fresh entry answer hentry hok
  rcases Operation.perform_of_registration r hentry with ⟨_, heq⟩ | ⟨e, heq⟩
  · rw [heq]
    exact registers_insert h (Operation.uniform_of_registration hentry) (Operation.aliases_of_registration hentry)
      (Operation.origin_of_registration hentry)
  · rw [heq] at hok
    cases hok

/-- **The effect of a registration on every look-up**, in the registries that come of operations and in
those of fixtures: what is registered is found; in a new place it changes nothing else; in the place of
another entry, a double goes on to serve all that the entry served, and anything else leaves it to the
entries behind. -/
theorem registration_effect {E : Type} (catalog : Catalog E) (conduct : Conduct E) :
    (∀ operations n, (∀ operation ∈ operations, operation.Matches catalog.mockOf) →
      (Operation.performAll catalog.mockOf operations n empty).RegistersAll catalog.mockOf) ∧
    (conduct.Matches catalog.mockOf → ∀ w, World.Reachable catalog conduct w →
      w.fixture.registry.RegistersAll catalog.mockOf) := by
  constructor
  · intro operations n hoperations
    exact ((uniform_empty catalog.mockOf).performAll hoperations n).registersAll
  · exact fun hmatches w hw => (hw.uniform hmatches).registersAll

/-- Two loggers that also serve as audit trails. The first is replaced by a double, which then serves as
the audit trail, and by a real implementation, whose place as audit trail the second one takes. -/
theorem registration_effect_combined :
    let catalog : Catalog Unit := ⟨fun _ => ⟨"MockLogger"⟩, fun _ => .null, fun _ => []⟩
    let run : Runner Unit := World.idle
    let audit : Key := .of ⟨"AuditTrail"⟩
    let combining : List Operation :=
      [.combine ⟨"Logger"⟩ ⟨"AuditTrail"⟩, .combine ⟨"Recorder"⟩ ⟨"AuditTrail"⟩]
    let combined := Operation.performAll catalog.mockOf combining 0 empty
    let doubled := Operation.perform catalog.mockOf combined ⟨2⟩ (.addCustomMock ⟨"Logger"⟩ none)
    let real := Operation.perform catalog.mockOf combined ⟨2⟩ (.useInstance ⟨"Logger"⟩ ⟨7⟩)
    let start : World Unit := { surroundings := () }
    let used := start.performAll catalog run [.combine ⟨"Logger"⟩ ⟨"AuditTrail"⟩]
    combined.RegistersAll catalog.mockOf ∧ combined.position? audit = some 0 ∧
      doubled.registry.lookup audit = some (.object ⟨"AuditTrail"⟩ ⟨2⟩, .customMock) ∧
      real.registry.lookup audit = some (.object ⟨"AuditTrail"⟩ ⟨1⟩, .autoMock) ∧
      real.events.filter warnsOfReplacement = [.replacedAutoMock (.of ⟨"Logger"⟩)] ∧
      used.fixture.registry.RegistersAll catalog.mockOf := by
  intro catalog run audit combining combined doubled real start used
  have hcombining : ∀ operation ∈ combining, operation.Matches catalog.mockOf := by
    intro operation hoperation
    simp only [combining, List.mem_cons, List.not_mem_nil, or_false] at hoperation
    rcases hoperation with rfl | rfl <;> rfl
  have hstart : World.Reachable catalog {} start := World.Fresh.reachable ⟨⟨{}, rfl⟩, trivial⟩
  have hused : World.Reachable catalog {} used :=
    hstart.performAll (World.scripted_idle catalog fun _ _ => trivial)
      (fun _ _ _ => trivial) fun _ _ _ => trivial
  obtain ⟨hbare, hfixture⟩ := registration_effect catalog {}
  have hall := hbare combining 0 hcombining
  have hdoubled := hall (.addCustomMock ⟨"Logger"⟩ none) ⟨2⟩ _ _ rfl rfl
  have hreal := hall (.useInstance ⟨"Logger"⟩ ⟨7⟩) ⟨2⟩ _ _ rfl rfl
  have hother : audit ≠ .of ⟨"Logger"⟩ := by decide
  refine ⟨hall, rfl, ?_, ?_, hreal.warned, ?_⟩
  · exact (hdoubled.replaced 0 _ rfl rfl).double ⟨⟨"MockLogger"⟩, ⟨2⟩⟩ rfl audit hother rfl
  · exact ((hreal.replaced 0 _ rfl rfl).dropped rfl audit hother rfl).2
  · exact hfixture (fun _ _ _ _ => rfl) used hused

end Registry

end TestDoubles
