import TestDoubles.Proofs.Registry.Operations
import TestDoubles.Proofs.Run.Sound

/-!
# Capabilities that stay together

Two capabilities that were combined are served by one entry, and so by one double. The entry may be
that of the first capability, or one that serves the first capability as an alias itself. Here it is
shown for how long this lasts: the double of the entry may be replaced by another double, which takes
over both capabilities, but anything else in its place leaves them behind; and a double registered under
an alias parts that alias from the rest.

- `Registry.Together` holds if one entry, a double, answers for both capabilities.
- `Registry.Operation.KeepsTogether` says which operations leave it at that, and
  `Registry.Together.perform` shows that they do.
- `Registry.combined_stay_together` is the result for whole sequences of operations.
-/

namespace TestDoubles

namespace Registry

/-- The operation does not part two capabilities that the entry under `server` serves, the second of
them as an alias. -/
structure Operation.KeepsTogether (capability other : TypeId) (server : Key)
    (operation : Operation) : Prop where
  not_clear : operation ≠ .clear
  -- An own entry would answer instead of the alias.
  other_free : operation.registers? ≠ some (.of other)
  capability_free : operation.registers? = some (.of capability) → server = .of capability
  -- What is no double takes over no aliases.
  server_doubled : operation.registersPlain → operation.registers? ≠ some server
  -- Another entry in front would answer for the alias that it gets.
  not_combined : ∀ first second, operation = .combine first second →
    second ≠ capability ∧ second ≠ other

/-- The entry under `server` is a double and answers for both capabilities. -/
def Together (capability other : TypeId) (server : Key) (r : Registry) : Prop :=
  ∃ entry, r.entry? (.of capability) = some entry ∧ r.entry? (.of other) = some entry ∧
    entry.key = server ∧ entry.handle.isSome

/-- Whoever combines two capabilities, the second of which nothing answers for, has one double for both
until an operation parts them. -/
def StaysTogether (mockOf : TypeId → TypeId) (next : Nat) (r : Registry) : Prop :=
  ∀ (capability other : TypeId) (mock : Mock), mockOf other = mockOf capability →
    r.lookup (.of other) = none →
    (r.combine mockOf ⟨next⟩ capability other).result = .ok mock →
      ∃ server, entry? (r.combine mockOf ⟨next⟩ capability other).registry (.of capability) =
          some server ∧
        ∀ operations : List Operation,
          (∀ operation ∈ operations, operation.KeepsTogether capability other server.key) →
          ∃ ref, ∀ key ∈ [Key.of capability, Key.of other],
            (Operation.performAll mockOf operations (next + 1)
              (r.combine mockOf ⟨next⟩ capability other).registry).Yields mockOf ⟨key, ref, ref⟩

variable {mockOf : TypeId → TypeId} {r : Registry} {n : Nat} {capability other : TypeId}
  {server key : Key} {entry previous : Entry} {operation : Operation}

/-! ## One entry for both -/

/-- Keys that one entry serves have one entry, which may have got more aliases. -/
theorem Together.of_serves (h : r.Indexed) (hkey : entry.key = server)
    (hhandle : entry.handle.isSome) (hfirst : r.Serves (.of capability) entry)
    (hsecond : r.Serves (.of other) entry) : r.Together capability other server := by
  obtain ⟨i, later, hi, hget, -⟩ := hfirst
  obtain ⟨j, later', hj, hget', -⟩ := hsecond
  have hij : i = j := by
    have hexact := h.find?_exact_key hget
    rw [show r.exact.find? _ = some j from h.find?_exact_key hget'] at hexact
    exact (Option.some.inj hexact).symm
  subst hij
  have hfound {key : Key} (hposition : r.position? key = some i) :
      r.entry? key = some { entry with aliases := entry.aliases ++ later } := by
    unfold entry?
    rw [hposition]
    exact hget
  exact ⟨_, hfound hi, hfound hj, hkey, hhandle⟩

/-- A double in the place of the entry that answers takes over the alias. -/
theorem entry?_insert_of_served (h : r.Indexed) (hentry : r.entry? key = some previous)
    (hkey : entry.key = previous.key) {handle : Handle} (hhandle : entry.handle = some handle)
    (htype : handle.mockType = mockOf key.type) :
    entry? (r.insert mockOf entry).1 key =
      some { entry with aliases := carriedAliases mockOf previous entry } := by
  obtain ⟨i, hposition, hget⟩ := Option.bind_eq_some_iff.mp hentry
  have hexact := h.find?_exact_key hget
  rw [← hkey] at hexact
  have hcarried (halias : previous.hasAlias key) :
      Entry.hasAlias { entry with aliases := carriedAliases mockOf previous entry } key := by
    obtain ⟨old, hold, hown⟩ := List.any_eq_true.mp halias
    obtain rfl : old.key = key := of_decide_eq_true hown
    exact hasAlias_carriedAliases hold (rebind?_of_handle hhandle htype)
  have hfound := position?_set hget (fun hii => absurd hii (Nat.lt_irrefl i)) (fun _ => hcarried)
    hposition
  simp only [insert, hexact, hget]
  exact entry?_set_self hget hfound

/-- Something is registered, under another key than the two, or else for the entry that serves both; in
its place it is a double. -/
theorem Together.insert (h : r.Together capability other server) (hindexed : r.Indexed)
    (hserver : mockOf server.type = mockOf capability) (hother : mockOf other = mockOf capability)
    (hown : entry.key = .of capability → server = .of capability) (hfree : entry.key ≠ .of other)
    (hdouble : entry.key = server →
      ∃ handle, entry.handle = some handle ∧ handle.mockType = mockOf entry.key.type) :
    Together capability other server (r.insert mockOf entry).1 := by
  obtain ⟨previous, hfirst, hsecond, hkey, hhandle⟩ := h
  by_cases hplace : entry.key = server
  · obtain ⟨handle, hnew, htype⟩ := hdouble hplace
    rw [hplace, hserver] at htype
    have hsame : entry.key = previous.key := hplace.trans hkey.symm
    exact ⟨_, entry?_insert_of_served hindexed hfirst hsame hnew htype,
      entry?_insert_of_served hindexed hsecond hsame hnew (htype.trans hother.symm), hplace,
      by rw [hnew]; rfl⟩
  · have hcapability : entry.key ≠ .of capability := fun hsame =>
      hplace (hsame.trans (hown hsame).symm)
    have hprevious : entry.key ≠ previous.key := fun hsame => hplace (hsame.trans hkey)
    exact .of_serves (indexed_insert hindexed entry) hkey hhandle
      ((serves_of_found hindexed hfirst).insert hindexed hcapability hprevious)
      ((serves_of_found hindexed hsecond).insert hindexed hfree hprevious)

/-- **An operation that does not part two capabilities leaves them together.** -/
theorem Together.perform (h : r.Together capability other server) (hindexed : r.Indexed)
    (hserver : mockOf server.type = mockOf capability) (hother : mockOf other = mockOf capability)
    (hkeeps : operation.KeepsTogether capability other server) (fresh : Ref) :
    (operation.perform mockOf r fresh).registry.Together capability other server := by
  have hregister {new : Entry} (hnew : operation.registration? mockOf fresh = some new) :
      (operation.perform mockOf r fresh).registry.Together capability other server := by
    have hregisters := Operation.registers?_of_registration hnew
    rcases Operation.perform_of_registration r hnew with ⟨_, heq⟩ | ⟨_, heq⟩
    · rw [heq]
      apply h.insert hindexed hserver hother
      · exact fun hown => hkeeps.capability_free (hown ▸ hregisters)
      · exact fun hown => hkeeps.other_free (hown ▸ hregisters)
      · intro hplace
        apply Operation.handle_of_registration hnew
        rw [← Bool.not_eq_true]
        exact fun hplain => hkeeps.server_doubled hplain (hplace ▸ hregisters)
    · rw [heq]
      exact h
  obtain ⟨entry, hfirst, hsecond, hkey, hhandle⟩ := id h
  have hserves := serves_of_found hindexed hfirst
  have hserves' := serves_of_found hindexed hsecond
  cases operation with
  | getOrCreateMock asked name =>
    have hrequested := requested mockOf hindexed fresh asked name
    exact .of_serves (hrequested.indexed hindexed) hkey hhandle
      (hserves.requested hindexed hrequested) (hserves'.requested hindexed hrequested)
  | addCustomMock _ _ => exact hregister rfl
  | useInstance _ _ => exact hregister rfl
  | useValue _ _ => exact hregister rfl
  | combine first second =>
    obtain ⟨hne, hne'⟩ := hkeeps.not_combined first second rfl
    have hcombined := combined mockOf hindexed fresh first second
    exact .of_serves (extends_combine hindexed fresh first second).indexed hkey hhandle
      (hserves.combined hindexed hcombined fun hsame => absurd (Key.of_inj.mp hsame) hne)
      (hserves'.combined hindexed hcombined fun hsame => absurd (Key.of_inj.mp hsame) hne')
  | clear => exact absurd rfl hkeeps.not_clear

/-- By induction on the operations. -/
theorem Together.performAll {operations : List Operation} (hr : Arises mockOf n r)
    (hserver : mockOf server.type = mockOf capability) (hother : mockOf other = mockOf capability)
    (hkeeps : ∀ operation ∈ operations, operation.KeepsTogether capability other server)
    (h : r.Together capability other server) :
    (Operation.performAll mockOf operations n r).Together capability other server := by
  induction operations generalizing n r with
  | nil => exact h
  | cons operation later ih =>
    obtain ⟨hfirst, hlater⟩ := List.forall_mem_cons.mp hkeeps
    exact ih (hr.perform operation) hlater
      (h.perform hr.coherent.indexed hserver hother hfirst ⟨n⟩)

/-- What is together has one double. -/
theorem Together.yields (h : r.Together capability other server) (hr : r.Coherent mockOf n)
    (hserver : mockOf server.type = mockOf capability) (hother : mockOf other = mockOf capability) :
    ∃ ref, ∀ key ∈ [Key.of capability, Key.of other], r.Yields mockOf ⟨key, ref, ref⟩ := by
  obtain ⟨entry, hfirst, hsecond, hkey, hsome⟩ := h
  obtain ⟨i, -, hget⟩ := Option.bind_eq_some_iff.mp hfirst
  obtain ⟨handle, hhandle⟩ := Option.isSome_iff_exists.mp hsome
  have hentry := hr.entries entry (List.mem_of_getElem? hget)
  obtain ⟨ref, hown, -⟩ := hentry.mock (hentry.isMock_of_handle hhandle)
  have hyields {asked : TypeId} (hfound : r.entry? (.of asked) = some entry)
      (htype : mockOf asked = mockOf capability) : r.Yields mockOf ⟨.of asked, ref, ref⟩ := by
    refine (yields_iff hr.indexed).mpr ⟨nofun, entry, hfound, ?_⟩
    apply mockAt_of_handle hentry _ (provides?_of_found hr.indexed hfound)
    rw [hown, hkey, hserver, Key.type_of, htype]
  refine ⟨ref, fun key hmem => ?_⟩
  rcases List.mem_pair.mp hmem with rfl | rfl
  · exact hyields hfirst rfl
  · exact hyields hsecond hother

/-! ## Combining -/

/-- An alias for a key that nothing answers for makes its entry answer. -/
theorem position?_addAlias_self {i : Nat} {added : Alias} (hi : r.entries[i]? = some entry)
    (hnone : r.position? added.key = none) :
    position? { r with
      entries := r.entries.set i { entry with aliases := entry.aliases ++ [added] } } added.key =
        some i := by
  have hlt := (List.getElem?_eq_some_iff.mp hi).1
  unfold position? at hnone ⊢
  cases hexact : r.exact.find? added.key with
  | some j =>
    rw [hexact] at hnone
    cases hnone
  | none =>
    rw [hexact] at hnone
    dsimp only at hnone ⊢
    rw [List.findIdx?_eq_none_iff] at hnone
    rw [List.findIdx?_eq_some_iff_getElem]
    refine ⟨by simpa using hlt, by simp [Entry.hasAlias], fun j hj => ?_⟩
    rw [List.getElem_set_ne (by omega)]
    simpa using hnone _ (List.getElem_mem (by omega))

/-- **Combining brings a capability that nothing answers for together with another one.** -/
theorem Combined.together (h : r.Coherent mockOf n) {outcome : Outcome Mock}
    (hcombined : Combined mockOf r ⟨n⟩ capability other outcome) (hne : capability ≠ other)
    (hnone : r.lookup (.of other) = none) {mock : Mock} (hok : outcome.result = .ok mock) :
    ∃ entry, outcome.registry.entry? (.of capability) = some entry ∧
      mockOf entry.key.type = mockOf capability ∧
      outcome.registry.Together capability other entry.key := by
  have hkeys : (⟨capability, none⟩ : Key) ≠ .of other := fun hsame => hne (Key.of_inj.mp hsame)
  cases hcombined with
  | itself _ => cases hok
  | refused _ herror => cases herror.symm.trans hok
  | served hcreated _ hserved => exact absurd (hcreated.lookup_eq_none h.indexed hkeys hnone) hserved
  | @added created double i entry hcreated hdouble hposition hget hmock _ =>
    have hcoherent := hcreated.coherent h
    have hunanswered : created.registry.position? (.of other) = none :=
      (hcoherent.indexed.lookup_eq_none_iff_position? _).mp
        (hcreated.lookup_eq_none h.indexed hkeys hnone)
    have hkey : double.key = .of capability := hcreated.key_eq hdouble
    rw [hkey] at hposition hmock
    obtain ⟨ref, hhandle⟩ := handle_of_mockAt hmock
    have hentry := hcoherent.entries entry (List.mem_of_getElem? hget)
    obtain ⟨ref', hown, -⟩ := hentry.mock (hentry.isMock_of_handle hhandle)
    have htype := congrArg Handle.mockType (Option.some.inj (hown.symm.trans hhandle))
    let added : Alias := ⟨.of other, .object other double.handle⟩
    have hfirst := entry?_set_self hget (position?_addAlias added hget hposition)
    have hsecond := entry?_set_self hget (position?_addAlias_self hget
      (show created.registry.position? added.key = none from hunanswered))
    exact ⟨_, hfirst, htype, _, hfirst, hsecond, rfl, by simp [hhandle]⟩

/-! ## Staying together -/

theorem Arises.staysTogether (hr : Arises mockOf n r) : r.StaysTogether mockOf n := by
  intro capability other mock hmatches hnone hok
  have hne : capability ≠ other := by
    rintro rfl
    simp [combine] at hok
  obtain ⟨server, hserver, htype, htogether⟩ :=
    (combined mockOf hr.coherent.indexed ⟨n⟩ capability other).together hr.coherent hne hnone hok
  refine ⟨server, hserver, fun operations hkeeps => ?_⟩
  have hcombined : Arises mockOf (n + 1) (r.combine mockOf ⟨n⟩ capability other).registry :=
    .asks (.combine capability other) hr
  exact (htogether.performAll hcombined htype hmatches hkeeps).yields
    (hcombined.performAll operations).coherent htype hmatches

/-- **Combined capabilities stay together**, in the registries that come of operations and in those of
fixtures: until an operation parts them, they have one double. -/
theorem combined_stay_together {E : Type} (catalog : Catalog E) (conduct : Conduct E) :
    (∀ n r, Arises catalog.mockOf n r → r.StaysTogether catalog.mockOf n) ∧
    (∀ w, World.Reachable catalog conduct w →
      w.fixture.registry.StaysTogether catalog.mockOf w.allocated) :=
  ⟨fun _ _ hr => hr.staysTogether, fun _ hw => hw.sound.registry.staysTogether⟩

/-- An audit trail that a logger serves is combined with a journal. Another logger then serves as both,
whatever else is registered and combined before. -/
theorem combined_stay_together_replaced :
    let catalog : Catalog Unit := ⟨fun _ => ⟨"MockLogger"⟩, fun _ => .null, fun _ => []⟩
    let run : Runner Unit := World.idle
    let logging := (empty.combine catalog.mockOf ⟨0⟩ ⟨"Logger"⟩ ⟨"AuditTrail"⟩).registry
    let combined := logging.combine catalog.mockOf ⟨1⟩ ⟨"AuditTrail"⟩ ⟨"Journal"⟩
    let operations : List Operation :=
      [.combine ⟨"Journal"⟩ ⟨"Recorder"⟩, .addCustomMock ⟨"Journal"⟩ (some "other"),
        .addCustomMock ⟨"Logger"⟩ none]
    let later := Operation.performAll catalog.mockOf operations 2 combined.registry
    let start : World Unit := { surroundings := () }
    let used := start.performAll catalog run [.combine ⟨"Logger"⟩ ⟨"AuditTrail"⟩]
    logging.lookup (.of ⟨"Journal"⟩) = none ∧
      combined.result = .ok ⟨.of ⟨"AuditTrail"⟩, ⟨0⟩, ⟨0⟩⟩ ∧
      later.object? ⟨"Journal"⟩ = some ⟨4⟩ ∧
      (∃ ref, ∀ key ∈ [Key.of ⟨"AuditTrail"⟩, Key.of ⟨"Journal"⟩],
        later.Yields catalog.mockOf ⟨key, ref, ref⟩) ∧
      used.fixture.registry.StaysTogether catalog.mockOf used.allocated := by
  intro catalog run logging combined operations later start used
  have hlogging : Arises catalog.mockOf 1 logging :=
    .asks (.combine ⟨"Logger"⟩ ⟨"AuditTrail"⟩) (.empty 0)
  have hstart : World.Reachable catalog {} start := World.Fresh.reachable ⟨⟨{}, rfl⟩, trivial⟩
  have hused : World.Reachable catalog {} used :=
    hstart.performAll (World.scripted_idle catalog fun _ _ => trivial)
      (fun _ _ _ => trivial) fun _ _ _ => trivial
  have hkeeps : ∀ operation ∈ operations,
      operation.KeepsTogether ⟨"AuditTrail"⟩ ⟨"Journal"⟩ (.of ⟨"Logger"⟩) := by
    intro operation hoperation
    simp only [operations, List.mem_cons, List.not_mem_nil, or_false] at hoperation
    rcases hoperation with rfl | rfl | rfl <;>
      constructor <;> simp [Operation.registers?, Operation.registersPlain, Key.of]
  obtain ⟨hbare, hfixture⟩ := combined_stay_together catalog {}
  obtain ⟨server, hserver, hlater⟩ :=
    hbare 1 logging hlogging ⟨"AuditTrail"⟩ ⟨"Journal"⟩ _ rfl rfl rfl
  have hkey : server.key = .of ⟨"Logger"⟩ := congrArg Entry.key (Option.some.inj hserver).symm
  exact ⟨rfl, rfl, by decide +kernel, hlater operations (hkey ▸ hkeeps), hfixture used hused⟩

/-- What was combined is parted by a real implementation in the place of the double that serves both,
and by a double registered under the first capability while it is an alias. -/
theorem combined_are_parted :
    let mockOf : TypeId → TypeId := fun _ => ⟨"MockLogger"⟩
    let logging := (empty.combine mockOf ⟨0⟩ ⟨"Logger"⟩ ⟨"AuditTrail"⟩).registry
    let combined := logging.combine mockOf ⟨1⟩ ⟨"AuditTrail"⟩ ⟨"Journal"⟩
    let displaced := Operation.performAll mockOf [.useInstance ⟨"Logger"⟩ ⟨9⟩] 2 combined.registry
    let audit := displaced.getOrCreateMock mockOf ⟨3⟩ ⟨"AuditTrail"⟩ none
    let journal := audit.registry.getOrCreateMock mockOf ⟨4⟩ ⟨"Journal"⟩ none
    let parted :=
      Operation.performAll mockOf [.addCustomMock ⟨"AuditTrail"⟩ none] 2 combined.registry
    Arises mockOf 1 logging ∧ logging.lookup (.of ⟨"Journal"⟩) = none ∧
      combined.result = .ok ⟨.of ⟨"AuditTrail"⟩, ⟨0⟩, ⟨0⟩⟩ ∧
      audit.result = .ok ⟨.of ⟨"AuditTrail"⟩, ⟨3⟩, ⟨3⟩⟩ ∧
      journal.result = .ok ⟨.of ⟨"Journal"⟩, ⟨4⟩, ⟨4⟩⟩ ∧
      parted.Yields mockOf ⟨.of ⟨"AuditTrail"⟩, ⟨2⟩, ⟨2⟩⟩ ∧
      parted.Yields mockOf ⟨.of ⟨"Journal"⟩, ⟨0⟩, ⟨0⟩⟩ :=
  ⟨.asks (.combine ⟨"Logger"⟩ ⟨"AuditTrail"⟩) (.empty 0), rfl, rfl, rfl, rfl, fun _ => rfl,
    fun _ => rfl⟩

end Registry

end TestDoubles
