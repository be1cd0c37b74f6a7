import TestDoubles.Proofs.Registry.Replacing

/-!
# Doubles on demand

A double is created when a capability is asked for that nothing answers for; from then on the same one is
handed out. Asking fails only if the name is empty, or if what is registered under that very key is no
double: aliases lead to doubles only, and to doubles of the type that stands in for the capability.

- `Registry.RefusesDouble` gives the reasons for which no double is handed out, with their errors.
- `Registry.mockAt_eq_error_iff` shows that an entry that answers has a double unless it is plain, and
  `Registry.Requested.error_iff` that no other request fails.
- `Registry.SuppliesDouble` is all that a request comes to, and `Registry.doubles_on_demand` shows it of
  the registries that come of operations and of those of fixtures.
-/

namespace TestDoubles

namespace Registry

/-! ## What a request comes to -/

/-- Why there is no double for a capability, and the error that says so. -/
inductive RefusesDouble (r : Registry) (capability : TypeId) (name : Option String) : Error → Prop where
  | nameless (hname : name = some "") :
      RefusesDouble r capability name (.invalidArgument (.emptyMockName capability))
  -- The entry with that very key is no double.
  | plain {entry : Entry} (hentry : entry ∈ r.entries) (hkey : entry.key = ⟨capability, name⟩)
      (horigin : entry.origin = .real ∨ entry.origin = .value) :
      RefusesDouble r capability name
        (.invalidArgument (.notAMock ⟨capability, name⟩ entry.origin))

/-- What asking for the double of a capability comes to, when `fresh` is a new object. -/
structure SuppliesDouble (mockOf : TypeId → TypeId) (r : Registry) (capability : TypeId)
    (name : Option String) (fresh : Ref) : Prop where
  fails (e : Error) : (r.getOrCreateMock mockOf fresh capability name).result = .error e ↔
    r.RefusesDouble capability name e
  succeeds (haccepted : ∀ e, ¬ r.RefusesDouble capability name e) :
    ∃ mock, (r.getOrCreateMock mockOf fresh capability name).result = .ok mock ∧
      mock.key = ⟨capability, name⟩
  unchanged (e : Error) (herror : r.RefusesDouble capability name e) :
    r.getOrCreateMock mockOf fresh capability name = { result := .error e, registry := r }
  -- Something answers, whether under its own key or by an alias.
  found (hfound : r.lookup ⟨capability, name⟩ ≠ none) :
    (r.getOrCreateMock mockOf fresh capability name).registry = r
  created (hnone : r.lookup ⟨capability, name⟩ = none) (hname : name ≠ some "") :
    (r.getOrCreateMock mockOf fresh capability name).result =
        .ok ⟨⟨capability, name⟩, fresh, fresh⟩ ∧
      (r.getOrCreateMock mockOf fresh capability name).registry.entries = r.entries ++
        [.ofMock .autoMock (mockOf capability) ⟨⟨capability, name⟩, fresh, fresh⟩]
  again (mock : Mock) (hok : (r.getOrCreateMock mockOf fresh capability name).result = .ok mock)
    (later : Ref) :
    (r.getOrCreateMock mockOf fresh capability name).registry.getOrCreateMock mockOf later capability
        name =
      { result := .ok mock, registry := (r.getOrCreateMock mockOf fresh capability name).registry }

/-- Every request comes to this. -/
def SuppliesDoubles (mockOf : TypeId → TypeId) (r : Registry) : Prop :=
  ∀ capability name fresh, r.SuppliesDouble mockOf capability name fresh

variable {mockOf : TypeId → TypeId} {r : Registry} {n : Nat} {fresh : Ref} {capability : TypeId}
  {name : Option String} {key : Key} {entry : Entry} {outcome : Outcome Mock} {e : Error}

/-! ## When a request fails -/

/-- An entry is plain exactly if it is a real implementation or a value. -/
theorem isMock_eq_false_iff {origin : Origin} :
    origin.isMock = false ↔ origin = .real ∨ origin = .value := by
  cases origin <;> simp [Origin.isMock]

/-- An entry answers for its own key. -/
theorem Indexed.entry?_key (h : r.Indexed) (hentry : entry ∈ r.entries) :
    r.entry? entry.key = some entry := by
  obtain ⟨i, hi⟩ := List.mem_iff_getElem?.mp hentry
  simp [position?, entry?, h.find?_exact_key hi, hi]

/-- **Of an entry that provides a key a double is had, unless the entry is plain.** -/
theorem mockAt_eq_error_iff (hcoherent : entry.Coherent mockOf) (huniform : entry.Uniform mockOf)
    (hprovides : (entry.provides? key).isSome) :
    mockAt mockOf entry key = .error e ↔
      entry.origin.isMock = false ∧ e = .invalidArgument (.notAMock key entry.origin) := by
  cases horigin : entry.origin.isMock with
  | true =>
    obtain ⟨ref, hhandle, -⟩ := hcoherent.mock horigin
    -- What the entry provides is served by the type of its double, and so the double can be viewed.
    rw [← huniform.mockOf_eq hprovides] at hhandle
    simp [mockAt_of_handle hcoherent hhandle hprovides]
  | false =>
    obtain ⟨hhandle, -⟩ := hcoherent.plain horigin
    simp [mockAt, hhandle, eq_comm]

/-- The entry that answers for a key is plain exactly if it is the entry of that very key. -/
theorem refusesDouble_of_found (h : r.Coherent mockOf n) (hname : name ≠ some "")
    (hentry : r.entry? ⟨capability, name⟩ = some entry) :
    r.RefusesDouble capability name e ↔
      entry.origin.isMock = false ∧
        e = .invalidArgument (.notAMock ⟨capability, name⟩ entry.origin) := by
  constructor
  · intro hrefuses
    cases hrefuses with
    | nameless hempty => exact absurd hempty hname
    | @plain own hmem hkey horigin =>
      have hown := h.indexed.entry?_key hmem
      rw [hkey, hentry] at hown
      obtain rfl := Option.some.inj hown
      exact ⟨isMock_eq_false_iff.mpr horigin, rfl⟩
  · rintro ⟨horigin, rfl⟩
    obtain ⟨i, -, hget⟩ := Option.bind_eq_some_iff.mp hentry
    have hmem := List.mem_of_getElem? hget
    obtain ⟨object, hobject⟩ := Option.isSome_iff_exists.mp (provides?_of_found h.indexed hentry)
    obtain ⟨hkey, -⟩ := (h.entries entry hmem).provides?_of_plain horigin hobject
    exact .plain hmem hkey (isMock_eq_false_iff.mp horigin)

/-- **Requests fail where they must, and only there.** -/
theorem Requested.error_iff (h : r.Coherent mockOf n) (huniform : r.Uniform mockOf)
    (hrequested : Requested mockOf r fresh capability name outcome) :
    outcome.result = .error e ↔ r.RefusesDouble capability name e := by
  cases hrequested with
  | nameless hname =>
    constructor
    · intro herror
      obtain rfl := Except.error.inj herror
      exact .nameless hname
    · intro hrefuses
      cases hrefuses with
      | nameless _ => rfl
      | plain hentry hkey _ =>
        have hne := (h.entries _ hentry).name_ne
        rw [hkey] at hne
        exact absurd hname hne
  | @found entry hname hentry =>
    obtain ⟨i, -, hget⟩ := Option.bind_eq_some_iff.mp hentry
    have hmem := List.mem_of_getElem? hget
    rw [refusesDouble_of_found h hname hentry]
    exact mockAt_eq_error_iff (h.entries entry hmem) (huniform.entries entry hmem)
      (provides?_of_found h.indexed hentry)
  | created hname hnone =>
    refine iff_of_false nofun fun hrefuses => ?_
    cases hrefuses with
    | nameless hempty => exact hname hempty
    | plain hentry hkey _ =>
      have hsome := h.indexed.position?_isSome hentry
      rw [hkey, hnone] at hsome
      cases hsome

/-! ## What a request changes -/

/-- A request that fails changes nothing. -/
theorem Requested.eq_of_error (hrequested : Requested mockOf r fresh capability name outcome)
    (herror : outcome.result = .error e) : outcome = { result := .error e, registry := r } := by
  cases hrequested with
  | nameless _ => rw [← herror]
  | found _ _ => rw [← herror]
  | created _ _ => cases herror

/-- A request that something answers changes nothing. -/
theorem Requested.registry_eq (hrequested : Requested mockOf r fresh capability name outcome)
    (hfound : r.position? ⟨capability, name⟩ ≠ none) : outcome.registry = r := by
  cases hrequested with
  | nameless _ => rfl
  | found _ _ => rfl
  | created _ hnone => exact absurd hnone hfound

theorem suppliesDouble (h : r.Coherent mockOf n) (huniform : r.Uniform mockOf) (capability : TypeId)
    (name : Option String) (fresh : Ref) : r.SuppliesDouble mockOf capability name fresh := by
  have hrequested := requested mockOf h.indexed fresh capability name
  have hfails (e : Error) := hrequested.error_iff (e := e) h huniform
  refine ⟨hfails, ?_, fun e hrefuses => hrequested.eq_of_error ((hfails e).mpr hrefuses), ?_, ?_, ?_⟩
  · intro haccepted
    cases hresult : (r.getOrCreateMock mockOf fresh capability name).result with
    | error e => exact absurd ((hfails e).mp hresult) (haccepted e)
    | ok mock => exact ⟨mock, rfl, hrequested.key_eq hresult⟩
  · intro hfound
    exact hrequested.registry_eq (mt (h.indexed.lookup_eq_none_iff_position? _).mpr hfound)
  · intro hnone hname
    have hok : (r.getOrCreateMock mockOf fresh capability name).result =
        .ok ⟨⟨capability, name⟩, fresh, fresh⟩ := by
      cases hresult : (r.getOrCreateMock mockOf fresh capability name).result with
      | error e => exact absurd (hrequested.nameless_of_lookup h.indexed hnone hresult).1 hname
      | ok mock => rw [(getOrCreateMock_of_lookup mockOf h.indexed hnone hresult).1]
    exact ⟨hok, (getOrCreateMock_of_lookup mockOf h.indexed hnone hok).2⟩
  · intro mock hok later
    have hyields := hrequested.yields h.indexed hok later
    rwa [hrequested.key_eq hok] at hyields

/-- **Doubles are supplied on demand**, by the registries that come of operations and by those of
fixtures: a request fails only for an empty name or a plain entry of that very key, and then changes
nothing; it creates a double if nothing answers, and changes nothing otherwise; and whoever asks again
is given the same double. -/
theorem doubles_on_demand {E : Type} (catalog : Catalog E) (conduct : Conduct E) :
    (∀ operations n, (∀ operation ∈ operations, operation.Matches catalog.mockOf) →
      (Operation.performAll catalog.mockOf operations n empty).SuppliesDoubles catalog.mockOf) ∧
    (conduct.Matches catalog.mockOf → ∀ w, World.Reachable catalog conduct w →
      w.fixture.registry.SuppliesDoubles catalog.mockOf) := by
  constructor
  · intro operations n hoperations
    exact suppliesDouble ((Arises.empty n).performAll operations).coherent
      ((uniform_empty catalog.mockOf).performAll hoperations n)
  · exact fun hmatches w hw => suppliesDouble hw.sound.registry.coherent (hw.uniform hmatches)

/-- A logger that also serves as an audit trail, a real clock and a number. The audit trail is there, and
stays the same double; the clock and the number are no doubles, and nothing has the empty name; another
logger is created, and is there from then on. -/
theorem doubles_on_demand_combined :
    let catalog : Catalog Unit := ⟨fun _ => ⟨"MockLogger"⟩, fun _ => .null, fun _ => []⟩
    let run : Runner Unit := World.idle
    let operations : List Operation :=
      [.combine ⟨"Logger"⟩ ⟨"AuditTrail"⟩, .useInstance ⟨"Clock"⟩ ⟨7⟩, .useValue ⟨"u32"⟩ (.int 5)]
    let r := Operation.performAll catalog.mockOf operations 0 empty
    let request := r.getOrCreateMock catalog.mockOf ⟨3⟩
    let spare := request ⟨"Logger"⟩ (some "spare")
    let start : World Unit := { surroundings := () }
    let used := start.performAll catalog run [.combine ⟨"Logger"⟩ ⟨"AuditTrail"⟩]
    (request ⟨"AuditTrail"⟩ none).result = .ok ⟨.of ⟨"AuditTrail"⟩, ⟨0⟩, ⟨0⟩⟩ ∧
      (request ⟨"AuditTrail"⟩ none).registry = r ∧
      (request ⟨"Clock"⟩ none).result =
        .error (.invalidArgument (.notAMock (.of ⟨"Clock"⟩) .real)) ∧
      (request ⟨"u32"⟩ none).result =
        .error (.invalidArgument (.notAMock (.of ⟨"u32"⟩) .value)) ∧
      (request ⟨"Logger"⟩ (some "")).result =
        .error (.invalidArgument (.emptyMockName ⟨"Logger"⟩)) ∧
      spare.result = .ok ⟨⟨⟨"Logger"⟩, some "spare"⟩, ⟨3⟩, ⟨3⟩⟩ ∧
      (∀ later, spare.registry.getOrCreateMock catalog.mockOf later ⟨"Logger"⟩ (some "spare") =
        { result := .ok ⟨⟨⟨"Logger"⟩, some "spare"⟩, ⟨3⟩, ⟨3⟩⟩, registry := spare.registry }) ∧
      used.fixture.registry.SuppliesDoubles catalog.mockOf := by
  intro catalog run operations r request spare start used
  have hoperations : ∀ operation ∈ operations, operation.Matches catalog.mockOf := by
    intro operation hoperation
    simp only [operations, List.mem_cons, List.not_mem_nil, or_false] at hoperation
    rcases hoperation with rfl | rfl | rfl <;> trivial
  have hstart : World.Reachable catalog {} start := World.Fresh.reachable ⟨⟨{}, rfl⟩, trivial⟩
  have hused : World.Reachable catalog {} used :=
    hstart.performAll (World.scripted_idle catalog fun _ _ => trivial)
      (fun _ _ _ => trivial) fun _ _ _ => trivial
  obtain ⟨hbare, hfixture⟩ := doubles_on_demand catalog {}
  have hr : r.SuppliesDoubles catalog.mockOf := hbare operations 0 hoperations
  have hlogger := hr ⟨"Logger"⟩ (some "spare") ⟨3⟩
  have hclock : r.entries[1]? = some (.ofReal ⟨"Clock"⟩ ⟨7⟩) := rfl
  have hnumber : r.entries[2]? = some (.ofValue (.of ⟨"u32"⟩) (.value ⟨"u32"⟩ (.int 5))) := rfl
  have hspare := (hlogger.created (by decide +kernel) (by decide)).1
  refine ⟨rfl, ?_, ?_, ?_, ?_, hspare, hlogger.again _ hspare, ?_⟩
  · exact (hr ⟨"AuditTrail"⟩ none ⟨3⟩).found (by decide +kernel)
  · exact ((hr ⟨"Clock"⟩ none ⟨3⟩).fails _).mpr
      (.plain (List.mem_of_getElem? hclock) rfl (.inl rfl))
  · exact ((hr ⟨"u32"⟩ none ⟨3⟩).fails _).mpr
      (.plain (List.mem_of_getElem? hnumber) rfl (.inr rfl))
  · exact ((hr ⟨"Logger"⟩ (some "") ⟨3⟩).fails _).mpr (.nameless rfl)
  · exact hfixture (fun _ _ _ _ => rfl) used hused

end Registry

end TestDoubles
