import TestDoubles.Proofs.Filling.EntryPoints
import TestDoubles.Proofs.Registry.Commuting

/-!
# After registrations in either order

A test may register what it provides in any order, as long as the keys are different: afterwards there are
as many entries, the same is found for every key, and what is built without factories is built by the same
constructor with the same arguments, from the same sources. Only the objects of new doubles are numbered in
the order in which they come into being, so here each registration has its own one to use.

- `World.Interchangeable` compares two worlds whose registries give the same answers, and `World.Interchangeable.create`
  and `World.Interchangeable.resolve` show that building leads from interchangeable worlds to interchangeable worlds.
- `World.registering` gives two registrations, and `World.EitherOrder` says that their order does not
  matter.
- `World.registrations_commute` is all this for registries and for worlds.
-/

namespace TestDoubles

namespace Fixture

/-- What is configured twice is configured. -/
theorem configured_configured (f : Fixture) (r r' : Registry) :
    configured { configured { f with registry := r } with registry := r' } =
      configured { f with registry := r' } := by
  unfold configured
  split <;> simp_all

/-- Another registry has nothing to do with it. -/
theorem configured_registry (f : Fixture) (r : Registry) :
    configured { f with registry := r } = { configured f with registry := r } := by
  unfold configured
  split <;> simp_all

end Fixture

namespace World

open Registry

variable {E : Type}

/-! ## Worlds with the same answers -/

/-- The registries give the same answers, and apart from them and the events nothing is different. -/
structure Interchangeable (w w' : World E) : Prop where
  registry : w.fixture.registry.SameAnswers w'.fixture.registry
  indexed : w.fixture.registry.Indexed
  indexed' : w'.fixture.registry.Indexed
  fixture : w'.fixture = { w.fixture with registry := w'.fixture.registry }
  allocated : w.allocated = w'.allocated
  surroundings : w.surroundings = w'.surroundings

namespace Interchangeable

variable {catalog : Catalog E} {run : Runner E} {target : TypeId} {w w' : World E}

/-- A change of something else than the registry is the same in both. -/
theorem mapFixture (h : Interchangeable w w') (change : Fixture → Fixture)
    (hregistry : ∀ f, (change f).registry = f.registry)
    (hchange : ∀ (f : Fixture) (r : Registry),
      change { f with registry := r } = { change f with registry := r }) :
    Interchangeable (w.mapFixture change) (w'.mapFixture change) where
  registry := by
    simp only [World.mapFixture, hregistry]
    exact h.registry
  indexed := by
    simp only [World.mapFixture, hregistry]
    exact h.indexed
  indexed' := by
    simp only [World.mapFixture, hregistry]
    exact h.indexed'
  fixture := by
    simp only [World.mapFixture, hregistry]
    rw [← hchange, ← h.fixture]
  allocated := h.allocated
  surroundings := h.surroundings

theorem hasFactory_eq (h : Interchangeable w w') (key : Key) :
    w'.fixture.hasFactory key = w.fixture.hasFactory key := by
  rw [h.fixture]
  rfl

theorem options_eq (h : Interchangeable w w') : w.fixture.options = w'.fixture.options :=
  (congrArg Fixture.options h.fixture).symm

theorem emit (h : Interchangeable w w') (events : List Event) :
    Interchangeable (w.emit events) (w'.emit events) :=
  ⟨h.registry, h.indexed, h.indexed', h.fixture, h.allocated, h.surroundings⟩

/-- The same parameters could be filled. -/
theorem canFill_eq (h : Interchangeable w w') (param : Param) :
    w'.fixture.canFill param = w.fixture.canFill param := by
  unfold Fixture.canFill
  rw [h.hasFactory_eq, h.options_eq, h.registry.contains h.indexed h.indexed']

/-- The same constructor is selected. -/
theorem select_eq (h : Interchangeable w w') (constructors : List (Constructor E))
    (signature : Option Signature) (explicit : Arguments) :
    w'.fixture.select target (w'.fixture.visible constructors) signature explicit =
      w.fixture.select target (w.fixture.visible constructors) signature explicit := by
  have hvisible : w'.fixture.visible constructors = w.fixture.visible constructors := by
    simp only [Fixture.visible, h.options_eq]
  rw [hvisible]
  exact Fixture.select_congr h.canFill_eq target _ signature explicit

/-- **Without factories, parameters are filled alike in interchangeable worlds.** -/
theorem corresponds (catalog : Catalog E) (run : Runner E) (target : TypeId) :
    Corresponds catalog run (catalog.Declares target)
      fun w w' => FactoryFree catalog target w.fixture ∧ Interchangeable w w' where
  options h := h.2.options_eq
  surroundings h := h.2.surroundings
  lookup h := h.2.registry.lookup
  emit events h := ⟨h.1, h.2.emit events⟩
  changed _ h := ⟨h.1, h.2.registry, h.2.indexed, h.2.indexed', h.2.fixture, h.2.allocated, rfl⟩
  recorded target construction h :=
    ⟨⟨h.1.own, h.1.params⟩, (h.2.emit [.recorded target construction.constructor]).mapFixture
      (fun f => { f with history := f.history.record target construction }) (fun _ => rfl)
      fun _ _ => rfl⟩
  mocked := by
    rintro w w' key ⟨hfree, h⟩ hlookup
    obtain ⟨hanswer, hregistry⟩ := @SameAnswers.getOrCreateMock catalog.mockOf _ _ key h.registry
      h.indexed h.indexed' hlookup ⟨w.allocated⟩
    refine ⟨?_, ⟨hfree.own, hfree.params⟩, ?_⟩
    · simpa only [onRegistry, allocate, ← h.allocated] using hanswer
    · constructor
      · simp only [onRegistry, allocate, ← h.allocated]
        exact hregistry
      · exact (extends_getOrCreateMock catalog.mockOf h.indexed _ _ _).indexed
      · exact (extends_getOrCreateMock catalog.mockOf h.indexed' _ _ _).indexed
      · exact congrArg (fun f : Fixture => { f with
          registry := (w'.fixture.registry.getOrCreateMock catalog.mockOf ⟨w'.allocated⟩ key.type
            key.name).registry }) h.fixture
      · exact congrArg (· + 1) h.allocated
      · exact h.surroundings
  produced := by
    rintro w w' param ⟨constructor, hconstructor, hparam⟩ ⟨hfree, h⟩ -
    have hnone := hfree.params constructor hconstructor param hparam
    rw [(produced catalog run param.key.unnamed w).eq_of_hasFactory catalog run hnone,
      (produced catalog run param.key.unnamed w').eq_of_hasFactory catalog run
        ((h.hasFactory_eq _).trans hnone)]
    exact ⟨rfl, hfree, h⟩

/-- **Resolving a constructor** comes to the same in interchangeable worlds. -/
theorem resolve (h : Interchangeable w w') (hfree : FactoryFree catalog target w.fixture)
    (signature : Option Signature) (explicit : Arguments) :
    Agree Interchangeable (w.resolve catalog run target signature explicit)
      (w'.resolve catalog run target signature explicit) := by
  rcases hselect : w.fixture.select target (w.fixture.visible (catalog.constructors target)) signature
    explicit with ⟨choice, events⟩
  have hdeclared : ∀ constructor position, choice = .ok (constructor, position) →
      ∀ param ∈ constructor.params, catalog.Declares target param := by
    rintro constructor position rfl param hparam
    exact ⟨constructor, Fixture.mem_of_select hselect, hparam⟩
  have hresolved := (corresponds catalog run target).resolve hdeclared hselect
    ((h.select_eq _ _ _).trans hselect)
    ((corresponds catalog run target).emit events ⟨hfree, h⟩)
  exact ⟨hresolved.answer, hresolved.worlds.2⟩

theorem storedFor_eq (h : Interchangeable w w') : w'.storedFor target = w.storedFor target := by
  unfold storedFor
  rw [h.fixture]

theorem inProgress_eq (h : Interchangeable w w') : w'.fixture.inProgress = w.fixture.inProgress := by
  rw [h.fixture]

/-- **Creating an instance** comes to the same in interchangeable worlds. -/
theorem create (h : Interchangeable w w') (hfree : FactoryFree catalog target w.fixture)
    (signature : Option Signature) (arguments : Option Arguments) :
    Agree Interchangeable (w.create catalog run target signature arguments)
      (w'.create catalog run target signature arguments) := by
  have hfree' : FactoryFree catalog target w'.fixture := by
    rw [h.fixture]
    exact ⟨hfree.own, hfree.params⟩
  by_cases hidle : Key.of target ∈ w.fixture.inProgress
  · have hcyclic := enter_eq_error_iff.mpr ⟨hidle, rfl⟩
    have hcyclic' := enter_eq_error_iff.mpr ⟨h.inProgress_eq.symm ▸ hidle, rfl⟩
    simp only [World.create, hcyclic, hcyclic', h.inProgress_eq]
    exact ⟨rfl, h⟩
  · have hidle' : Key.of target ∉ w'.fixture.inProgress := h.inProgress_eq.symm ▸ hidle
    have hexplicit (explicit : Arguments) :
        Agree Interchangeable (w.create catalog run target signature (some explicit))
          (w'.create catalog run target signature (some explicit)) := by
      rw [create_eq_resolve hfree hidle, create_eq_resolve hfree' hidle']
      have hresolved : Agree Interchangeable (w.resolve catalog run target signature explicit)
          (w'.resolve catalog run target signature explicit) := h.resolve hfree signature explicit
      obtain ⟨answer, after, after', heq, heq', hafter⟩ := hresolved.exists
      rw [heq, heq']
      rcases answer with e | ⟨construction, datum⟩
      · exact ⟨rfl, hafter⟩
      · refine ⟨rfl, hafter.mapFixture (fun f => (f.freeze (.of target)).built)
          (fun f => f.registry_freeze (.of target)) fun f r => ?_⟩
        simp only [Fixture.freeze, Fixture.built]
        split <;> rfl
    cases arguments with
    | some explicit => exact hexplicit explicit
    | none =>
      rw [create_stored, create_stored, h.storedFor_eq]
      exact hexplicit _

end Interchangeable

/-! ## Two registrations -/

/-- A command is accepted and inserts an entry, and that is all it does to a fixture; the object that it
uses, if it uses one, is the next that is allocated. -/
def Inserts (catalog : Catalog E) (run : Runner E) (command : Command) (entry : Ref → Entry)
    (reply : Ref → Reply) : Prop :=
  ∀ w : World E, ∃ allocated events, w.perform catalog run command =
    (.ok (reply ⟨w.allocated⟩),
      { w with
        fixture := Fixture.configured { w.fixture with
          registry := (w.fixture.registry.insert catalog.mockOf (entry ⟨w.allocated⟩)).1 }
        allocated := allocated
        events := events })

/-- Two commands are given one after the other, the first of them when the object `a` is the next that is
allocated, and the second when it is `b`; afterwards it is `next`. -/
def registering (catalog : Catalog E) (run : Runner E) (first second : Command) (a b next : Nat)
    (w : World E) : Except Error Reply × Except Error Reply × World E :=
  let once := { w with allocated := a }.perform catalog run first
  let twice := { once.2 with allocated := b }.perform catalog run second
  (once.1, twice.1, { twice.2 with allocated := next })

/-- The order of two registrations does not matter: neither for their answers, nor for what is found
afterwards, nor for what is selected, resolved and created then. -/
structure EitherOrder (catalog : Catalog E) (run : Runner E) (w : World E) (first second : Command)
    (a b next : Nat) : Prop where
  answer : (w.registering catalog run first second a b next).1 =
    (w.registering catalog run second first b a next).2.1
  answer' : (w.registering catalog run first second a b next).2.1 =
    (w.registering catalog run second first b a next).1
  worlds : Interchangeable (w.registering catalog run first second a b next).2.2
    (w.registering catalog run second first b a next).2.2
  selected (target : TypeId) (constructors : List (Constructor E)) (signature : Option Signature)
    (explicit : Arguments) :
    let f := (w.registering catalog run first second a b next).2.2.fixture
    let f' := (w.registering catalog run second first b a next).2.2.fixture
    f'.select target (f'.visible constructors) signature explicit =
      f.select target (f.visible constructors) signature explicit
  resolved (target : TypeId) (hfree : FactoryFree catalog target w.fixture)
    (signature : Option Signature) (explicit : Arguments) :
    Agree Interchangeable
      ((w.registering catalog run first second a b next).2.2.resolve catalog run target signature
        explicit)
      ((w.registering catalog run second first b a next).2.2.resolve catalog run target signature
        explicit)
  created (target : TypeId) (hfree : FactoryFree catalog target w.fixture)
    (signature : Option Signature) (arguments : Option Arguments) :
    Agree Interchangeable
      ((w.registering catalog run first second a b next).2.2.create catalog run target signature
        arguments)
      ((w.registering catalog run second first b a next).2.2.create catalog run target signature
        arguments)

section

variable {catalog : Catalog E} {run : Runner E} {w : World E} {first second command : Command}
  {key other : Key} {entry entry' : Ref → Entry} {reply reply' : Ref → Reply}

/-- A registration that is accepted once is always accepted. -/
theorem inserts_of_registers (hkey : command.registers? = some key) {answer : Reply}
    (hok : (w.perform catalog run command).1 = .ok answer) :
    ∃ entry reply, Brings catalog.mockOf key entry ∧ Inserts catalog run command entry reply := by
  cases command with
  | addCustomMock capability name =>
    obtain rfl := Option.some.inj hkey
    rcases capabilityKey_cases capability name with ⟨-, hname⟩ | ⟨-, hname⟩
    · simp [perform, addCustomMock, register, onRegistry, allocate, Registry.addCustomMock, hname,
        Except.map] at hok
    · refine ⟨_, fun fresh => .mock ⟨⟨capability, name⟩, fresh, fresh⟩, .double, fun w => ?_⟩
      refine ⟨w.allocated + 1, w.events ++ (w.fixture.registry.insert catalog.mockOf
        (.ofMock .customMock (catalog.mockOf capability)
          ⟨⟨capability, name⟩, ⟨w.allocated⟩, ⟨w.allocated⟩⟩)).2, ?_⟩
      simp [perform, addCustomMock, register, onRegistry, allocate, Registry.addCustomMock, hname,
        Except.map, mapFixture, emit]
  | useInstance capability ref =>
    obtain rfl := Option.some.inj hkey
    exact ⟨_, fun _ => .object ref, .plain (.ofReal capability ref) rfl rfl, fun w => ⟨_, _, rfl⟩⟩
  | useValue type datum =>
    obtain rfl := Option.some.inj hkey
    exact ⟨_, fun _ => .nothing, .plain (.ofValue (.of type) (.value type datum)) rfl rfl,
      fun w => ⟨_, _, rfl⟩⟩
  | _ => cases hkey

/-- Two registrations insert their entries one after the other. -/
theorem registering_eq (hfirst : Inserts catalog run first entry reply)
    (hsecond : Inserts catalog run second entry' reply') (w : World E) (a b next : Nat) :
    ∃ events, w.registering catalog run first second a b next =
      (.ok (reply ⟨a⟩), .ok (reply' ⟨b⟩),
        { w with
          fixture := Fixture.configured { w.fixture with
            registry := ((w.fixture.registry.insert catalog.mockOf (entry ⟨a⟩)).1.insert
              catalog.mockOf (entry' ⟨b⟩)).1 }
          allocated := next
          events := events }) := by
  obtain ⟨_, _, hfirst⟩ := hfirst { w with allocated := a }
  obtain ⟨_, events, hsecond⟩ := hsecond
    { ({ w with allocated := a }.perform catalog run first).2 with allocated := b }
  refine ⟨events, ?_⟩
  unfold registering
  rw [hfirst] at hsecond ⊢
  dsimp only at hsecond ⊢
  rw [hsecond]
  simp only [Fixture.registry_configured, Fixture.configured_configured]

/-- **Two registrations under different keys may be given in either order.** -/
theorem eitherOrder_of_registers (hindexed : w.fixture.registry.Indexed)
    (hkey : first.registers? = some key) (hkey' : second.registers? = some other) (hne : key ≠ other)
    {answer answer' : Reply} (hok : (w.perform catalog run first).1 = .ok answer)
    (hok' : (w.perform catalog run second).1 = .ok answer') :
    (∀ a b next, EitherOrder catalog run w first second a b next) ∧
      ∀ asked next, Chooses asked.type fun a b =>
        (w.registering catalog run first second a.index b.index next).2.2.fixture.registry.lookup
          asked := by
  obtain ⟨entry, reply, hbrings, hinserts⟩ := inserts_of_registers hkey hok
  obtain ⟨entry', reply', hbrings', hinserts'⟩ := inserts_of_registers hkey' hok'
  constructor
  · intro a b next
    obtain ⟨events, heq⟩ := registering_eq hinserts hinserts' w a b next
    obtain ⟨events', heq'⟩ := registering_eq hinserts' hinserts w b a next
    have hworlds : Interchangeable (w.registering catalog run first second a b next).2.2
        (w.registering catalog run second first b a next).2.2 := by
      rw [heq, heq']
      constructor
      · simp only [Fixture.registry_configured]
        exact hbrings.insert_comm hindexed hbrings' hne ⟨a⟩ ⟨b⟩
      · simp only [Fixture.registry_configured]
        exact indexed_insert (indexed_insert hindexed _) _
      · simp only [Fixture.registry_configured]
        exact indexed_insert (indexed_insert hindexed _) _
      · simp only [Fixture.configured_registry]
      · rfl
      · rfl
    have hfree {target : TypeId} (hfree : FactoryFree catalog target w.fixture) :
        FactoryFree catalog target
          (w.registering catalog run first second a b next).2.2.fixture := by
      rw [heq]
      simp only [Fixture.configured_registry]
      refine ⟨?_, fun constructor hconstructor param hparam => ?_⟩
      · simpa [Fixture.hasFactory, Fixture.recipes_configured] using hfree.own
      · simpa [Fixture.hasFactory, Fixture.recipes_configured] using
          hfree.params constructor hconstructor param hparam
    exact {
      answer := by rw [heq, heq']
      answer' := by rw [heq, heq']
      worlds := hworlds
      selected := fun target => hworlds.select_eq
      resolved := fun target h => hworlds.resolve (hfree h)
      created := fun target h => hworlds.create (hfree h) }
  · intro asked next
    have hfound (a b : Ref) :
        (w.registering catalog run first second a.index b.index next).2.2.fixture.registry =
          ((w.fixture.registry.insert catalog.mockOf (entry a)).1.insert catalog.mockOf
            (entry' b)).1 := by
      obtain ⟨events, heq⟩ := registering_eq hinserts hinserts' w a.index b.index next
      rw [heq]
      exact Fixture.registry_configured _
    simp only [hfound]
    exact hbrings.chooses hindexed hbrings' hne asked

/-- In a run, the objects that two registrations use are those that come next. -/
theorem performAll_pair (catalog : Catalog E) (run : Runner E) (first second : Command) (w : World E) :
    ∃ b next, w.performAll catalog run [first, second] =
      (w.registering catalog run first second w.allocated b next).2.2 :=
  ⟨(w.perform catalog run first).2.allocated,
    (w.performAll catalog run [first, second]).allocated, rfl⟩

end

/-- **Registrations under different keys commute**, in the registries that come of operations and in those
of fixtures. If they are accepted and each of them uses the same object in both orders, there are as many
entries afterwards and the same is found for every key, with the same origin, also where one of them has
moved or dropped an alias; and which two objects these are does not matter for anything else. So what is
selected then is the same, and without factories so are the arguments, their sources and all that is
built. -/
theorem registrations_commute (catalog : Catalog E) (conduct : Conduct E) :
    (∀ r, Registry.Reachable catalog.mockOf r → ∀ (first second : Operation) (key other : Key)
      (a b : Ref) (answer answer' : Option Mock),
      first.registers? = some key → second.registers? = some other → key ≠ other →
      (first.perform catalog.mockOf r a).result = .ok answer →
      (second.perform catalog.mockOf r b).result = .ok answer' →
      r.Commute catalog.mockOf first second) ∧
    (∀ w, World.Reachable catalog conduct w → ∀ (run : Runner E) (first second : Command)
      (key other : Key) (answer answer' : Reply),
      first.registers? = some key → second.registers? = some other → key ≠ other →
      (w.perform catalog run first).1 = .ok answer →
      (w.perform catalog run second).1 = .ok answer' →
      (∀ a b next, EitherOrder catalog run w first second a b next) ∧
        ∀ asked next, Chooses asked.type fun a b =>
          (w.registering catalog run first second a.index b.index next).2.2.fixture.registry.lookup
            asked) := by
  constructor
  · intro r hr first second key other a b answer answer' hkey hkey' hne hok hok'
    exact commute_of_registers hr.indexed hkey hkey' hne hok hok'
  · intro w hw run first second key other answer answer' hkey hkey' hne hok hok'
    exact eitherOrder_of_registers hw.registry.indexed hkey hkey' hne hok hok'

/-- Two doubles that also serve as audit trails: a real implementation in the place of the first drops this
alias, a double in the place of the second takes it over. In either order the new double is the audit
trail, and a service is built with it. A plain value in the place of the first drops the alias, too, and is
there in either order. -/
theorem registrations_commute_alias :
    let audit : TypeId := ⟨"AuditTrail"⟩
    let service : TypeId := ⟨"Service"⟩
    let catalog : Catalog Unit := ⟨fun _ => ⟨"MockLogger"⟩, fun _ => .null, fun _ =>
      [.ofFunction { name := "new", params := [.capability "audit" audit] } fun _ =>
        .ok .null]⟩
    let run : Runner Unit := idle
    let start : World Unit := { surroundings := () }
    let w := start.performAll catalog run
      [.combine ⟨"Logger"⟩ audit, .combine ⟨"Recorder"⟩ audit]
    let dropping : Command := .useInstance ⟨"Logger"⟩ ⟨7⟩
    let valuing : Command := .useValue ⟨"Logger"⟩ (.int 3)
    let moving : Command := .addCustomMock ⟨"Recorder"⟩ none
    let once := (w.registering catalog run dropping moving 2 3 4).2.2
    let other := (w.registering catalog run moving dropping 3 2 4).2.2
    let valued := (w.registering catalog run valuing moving 2 3 4).2.2
    let valued' := (w.registering catalog run moving valuing 3 2 4).2.2
    w.fixture.registry.object? audit = some ⟨0⟩ ∧
      w.fixture.registry.Commute catalog.mockOf (.useInstance ⟨"Logger"⟩ ⟨7⟩)
        (.addCustomMock ⟨"Recorder"⟩ none) ∧
      EitherOrder catalog run w dropping moving 2 3 4 ∧
      once.fixture.registry.object? audit = some ⟨3⟩ ∧
      other.fixture.registry.object? audit = some ⟨3⟩ ∧
      ((once.create catalog run service none none).2.fixture.history.constructions.flatMap
        Construction.injections).map (Injection.object? · audit) = [some ⟨3⟩] ∧
      Agree Interchangeable (once.create catalog run service none none)
        (other.create catalog run service none none) ∧
      (∃ b next, w.performAll catalog run [dropping, moving] =
        (w.registering catalog run dropping moving w.allocated b next).2.2) ∧
      w.fixture.registry.Commute catalog.mockOf (.useValue ⟨"Logger"⟩ (.int 3))
        (.addCustomMock ⟨"Recorder"⟩ none) ∧
      EitherOrder catalog run w valuing moving 2 3 4 ∧
      valued.fixture.registry.value? ⟨"Logger"⟩ = some (.int 3) ∧
      valued'.fixture.registry.value? ⟨"Logger"⟩ = some (.int 3) := by
  intro audit service catalog run start w dropping valuing moving once other valued valued'
  have hstart : Reachable catalog {} start := Fresh.reachable ⟨⟨{}, rfl⟩, trivial⟩
  have hw : Reachable catalog {} w :=
    hstart.performAll (scripted_idle catalog fun _ _ => trivial)
      (fun _ _ _ => trivial) fun _ _ _ => trivial
  have hne : Key.of ⟨"Logger"⟩ ≠ ⟨⟨"Recorder"⟩, none⟩ := by decide
  have hfree : FactoryFree catalog service w.fixture := ⟨by rfl, fun _ _ _ _ => by rfl⟩
  obtain ⟨hbare, hworlds⟩ := registrations_commute catalog {}
  have hmoving (w : World Unit) : (w.perform catalog run moving).1 =
      .ok (.mock ⟨⟨⟨"Recorder"⟩, none⟩, ⟨w.allocated⟩, ⟨w.allocated⟩⟩) := by
    simp [moving, perform, addCustomMock, register, onRegistry, allocate, Registry.addCustomMock,
      capabilityKey, Except.map, Key.of]
  have hvalue (r : Registry) (fresh : Ref) : (Operation.perform catalog.mockOf r fresh
      (.useValue ⟨"Logger"⟩ (.int 3))).result = .ok none := rfl
  have hreal (r : Registry) (fresh : Ref) : (Operation.perform catalog.mockOf r fresh
      (.useInstance ⟨"Logger"⟩ ⟨7⟩)).result = .ok none := rfl
  have hdouble (r : Registry) (fresh : Ref) : (Operation.perform catalog.mockOf r fresh
      (.addCustomMock ⟨"Recorder"⟩ none)).result =
        .ok (some ⟨⟨⟨"Recorder"⟩, none⟩, fresh, fresh⟩) := by
    simp [Operation.perform, Registry.addCustomMock, Outcome.map, capabilityKey, Except.map, Key.of]
  obtain ⟨horder, -⟩ := hworlds w hw run dropping moving _ _ _ _ rfl rfl hne rfl (hmoving w)
  have hsame : Interchangeable once other := (horder 2 3 4).worlds
  have hcreated : Agree Interchangeable (once.create catalog run service none none)
      (other.create catalog run service none none) :=
    (horder 2 3 4).created service hfree none none
  have hfound : once.fixture.registry.object? audit = some ⟨3⟩ := by decide +kernel
  have hbuilt : ((once.create catalog run service none none).2.fixture.history.constructions.flatMap
      Construction.injections).map (Injection.object? · audit) = [some ⟨3⟩] := by decide +kernel
  have hbefore : w.fixture.registry.object? audit = some ⟨0⟩ := by decide +kernel
  obtain ⟨hvalues, -⟩ := hworlds w hw run valuing moving _ _ _ _ rfl rfl hne rfl (hmoving w)
  have hindexed (w : World Unit) (h : w.fixture.registry.Indexed) :
      (w.perform catalog run moving).2.fixture.registry.Indexed := by
    simp only [moving, perform, addCustomMock, register, onRegistry, allocate, Registry.addCustomMock,
      capabilityKey, Except.map, mapFixture, emit, Fixture.registry_configured]
    exact indexed_insert h _
  have hvaluing (w : World Unit) (h : w.fixture.registry.Indexed) (a b next : Nat) :
      (w.registering catalog run moving valuing a b next).2.2.fixture.registry.value? ⟨"Logger"⟩ =
        some (.int 3) := by
    have hregistry (w : World Unit) : (w.perform catalog run valuing).2.fixture.registry =
        (w.fixture.registry.useValue catalog.mockOf ⟨"Logger"⟩ (.int 3)).1 :=
      Fixture.registry_configured _
    simp only [registering, hregistry]
    exact congrArg (·.bind fun found => found.1.value? ⟨"Logger"⟩)
      (lookup_insert (hindexed { w with allocated := a } h)
        (.ofValue (.of ⟨"Logger"⟩) (.value ⟨"Logger"⟩ (.int 3))))
  have hheld : valued'.fixture.registry.value? ⟨"Logger"⟩ = some (.int 3) :=
    hvaluing w hw.registry.indexed 3 2 4
  refine ⟨hbefore, ?_, horder 2 3 4, hfound, ?_, hbuilt, hcreated,
    performAll_pair catalog run dropping moving w, ?_, hvalues 2 3 4, ?_, hheld⟩
  · exact hbare w.fixture.registry hw.registry _ _ _ _ ⟨2⟩ ⟨3⟩ _ _ rfl rfl hne (hreal _ _)
      (hdouble _ _)
  · rw [← hfound]
    exact congrArg (·.bind fun found => found.1.object? audit)
      (hsame.registry.lookup (.of audit)).symm
  · exact hbare w.fixture.registry hw.registry _ _ _ _ ⟨2⟩ ⟨3⟩ _ _ rfl rfl hne (hvalue _ _)
      (hdouble _ _)
  · rw [← hheld]
    exact congrArg (·.bind fun found => found.1.value? ⟨"Logger"⟩)
      ((hvalues 2 3 4).worlds.registry.lookup (.of ⟨"Logger"⟩))

end World

end TestDoubles
