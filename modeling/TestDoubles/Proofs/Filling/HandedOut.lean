import TestDoubles.Proofs.Filling.Idle
import TestDoubles.Proofs.Registry.Operations
import TestDoubles.Proofs.Run.Sound

/-!
# What was injected is handed out

A test configures and inspects the doubles that a fixture hands out, and means those that the instance
under test has received. Here it is shown that they are the same, from the construction on and for as
long as the test registers nothing in their place.

- `Conduct.Matches` is what the types of doubles demand of a test that combines capabilities, and
  `World.Matched` the invariant that follows.
- `World.Spares` holds of the commands that register nothing in place of the entry for a key.
- `World.HandsOut` says what a fixture answers for the key of a parameter, and
  `World.injected_is_handed_out` that it does.
-/

namespace TestDoubles

variable {E : Type}

/-- Only capabilities that the same type of double stands in for are combined. -/
def Conduct.Matches (mockOf : TypeId → TypeId) (conduct : Conduct E) : Prop :=
  ∀ s capability other, conduct.admits s (.combine capability other) →
    mockOf other = mockOf capability

/-- The key under which a command registers something, if it does. -/
def Command.registers? : Command → Option Key
  | .addCustomMock capability name => some ⟨capability, name⟩
  | .useInstance capability _ => some (.of capability)
  | .useValue type _ => some (.of type)
  | _ => none

/-! ## Single operations -/

namespace Command.Operates

open Registry

variable {mockOf : TypeId → TypeId} {command : Command} {r : Registry} {next allocated : Nat}
  {change : Registry × List Event}

/-- Operations keep to one type of double for each entry. -/
theorem uniform (h : command.Operates mockOf r next allocated change)
    (hmatches : ∀ capability other, command = .combine capability other →
      mockOf other = mockOf capability)
    (huniform : r.Uniform mockOf) : change.1.Uniform mockOf := by
  cases h with
  | getMock capability name => exact huniform.perform (.getOrCreateMock capability name) trivial ⟨next⟩
  | getObject capability => exact huniform.perform (.getOrCreateMock capability none) trivial ⟨next⟩
  | addCustomMock capability name =>
    exact huniform.perform (.addCustomMock capability name) trivial ⟨next⟩
  | useInstance capability ref => exact huniform.perform (.useInstance capability ref) trivial ⟨next⟩
  | useValue type datum => exact huniform.perform (.useValue type datum) trivial ⟨next⟩
  | combine capability other =>
    exact huniform.perform (.combine capability other) (hmatches _ _ rfl) ⟨next⟩

/-- Operations leave the entry for a key in its place, unless they register something there. -/
theorem serves (h : command.Operates mockOf r next allocated change) (hindexed : r.Indexed)
    {key : Key} {entry : Entry} (hserves : r.Serves key entry)
    (hregisters : ∀ other, command.registers? = some other → other ≠ key ∧ other ≠ entry.key)
    (hcombines : ∀ capability other, command = .combine capability other → .of other = key →
      r.position? (.of capability) = r.position? key) : change.1.Serves key entry := by
  cases h with
  | getMock capability name => exact hserves.requested hindexed (requested mockOf hindexed _ _ _)
  | getObject capability => exact hserves.requested hindexed (requested mockOf hindexed _ _ _)
  | addCustomMock capability name =>
    obtain ⟨hkey, hserver⟩ := hregisters _ rfl
    rcases addCustomMock_cases mockOf r ⟨next⟩ capability name with ⟨-, heq⟩ | ⟨-, -, hregistry⟩
    · show Serves (r.addCustomMock mockOf ⟨next⟩ capability name).registry key entry
      rw [heq]
      exact hserves
    · show Serves (r.addCustomMock mockOf ⟨next⟩ capability name).registry key entry
      rw [hregistry]
      exact hserves.insert hindexed hkey hserver
  | useInstance capability ref =>
    obtain ⟨hkey, hserver⟩ := hregisters _ rfl
    exact hserves.insert hindexed hkey hserver
  | useValue type datum =>
    obtain ⟨hkey, hserver⟩ := hregisters _ rfl
    exact hserves.insert hindexed hkey hserver
  | combine capability other =>
    exact hserves.combined hindexed (combined mockOf hindexed _ _ _) (hcombines _ _ rfl)

end Command.Operates

namespace World

open Registry

/-! ## Combining what matches -/

section Matching

variable {catalog : Catalog E} {conduct : Conduct E}

/-- **Runs that combine what matches keep registries uniform.** -/
theorem kept_uniform (hmatches : conduct.Matches catalog.mockOf) :
    Kept catalog conduct fun w w' =>
      w.fixture.registry.Uniform catalog.mockOf → w'.fixture.registry.Uniform catalog.mockOf where
  refl _ h := h
  trans h₁ h₂ h := h₂ (h₁ h)
  reports hpasses _ h := by rwa [hpasses.fixture]
  outside hpasses _ h := by rwa [hpasses.fixture]
  answered _ _ _ hperformed _ h := hperformed h
  operated hadmits hoperates h :=
    hoperates.uniform (fun _ _ hcommand => hmatches _ _ _ (hcommand ▸ hadmits)) h
  rewritten _ _ h := h
  configured _ h := h
  reset _ _ := uniform_empty catalog.mockOf
  bracket henter hdone h := by
    obtain ⟨-, rfl⟩ := enter_eq_ok_iff.mp henter
    exact hdone h
  failed hcalled hdone _ h := by
    obtain ⟨-, rfl⟩ := enter_eq_ok_iff.mp hcalled.enters
    exact hdone h
  unshared hcalled _ hdone _ h := by
    obtain ⟨-, rfl⟩ := enter_eq_ok_iff.mp hcalled.enters
    exact hdone h
  shared hcalled _ hdone _ h := by
    obtain ⟨-, rfl⟩ := enter_eq_ok_iff.mp hcalled.enters
    have hended := hdone h
    exact hended.insert (uniform_of_handle_eq_none rfl rfl)
  mocked _ h := (requested catalog.mockOf h.indexed _ _ _).uniform h
  unbuilt _ _ h := h
  recorded _ _ hfilled _ h := hfilled h
  frozen w key h := by
    show Uniform catalog.mockOf (w.fixture.freeze key).registry
    rwa [Fixture.registry_freeze]
  built _ h := h

theorem Reachable.uniform (hmatches : conduct.Matches catalog.mockOf) {w : World E}
    (hw : Reachable catalog conduct w) : w.fixture.registry.Uniform catalog.mockOf := by
  refine (kept_uniform hmatches).reachable ?_ ?_ hw
  · intro w w' key henter h
    obtain ⟨-, rfl⟩ := enter_eq_ok_iff.mp henter
    exact h
  · intro start hfresh
    obtain ⟨⟨options, hoptions⟩, -⟩ := hfresh
    rw [hoptions]
    exact uniform_empty catalog.mockOf

/-- What a fixture stores is of its type, and each of its entries has one type of double. -/
structure Matched (catalog : Catalog E) (w : World E) : Prop where
  sound : Sound catalog w
  uniform : w.fixture.registry.Uniform catalog.mockOf

theorem Matched.of_eq {w w' : World E} (h : Matched catalog w)
    (hallocated : w'.allocated = w.allocated) (hfixture : w'.fixture = w.fixture) :
    Matched catalog w' := by
  obtain ⟨hsound, huniform⟩ := h
  refine ⟨hsound.of_eq (Nat.le_of_eq hallocated.symm) ?_ ?_ ?_, hfixture ▸ huniform⟩
  · rw [hfixture]
  · rw [hfixture]
  · rw [hfixture]

theorem Matched.enter {w w' : World E} (h : Matched catalog w) {key : Key}
    (henter : w.enter key = .ok w') : Matched catalog w' := by
  refine ⟨h.sound.enter henter, ?_⟩
  obtain ⟨-, rfl⟩ := enter_eq_ok_iff.mp henter
  exact h.uniform

/-- Without factories, filling a parameter combines nothing. -/
theorem Matched.resolveArgument {w : World E} (h : Matched catalog w) {target : TypeId}
    {constructor : Constructor E} {param : Param}
    (hconstructor : constructor ∈ catalog.constructors target)
    (hparam : param ∈ constructor.params) (explicit : Arguments) (used : List Bool) :
    Matched catalog (w.resolveArgument catalog idle target explicit param used).2 := by
  have hmatches : (Conduct.idle (E := E)).Matches catalog.mockOf := fun _ _ _ h => h.elim
  have hended {P : World E → Prop} : Ends Conduct.idle (fun w w' => P w → P w') idle :=
    ends_idle fun _ h => h
  have hsound := (Sound.kept catalog Conduct.idle).within.resolveArgument hconstructor hparam
    explicit used w fun _ _ id started _ => hended id started
  have huniform := (kept_uniform hmatches).within.resolveArgument hconstructor hparam explicit used w
    fun _ _ id started _ => @hended (fun w => w.fixture.registry.Uniform catalog.mockOf) id started
  exact ⟨hsound h.sound, huniform h.uniform⟩

end Matching

/-! ## Filling parameters -/

/-- Whatever entry answers for a key goes on to answer. -/
def Persists (w w' : World E) : Prop :=
  w.fixture.registry.Indexed → w'.fixture.registry.Indexed ∧ ∀ key entry,
    w.fixture.registry.Serves key entry → w'.fixture.registry.Serves key entry

theorem Persists.of_eq {w w' : World E} (h : w'.fixture.registry = w.fixture.registry) :
    Persists w w' :=
  fun hindexed => ⟨h ▸ hindexed, fun _ _ hserves => h ▸ hserves⟩

theorem Persists.trans {w w' w'' : World E} (h : Persists w w') (h' : Persists w' w'') :
    Persists w w'' := by
  intro hindexed
  obtain ⟨hindexed', hserves⟩ := h hindexed
  obtain ⟨hindexed'', hserves'⟩ := h' hindexed'
  exact ⟨hindexed'', fun key entry hentry => hserves' key entry (hserves key entry hentry)⟩

theorem Persists.bracket {w entered w' : World E} {key : Key} (henter : w.enter key = .ok entered)
    (h : Persists entered w') : Persists w w'.leave := by
  obtain ⟨-, rfl⟩ := enter_eq_ok_iff.mp henter
  exact h

/-- Building instances without factories displaces nothing. -/
theorem kept_persists (catalog : Catalog E) : Kept catalog Conduct.idle (Persists (E := E)) where
  refl _ := .of_eq rfl
  trans := Persists.trans
  reports hpasses _ := .of_eq (by rw [hpasses.fixture])
  outside hpasses _ := .of_eq (by rw [hpasses.fixture])
  answered _ hadmits _ _ _ := hadmits.elim
  operated hadmits _ := hadmits.elim
  rewritten hadmits _ := hadmits.elim
  configured _ := .of_eq rfl
  reset hadmits := hadmits.elim
  bracket := Persists.bracket
  failed hcalled hdone _ := .bracket hcalled.enters hdone
  unshared _ _ _ hnote := absurd rfl (hnote _ _)
  shared _ _ _ hnote := absurd rfl (hnote _ _)
  mocked {w key} _ hindexed := by
    have hrequested := requested catalog.mockOf hindexed ⟨w.allocated⟩ key.type key.name
    exact ⟨hrequested.indexed hindexed, fun _ _ hserves => hserves.requested hindexed hrequested⟩
  unbuilt _ _ := .of_eq rfl
  recorded _ _ hfilled _ := hfilled
  frozen w key := .of_eq (Fixture.registry_freeze w.fixture key)
  built _ := .of_eq rfl

section Filling

variable {catalog : Catalog E} {target : TypeId} {explicit : Arguments} {w w' : World E}

/-- What a parameter receives from the registry is backed by it. -/
theorem Resolved.backs {param : Param} {used used' : List Bool} {injection : Injection}
    (hmatched : Matched catalog w) (hmatched' : Matched catalog w')
    (h : Resolved catalog idle target explicit param used w (.ok (injection, used'), w'))
    {origin : Origin} (hsource : injection.source = .ofOrigin origin) :
    w'.fixture.registry.Backs catalog.mockOf injection := by
  cases h with
  | explicit _ => cases origin <;> cases hsource
  | @provided source value _ _ hprovided =>
    cases hprovided with
    | registered hlookup =>
      exact .of_lookup hmatched.sound.registry.coherent hmatched.uniform rfl hlookup
    | made _ _ => cases origin <;> cases hsource
    | fellBack hlookup _ hfellBack =>
      cases hfellBack with
      | mocked _ hcreate =>
        obtain ⟨hok, rfl⟩ := Prod.mk.inj hcreate
        have hsource' : Source.autoMock = .ofOrigin .autoMock := rfl
        apply Backs.of_lookup hmatched'.sound.registry.coherent hmatched'.uniform hsource'
        exact lookup_getOrCreateMock hmatched.uniform.indexed hlookup hok
      | defaultValue _ _ => cases origin <;> cases hsource
      | constructed _ => cases origin <;> cases hsource

/-- **What parameters receive from the registry is backed by it when all are filled**; by induction
on the parameters: what the first one received is displaced by none of the others. -/
theorem backs_resolveParams {constructor : Constructor E}
    (hconstructor : constructor ∈ catalog.constructors target) {params : List Param}
    (hparams : params ⊆ constructor.params) {used used' : List Bool} {injections : List Injection}
    (hmatched : Matched catalog w)
    (h : w.resolveParams catalog idle target explicit params used = (.ok (injections, used'), w')) :
    ∀ injection ∈ injections, ∀ origin, injection.source = .ofOrigin origin →
      w'.fixture.registry.Backs catalog.mockOf injection := by
  induction params generalizing used w injections with
  | nil =>
    obtain ⟨hok, -⟩ := Prod.mk.inj h
    obtain ⟨rfl, -⟩ := Prod.mk.inj (Except.ok.inj hok)
    exact fun _ hmem => nomatch hmem
  | cons param params ih =>
    obtain ⟨hparam, hrest⟩ := List.cons_subset.mp hparams
    obtain ⟨injection, used₁, w₁, later, hfirst, hlater, rfl⟩ := resolveParams_cons_eq_ok h
    have hresolved := resolved catalog idle target explicit param used w
    have hmatched₁ := hmatched.resolveArgument hconstructor hparam explicit used
    rw [hfirst] at hresolved hmatched₁
    have hended : Ends Conduct.idle Persists (idle (E := E)) := ends_idle fun _ => .of_eq rfl
    have hpersists := (kept_persists catalog).within.resolveParams hconstructor explicit hrest used₁
      (w₁.emit [.resolvedArgument injection.parameter injection.source])
      fun id started _ => hended id started
    rw [hlater] at hpersists
    have hreported : Matched catalog
        (w₁.emit [.resolvedArgument injection.parameter injection.source]) :=
      hmatched₁.of_eq rfl rfl
    intro other hother origin hsource
    rcases List.mem_cons.mp hother with rfl | hmem
    · have hbacks := hresolved.backs hmatched hmatched₁ hsource
      exact hbacks.serves (hpersists hmatched₁.uniform.indexed).2
    · exact ih hrest hreported hlater other hmem origin hsource

/-- The same for everything that a constructor received, when it has built an instance. -/
theorem Built.backs {signature : Option Signature} {construction : Construction} {datum : Datum}
    (hmatched : Matched catalog w)
    (h : Built catalog idle target signature explicit w (.ok (construction, datum), w')) :
    ∀ injection ∈ construction.injections, ∀ origin, injection.source = .ofOrigin origin →
      w'.fixture.registry.Backs catalog.mockOf injection := by
  cases h with
  | @built constructor _ events _ injections used filled s hselect hparams _ =>
    have hselected : Matched catalog (w.afterSelection events constructor) :=
      hmatched.of_eq rfl rfl
    have hbacks := backs_resolveParams (Fixture.mem_of_select hselect) (List.Subset.refl _) hselected
      hparams
    exact hbacks

end Filling

/-! ## Afterwards -/

/-- A command that leaves the entry for a key alone: no factory runs for it and nothing is torn down,
nothing is registered under the key or in the place of the entry, and no other double is combined with
the key. -/
structure Spares (catalog : Catalog E) (run : Runner E) (key : Key) (w : World E)
    (command : Command) : Prop where
  starts : ∀ id started, ¬Starts catalog run command w id started
  reset : command ≠ .reset
  registers : ∀ other, command.registers? = some other → other ≠ key ∧
    ∀ entry, w.fixture.registry.entry? key = some entry → other ≠ entry.key
  combines : ∀ capability other, command = .combine capability other → .of other = key →
    w.fixture.registry.position? (.of capability) = w.fixture.registry.position? key

/-- One step of a test that leaves the entry for a key alone. -/
inductive SparingStep (catalog : Catalog E) (key : Key) : World E → World E → Prop where
  | perform {run : Runner E} {w : World E} {command : Command}
      (h : Spares catalog run key w command) :
      SparingStep catalog key w (w.perform catalog run command).2
  -- Something happens in the surroundings.
  | outside {w w' : World E} (h : w.Passes w') : SparingStep catalog key w w'

section Sparing

variable {catalog : Catalog E} {run : Runner E} {w w' : World E} {command : Command} {key : Key}
  {entry : Entry}

/-- **A command that spares the entry for a key leaves it in its place.** -/
theorem Spares.serves (h : Spares catalog run key w command) (hindexed : w.fixture.registry.Indexed)
    (hserves : w.fixture.registry.Serves key entry) :
    (w.perform catalog run command).2.fixture.registry.Indexed ∧
      (w.perform catalog run command).2.fixture.registry.Serves key entry := by
  have hends : Ends Conduct.idle Persists (idle (E := E)) := ends_idle fun _ => .of_eq rfl
  by_cases hdirect : command.isDirect
  · rcases registry_perform catalog run hdirect h.reset w with heq | ⟨_, change, hoperates, heq⟩
    · rw [heq]
      exact ⟨hindexed, hserves⟩
    · rw [heq]
      refine ⟨(hoperates.step.extends hindexed).indexed,
        hoperates.serves hindexed hserves (fun other hother => ?_) h.combines⟩
      obtain ⟨later, hentry⟩ := hserves.entry?_eq
      obtain ⟨hkey, hserver⟩ := h.registers other hother
      have hown := hserver _ hentry
      exact ⟨hkey, hown⟩
  · -- Factories are not started, so they might as well fail.
    have hpersists : Persists w (w.perform catalog run command).2 := by
      rw [perform_idle h.starts]
      cases command with
      | create type arguments => exact (kept_persists catalog).create hends type none arguments w
      | createBySignature type signature =>
        exact (kept_persists catalog).create hends type (some signature) none w
      | resolve type signature explicit =>
        exact (kept_persists catalog).resolve hends (built catalog idle type signature explicit w)
      | _ => exact absurd rfl hdirect
    obtain ⟨hindexed', hpersists⟩ := hpersists hindexed
    exact ⟨hindexed', hpersists key entry hserves⟩

/-- What was injected stays backed; by induction on the steps. -/
theorem backs_of_sparing {injection : Injection} (hindexed : w.fixture.registry.Indexed)
    (h : w.fixture.registry.Backs catalog.mockOf injection)
    (hsteps : Relation.ReflTransGen (SparingStep catalog injection.key) w w') :
    w'.fixture.registry.Backs catalog.mockOf injection := by
  obtain ⟨entry, hcoherent, huniform, hserves, hprovided⟩ := h
  suffices hdone : w'.fixture.registry.Indexed ∧
      w'.fixture.registry.Serves injection.key entry from
    ⟨entry, hcoherent, huniform, hdone.2, hprovided⟩
  induction hsteps with
  | refl => exact ⟨hindexed, hserves⟩
  | tail _ hstep ih =>
    cases hstep with
    | perform hspares => exact hspares.serves ih.1 ih.2
    | outside hpasses =>
      rw [hpasses.fixture]
      exact ih

end Sparing

/-- What a fixture answers for the key of a parameter, if what was injected came from an entry: the
object that was injected, and the double with this object, or that there is none. -/
structure HandsOut (catalog : Catalog E) (injection : Injection) (w : World E) : Prop where
  object : injection.source = .autoMock ∨ injection.source = .customMock ∨ injection.source = .real →
    ∃ object, injection.value = .object injection.key.type object ∧
      w.fixture.registry.object? injection.key.type injection.key.name = some object
  double : injection.source = .autoMock ∨ injection.source = .customMock →
    ∃ mock, (w.getMock catalog.mockOf injection.key.type injection.key.name).1 = .ok mock ∧
      injection.value = .object injection.key.type mock.object
  real : injection.source = .real →
    (w.getMock catalog.mockOf injection.key.type injection.key.name).1 =
      .error (.invalidArgument (.notAMock injection.key .real))

/-- The answer to requesting a double is that of the registry. -/
theorem getMock_fst (catalog : Catalog E) (w : World E) (capability : TypeId)
    (name : Option String) : (w.getMock catalog.mockOf capability name).1 =
      (w.fixture.registry.getOrCreateMock catalog.mockOf ⟨w.allocated⟩ capability name).result := by
  have honRegistry : (w.onRegistry fun r fresh =>
      r.getOrCreateMock catalog.mockOf fresh capability name).1 = (w.fixture.registry.getOrCreateMock
        catalog.mockOf ⟨w.allocated⟩ capability name).result := rfl
  unfold getMock register
  split
  next h => rwa [h] at honRegistry
  next h => rwa [h] at honRegistry

/-- What is backed by an entry is handed out. -/
theorem handsOut_of_backs {catalog : Catalog E} {injection : Injection} {w : World E}
    (h : ∀ origin, injection.source = .ofOrigin origin →
      w.fixture.registry.Backs catalog.mockOf injection) : HandsOut catalog injection w := by
  have hfound (origin : Origin) (hsource : injection.source = .ofOrigin origin) {object : Ref}
      (hvalue : injection.value = .object injection.key.type object) :
      w.fixture.registry.object? injection.key.type injection.key.name = some object := by
    obtain ⟨_, -, hlookup⟩ := (h origin hsource).lookup_eq
    unfold Registry.object?
    rw [show (⟨injection.key.type, injection.key.name⟩ : Key) = injection.key from rfl, hlookup]
    simp [hvalue]
  have hdouble (hsource : injection.source = .autoMock ∨ injection.source = .customMock) :
      ∃ ref, injection.value = .object injection.key.type ref ∧
        (w.getMock catalog.mockOf injection.key.type injection.key.name).1 =
          .ok ⟨injection.key, ref, ref⟩ := by
    have hbacks : w.fixture.registry.Backs catalog.mockOf injection := by
      rcases hsource with hauto | hcustom
      · exact h .autoMock hauto
      · exact h .customMock hcustom
    obtain ⟨ref, hvalue, hrequest⟩ := hbacks.doubled hsource
    exact ⟨ref, hvalue, by rw [getMock_fst, hrequest]⟩
  constructor
  · rintro (hauto | hcustom | hreal)
    · obtain ⟨ref, hvalue, -⟩ := hdouble (.inl hauto)
      exact ⟨ref, hvalue, hfound .autoMock hauto hvalue⟩
    · obtain ⟨ref, hvalue, -⟩ := hdouble (.inr hcustom)
      exact ⟨ref, hvalue, hfound .customMock hcustom hvalue⟩
    · obtain ⟨ref, hvalue, -⟩ := (h .real hreal).plain hreal
      exact ⟨ref, hvalue, hfound .real hreal hvalue⟩
  · intro hsource
    obtain ⟨ref, hvalue, hrequest⟩ := hdouble hsource
    exact ⟨⟨injection.key, ref, ref⟩, hrequest, hvalue⟩
  · intro hreal
    obtain ⟨-, -, hrequest⟩ := (h .real hreal).plain hreal
    rw [getMock_fst, hrequest]

/-- **What was injected is handed out.** When a constructor has built an instance without factories,
in a world that came of combining what matches, then for every parameter that was filled from the
registry the fixture hands out the object that was injected, together with its double if it is one;
and it goes on to do so, whatever the test asks for and registers elsewhere. -/
theorem injected_is_handed_out {catalog : Catalog E} {conduct : Conduct E}
    (hmatches : conduct.Matches catalog.mockOf) {w : World E} (hw : Reachable catalog conduct w)
    {target : TypeId} (hfree : FactoryFree catalog target w.fixture) (run : Runner E) :
    (∀ signature explicit construction datum w',
      w.resolve catalog run target signature explicit = (.ok (construction, datum), w') →
      ∀ injection ∈ construction.injections, ∀ later,
        Relation.ReflTransGen (SparingStep catalog injection.key) w' later →
        HandsOut catalog injection later) ∧
    (∀ signature arguments datum w',
      w.create catalog run target signature arguments = (.ok datum, w') →
      ∃ construction, w'.fixture.history = w.fixture.history.record (.of target) construction ∧
        ∀ injection ∈ construction.injections, ∀ later,
          Relation.ReflTransGen (SparingStep catalog injection.key) w' later →
          HandsOut catalog injection later) := by
  have hmatched : Matched catalog w := ⟨hw.sound, hw.uniform hmatches⟩
  -- Backed when the instance has been built, and so backed later.
  have hlater {w' : World E} (hindexed : w'.fixture.registry.Indexed) {construction : Construction}
      (hbacks : ∀ injection ∈ construction.injections, ∀ origin,
        injection.source = .ofOrigin origin →
          w'.fixture.registry.Backs catalog.mockOf injection) :
      ∀ injection ∈ construction.injections, ∀ later,
        Relation.ReflTransGen (SparingStep catalog injection.key) w' later →
        HandsOut catalog injection later := by
    intro injection hinjection later hsteps
    apply handsOut_of_backs
    intro origin hsource
    exact backs_of_sparing hindexed (hbacks injection hinjection origin hsource) hsteps
  constructor
  · intro signature explicit construction datum w' hresolve
    rw [resolve_congr fun id started hstarts => absurd hstarts hfree.not_resolveStarts] at hresolve
    have hbuilt := built catalog idle target signature explicit w
    rw [hresolve] at hbuilt
    have hpersists := (kept_persists catalog).resolve (ends_idle fun _ => .of_eq rfl) hbuilt
    exact hlater (hpersists hmatched.uniform.indexed).1 (hbuilt.backs hmatched)
  · intro signature arguments datum w' hcreate
    rw [create_congr fun id started hstarts => absurd hstarts hfree.not_createStarts] at hcreate
    have hcreated := created catalog idle target signature arguments w
    rw [hcreate] at hcreated
    have hpersists := (kept_persists catalog).create (ends_idle fun _ => .of_eq rfl) target signature
      arguments w
    rw [hcreate] at hpersists
    obtain ⟨entered, construction, done, henter, hbuilt, rfl⟩ :=
      hcreated.exists_built catalog idle hfree.own
    have hbacks := hbuilt.backs (hmatched.enter henter)
    obtain ⟨-, rfl⟩ := enter_eq_ok_iff.mp henter
    have hfree' : FactoryFree catalog target (w.mapFixture fun f =>
        { f with inProgress := f.inProgress ++ [.of target] }).fixture := ⟨hfree.own, hfree.params⟩
    have heffect := effect_resolve (by exact hmatched.uniform.indexed) hfree' hbuilt
    refine ⟨construction, (history_created done (.of target)).trans heffect.recorded, ?_⟩
    apply hlater (hpersists hmatched.uniform.indexed).1
    rw [registry_created]
    exact hbacks

/-- A logger that serves as an audit trail, a double supplied by the test under a name, a real clock and
a double created on demand; when they have been injected, the test supplies a double for the last. -/
theorem injected_is_handed_out_combined :
    let logger : TypeId := ⟨"Logger"⟩
    let audit : TypeId := ⟨"AuditTrail"⟩
    let store : TypeId := ⟨"Store"⟩
    let clock : TypeId := ⟨"Clock"⟩
    let service : TypeId := ⟨"Service"⟩
    let params : List Param :=
      [.capability "audit" audit, .capability "backup" store (some "backup"),
        .capability "clock" clock, .capability "store" store]
    let catalog : Catalog Unit :=
      ⟨fun type => if type = audit then ⟨"MockLogger"⟩ else ⟨"Mock" ++ type.path⟩, fun _ => .null,
        fun _ => [.ofFunction { name := "new", params := params } fun _ => .ok .null]⟩
    let conduct : Conduct Unit :=
      { admits := fun _ command => ∀ capability other, command = .combine capability other →
          catalog.mockOf other = catalog.mockOf capability }
    let start : World Unit := { allocated := 1, surroundings := () }
    let ready := start.performAll catalog idle
      [.combine logger audit, .addCustomMock store (some "backup"), .useInstance clock ⟨0⟩]
    Reachable catalog conduct ready ∧
      (∃ construction datum resolved,
        ready.resolve catalog idle service none {} = (.ok (construction, datum), resolved) ∧
        construction.injections.map Injection.source = [.autoMock, .customMock, .real, .autoMock] ∧
        ∀ injection ∈ construction.injections, injection.key = .of audit →
          HandsOut catalog injection (resolved.perform catalog idle (.addCustomMock store none)).2) ∧
      ∃ construction datum done, ready.create catalog idle service none none = (.ok datum, done) ∧
        done.fixture.history = ready.fixture.history.record (.of service) construction ∧
        ∀ injection ∈ construction.injections, HandsOut catalog injection done := by
  intro logger audit store clock service params catalog conduct start ready
  have hmatches : conduct.Matches catalog.mockOf := fun _ capability other h => h _ _ rfl
  have hrun : Scripted catalog conduct idle := scripted_idle catalog fun _ _ => trivial
  have hready : Reachable catalog conduct ready := by
    refine (Fresh.reachable ⟨⟨{}, rfl⟩, trivial⟩).performAll hrun ?_ fun _ _ _ => trivial
    intro command hcommand s capability other hcombine
    simp only [List.mem_cons, List.not_mem_nil, or_false] at hcommand
    rcases hcommand with rfl | rfl | rfl
    · obtain ⟨rfl, rfl⟩ := Command.combine.inj hcombine
      decide
    · cases hcombine
    · cases hcombine
  have hfree : FactoryFree catalog service ready.fixture := ⟨rfl, fun _ _ _ _ => rfl⟩
  obtain ⟨hresolve, hcreate⟩ := injected_is_handed_out hmatches hready hfree idle
  refine ⟨hready, ?_, ?_⟩
  · have hsources : (ready.resolve catalog idle service none {}).1.toOption.map
        (fun answer => answer.1.injections.map Injection.source) =
          some [.autoMock, .customMock, .real, .autoMock] := by decide +kernel
    have hserver : ((ready.resolve catalog idle service none {}).2.fixture.registry.entry?
        (.of audit)).map Entry.key = some (.of logger) := by decide +kernel
    rcases hanswer : ready.resolve catalog idle service none {} with
      ⟨e | ⟨construction, datum⟩, resolved⟩
    · rw [hanswer] at hsources
      cases hsources
    · rw [hanswer] at hsources hserver
      refine ⟨construction, datum, resolved, rfl, Option.some.inj hsources, ?_⟩
      intro injection hinjection haudit
      apply hresolve none {} construction datum resolved hanswer injection hinjection
      apply Relation.ReflTransGen.single
      have hstarts (id : FactoryId) (started : World Unit) :
          ¬Starts catalog idle (.addCustomMock store none) resolved id started :=
        not_starts (fun _ h => by cases h) id started
      refine .perform ⟨hstarts, nofun, ?_, nofun⟩
      intro other hother
      obtain rfl := Option.some.inj hother
      rw [haudit]
      refine ⟨by decide, fun entry hentry => ?_⟩
      rw [hentry] at hserver
      rw [Option.some.inj hserver]
      decide
  · have hok : (ready.create catalog idle service none none).1.isOk = true := by decide +kernel
    rcases hanswer : ready.create catalog idle service none none with ⟨e | datum, done⟩
    · rw [hanswer] at hok
      cases hok
    · obtain ⟨construction, hhistory, hhandsOut⟩ := hcreate none none datum done hanswer
      refine ⟨construction, datum, done, rfl, hhistory, ?_⟩
      exact fun injection hinjection => hhandsOut injection hinjection done .refl

end World

end TestDoubles
