import Mathlib.Data.List.Forall2
import TestDoubles.Proofs.Run.Registering
import TestDoubles.Proofs.Selection.Choice

/-!
# Filling parameters, step by step

Between the selection of a constructor and the call of its function the parameters are filled, and for
some of them factories run. A relation between worlds that the single steps on this way keep to is kept
all the way; `World.Within` lists the steps. What is known of a factory that runs on the way is a
parameter: it has to be known only of factories that are started there, in the worlds in which they are
started.

- `World.Within.resolveParams`: what the single steps keep to, filling parameters keeps to.
- `World.Within.unresolved` and `World.Within.resolved`: the same up to the end of a construction,
  which fails or is recorded.
- `World.Within.createStarts`: the worlds in which factories start are reached that way too.
-/

namespace TestDoubles

namespace World

variable {E : Type}

/-! ## Calls of factories -/

section Calls

variable (catalog : Catalog E)

/-- Why the factory of a recipe is run. -/
inductive Wanted (key : Key) (recipe : Recipe) (w : World E) : Prop where
  -- An instance is to be created, and there is no product to hand out.
  | created (hcached : w.cached? key recipe.sharedAs = none)
  -- A constructor has a parameter for which there is no entry.
  | param {target : TypeId} {constructor : Constructor E} {param : Param}
      (hconstructor : constructor ∈ catalog.constructors target)
      (hparam : param ∈ constructor.params) (hkey : param.key.unnamed = key)
      (hlookup : w.fixture.registry.lookup param.key = none)

/-- The factory of the recipe for `key` is called in `w`, and started in `entered`. -/
structure Called (key : Key) (recipe : Recipe) (factory : Factory) (w entered : World E) :
    Prop where
  find_recipe : w.fixture.recipes.find? key = some recipe
  has_factory : recipe.factory = some factory
  enters : w.enter key = .ok entered
  wanted : Wanted catalog key recipe w

end Calls

/-- The parameters were filled with the injections, each in some world that `R` leads to. -/
def Injected (catalog : Catalog E) (run : Runner E) (R : World E → World E → Prop)
    (start : World E) (target : TypeId) (explicit : Arguments) :
    List Param → List Injection → Prop :=
  List.Forall₂ fun param injection => ∃ used used' w w', R start w ∧
    Resolved catalog run target explicit param used w (.ok (injection, used'), w')

/-! ## Single steps -/

/-- A relation that the steps keep to by which a constructor is resolved, except that the construction
is not recorded yet. Of factories that run meanwhile `ran` is known. -/
structure Within (catalog : Catalog E)
    (ran : FactoryId → World E → Except Error Datum × World E → Prop)
    (R : World E → World E → Prop) : Prop where
  refl (w : World E) : R w w
  trans {w₁ w₂ w₃ : World E} : R w₁ w₂ → R w₂ w₃ → R w₁ w₃
  -- The library reports events or allocates objects.
  reports {w w' : World E} : w.Passes w' → w'.surroundings = w.surroundings → R w w'
  -- A factory ran and failed.
  failed {w entered ended : World E} {key : Key} {recipe : Recipe} {factory : Factory} {e : Error} :
    Called catalog key recipe factory w entered → ran factory.id entered (.error e, ended) →
    R w ended.leave
  -- A factory ran, and its product is handed out as it is.
  transient {w entered ended : World E} {key : Key} {recipe : Recipe} {factory : Factory}
      {datum : Datum} : Called catalog key recipe factory w entered →
    recipe.lifetime = .transient → ran factory.id entered (.ok datum, ended) →
    R w (ended.leave.mapFixture (Fixture.freeze · key))
  -- A factory ran, and its product is registered.
  singleton {w entered ended : World E} {key : Key} {recipe : Recipe} {factory : Factory}
      {datum : Datum} : Called catalog key recipe factory w entered →
    recipe.lifetime = .singleton → ran factory.id entered (.ok datum, ended) →
    R w ((ended.leave.insertValue catalog.mockOf key (.value factory.product datum)).mapFixture
      (Fixture.freeze · key))
  -- A double is created for a parameter for which there is no entry.
  mocked {w : World E} {key : Key} : w.fixture.registry.lookup key = none →
    R w (w.onRegistry fun r fresh => r.getOrCreateMock catalog.mockOf fresh key.type key.name).2
  -- The function of a constructor failed.
  unbuilt {w : World E} {target : TypeId} {constructor : Constructor E} {intake : Intake}
      {e : Error} {s : E} : constructor ∈ catalog.constructors target →
    constructor.build intake w.surroundings = (.error e, s) → R w (w.mapSurroundings fun _ => s)

/-! ## Events that commands report -/

theorem passes_emit {w : World E} {events : List Event}
    (h : ∀ event ∈ events, event.isTeardown = false) : w.Passes (w.emit events) :=
  ⟨rfl, Nat.le_refl _, events, rfl, h⟩

theorem isTeardown_of_select {f : Fixture} {target : TypeId} {candidates : List (Constructor E)}
    {signature : Option Signature} {explicit : Arguments}
    {choice : Except Error (Constructor E × Nat)} {events : List Event}
    (h : f.select target candidates signature explicit = (choice, events)) :
    ∀ event ∈ events, event.isTeardown = false := by
  cases signature with
  | some signature =>
    obtain ⟨-, rfl⟩ := Prod.mk.inj h
    simp
  | none =>
    obtain ⟨-, rfl⟩ := Prod.mk.inj h
    intro event hevent
    obtain ⟨c, -, hc⟩ := List.mem_filterMap.mp hevent
    obtain ⟨param, -, rfl⟩ := Option.map_eq_some_iff.mp hc
    rfl

theorem isTeardown_unusedWarning (constructor : Declaration) (used : List Bool) :
    ∀ event ∈ unusedWarning constructor used, event.isTeardown = false := by
  unfold unusedWarning
  dsimp only
  split <;> simp [Event.isTeardown]

namespace Within

variable {catalog : Catalog E} {ran : FactoryId → World E → Except Error Datum × World E → Prop}
  {R : World E → World E → Prop} {run : Runner E}

/-- Steps that keep to two relations keep to both. -/
theorem and {ran' : FactoryId → World E → Except Error Datum × World E → Prop}
    {R' : World E → World E → Prop} (hwithin : Within catalog ran R)
    (hwithin' : Within catalog ran' R') :
    Within catalog (fun id w result => ran id w result ∧ ran' id w result)
      (fun w w' => R w w' ∧ R' w w') where
  refl w := ⟨hwithin.refl w, hwithin'.refl w⟩
  trans h₁ h₂ := ⟨hwithin.trans h₁.1 h₂.1, hwithin'.trans h₁.2 h₂.2⟩
  reports hpasses hsame := ⟨hwithin.reports hpasses hsame, hwithin'.reports hpasses hsame⟩
  failed hcalled hran := ⟨hwithin.failed hcalled hran.1, hwithin'.failed hcalled hran.2⟩
  transient hcalled hlifetime hran :=
    ⟨hwithin.transient hcalled hlifetime hran.1, hwithin'.transient hcalled hlifetime hran.2⟩
  singleton hcalled hlifetime hran :=
    ⟨hwithin.singleton hcalled hlifetime hran.1, hwithin'.singleton hcalled hlifetime hran.2⟩
  mocked hlookup := ⟨hwithin.mocked hlookup, hwithin'.mocked hlookup⟩
  unbuilt hconstructor hbuild :=
    ⟨hwithin.unbuilt hconstructor hbuild, hwithin'.unbuilt hconstructor hbuild⟩

theorem emit (hwithin : Within catalog ran R) (w : World E) {events : List Event}
    (h : ∀ event ∈ events, event.isTeardown = false) : R w (w.emit events) :=
  hwithin.reports (passes_emit h) rfl

/-! ## From steps to parameters -/

theorem produced (hwithin : Within catalog ran R) {target : TypeId} {constructor : Constructor E}
    {param : Param} {w : World E} {result : Except Error (Option Stored) × World E}
    (hconstructor : constructor ∈ catalog.constructors target)
    (hparam : param ∈ constructor.params)
    (hlookup : w.fixture.registry.lookup param.key = none)
    (hran : ∀ id started, ProduceStarts param.key.unnamed w id started →
      ran id started (run id started))
    (h : Produced catalog run param.key.unnamed w result) : R w result.2 := by
  -- Whichever recipe it is, the parameter is why its factory runs.
  have hwanted (recipe : Recipe) : Wanted catalog param.key.unnamed recipe w :=
    .param hconstructor hparam rfl hlookup
  cases h with
  | noFactory _ => exact hwithin.refl w
  | cyclic _ _ _ => exact hwithin.refl w
  | failed hrecipe hfactory henter hrun =>
    have hended := hran _ _ ⟨hrecipe, hfactory, henter⟩
    rw [hrun] at hended
    exact hwithin.failed ⟨hrecipe, hfactory, henter, hwanted _⟩ hended
  | transient hrecipe hfactory hlifetime henter hrun =>
    have hended := hran _ _ ⟨hrecipe, hfactory, henter⟩
    rw [hrun] at hended
    exact hwithin.transient ⟨hrecipe, hfactory, henter, hwanted _⟩ hlifetime hended
  | singleton hrecipe hfactory hlifetime henter hrun =>
    have hended := hran _ _ ⟨hrecipe, hfactory, henter⟩
    rw [hrun] at hended
    exact hwithin.singleton ⟨hrecipe, hfactory, henter, hwanted _⟩ hlifetime hended

theorem provided (hwithin : Within catalog ran R) {target : TypeId} {constructor : Constructor E}
    {param : Param} {w : World E} {result : Except Error (Source × Stored) × World E}
    (hconstructor : constructor ∈ catalog.constructors target)
    (hparam : param ∈ constructor.params)
    (hran : w.fixture.registry.lookup param.key = none → ∀ id started,
      ProduceStarts param.key.unnamed w id started → ran id started (run id started))
    (h : Provided catalog run target param w result) : R w result.2 := by
  cases h with
  | registered _ => exact hwithin.refl w
  | failed hlookup h => exact hwithin.produced hconstructor hparam hlookup (hran hlookup) h
  | made hlookup h => exact hwithin.produced hconstructor hparam hlookup (hran hlookup) h
  | fellBack hlookup _ h =>
    have hmocked := hwithin.mocked hlookup
    cases h with
    | mocked _ h => rwa [h] at hmocked
    | refused _ h => rwa [h] at hmocked
    | defaultValue _ _ => exact hwithin.refl w
    | unresolvable _ _ => exact hwithin.refl w
    | constructed _ => exact hwithin.refl w

theorem resolveArgument (hwithin : Within catalog ran R) {target : TypeId}
    {constructor : Constructor E} {param : Param}
    (hconstructor : constructor ∈ catalog.constructors target)
    (hparam : param ∈ constructor.params) (explicit : Arguments) (used : List Bool) (w : World E)
    (hran : explicit.find? param.key.type used = none →
      w.fixture.registry.lookup param.key = none → ∀ id started,
        ProduceStarts param.key.unnamed w id started → ran id started (run id started)) :
    R w (w.resolveArgument catalog run target explicit param used).2 := by
  have hresolved := World.resolved catalog run target explicit param used w
  generalize w.resolveArgument catalog run target explicit param used = result at hresolved ⊢
  cases hresolved with
  | explicit _ => exact hwithin.refl w
  | provided hexplicit h => exact hwithin.provided hconstructor hparam (hran hexplicit) h
  | failed hexplicit h => exact hwithin.provided hconstructor hparam (hran hexplicit) h

/-- From one parameter to the next. -/
private theorem resolveArgument_eq_ok (hwithin : Within catalog ran R) {target : TypeId}
    {constructor : Constructor E} {param : Param} {explicit : Arguments} {used used' : List Bool}
    {w w' : World E} {injection : Injection}
    (hconstructor : constructor ∈ catalog.constructors target)
    (hparam : param ∈ constructor.params)
    (hran : explicit.find? param.key.type used = none →
      w.fixture.registry.lookup param.key = none → ∀ id started,
        ProduceStarts param.key.unnamed w id started → ran id started (run id started))
    (hfirst : w.resolveArgument catalog run target explicit param used =
      (.ok (injection, used'), w')) :
    R w (w'.emit [.resolvedArgument injection.parameter injection.source]) := by
  have hfilled := hwithin.resolveArgument hconstructor hparam explicit used w hran
  rw [hfirst] at hfilled
  exact hwithin.trans hfilled (hwithin.emit w' (by simp [Event.isTeardown]))

/-- **Filling parameters keeps to the relation**; by induction on the parameters. -/
theorem resolveParams (hwithin : Within catalog ran R) {target : TypeId}
    {constructor : Constructor E} (hconstructor : constructor ∈ catalog.constructors target)
    (explicit : Arguments) {params : List Param} (hparams : params ⊆ constructor.params)
    (used : List Bool) (w : World E)
    (hran : ∀ id started, ParamsStart catalog run target explicit params used w id started →
      ran id started (run id started)) :
    R w (w.resolveParams catalog run target explicit params used).2 := by
  induction params generalizing used w with
  | nil => exact hwithin.refl w
  | cons param params ih =>
    obtain ⟨hparam, hrest⟩ := List.cons_subset.mp hparams
    have hhere (hexplicit : explicit.find? param.key.type used = none)
        (hlookup : w.fixture.registry.lookup param.key = none) (id : FactoryId)
        (started : World E) (hstarts : ProduceStarts param.key.unnamed w id started) :
        ran id started (run id started) :=
      hran id started (.here hexplicit hlookup hstarts)
    rcases hfirst : w.resolveArgument catalog run target explicit param used with
      ⟨e | ⟨injection, used'⟩, w'⟩
    · have hfailed := hwithin.resolveArgument hconstructor hparam explicit used w hhere
      rw [hfirst] at hfailed
      rwa [resolveParams_cons_of_error hfirst]
    · rw [resolveParams_cons_of_ok hfirst]
      have hreported := hwithin.resolveArgument_eq_ok hconstructor hparam hhere hfirst
      exact hwithin.trans hreported (ih hrest used' _ fun id started hstarts =>
        hran id started (.there hfirst hstarts))

/-- What is injected is found on the way; by induction on the parameters. -/
theorem injected (hwithin : Within catalog ran R) {target : TypeId} {constructor : Constructor E}
    (hconstructor : constructor ∈ catalog.constructors target) {explicit : Arguments}
    {params : List Param} (hparams : params ⊆ constructor.params) {used used' : List Bool}
    {start w w' : World E} {injections : List Injection}
    (hran : ∀ id started, ParamsStart catalog run target explicit params used w id started →
      ran id started (run id started)) (hstart : R start w)
    (h : w.resolveParams catalog run target explicit params used = (.ok (injections, used'), w')) :
    Injected catalog run R start target explicit params injections := by
  induction params generalizing used used' w w' injections with
  | nil =>
    obtain ⟨hok, -⟩ := Prod.mk.inj h
    obtain ⟨rfl, -⟩ := Prod.mk.inj (Except.ok.inj hok)
    exact List.Forall₂.nil
  | cons param params ih =>
    obtain ⟨hparam, hrest⟩ := List.cons_subset.mp hparams
    obtain ⟨injection, used₁, w₁, later, hfilled, hlater, rfl⟩ := resolveParams_cons_eq_ok h
    have hresolved := World.resolved catalog run target explicit param used w
    rw [hfilled] at hresolved
    have hreported := hwithin.resolveArgument_eq_ok hconstructor hparam
      (fun hexplicit hlookup id started hstarts =>
        hran id started (.here hexplicit hlookup hstarts)) hfilled
    have hinjected := ih hrest
      (fun id started hstarts => hran id started (.there hfilled hstarts))
      (hwithin.trans hstart hreported) hlater
    exact List.Forall₂.cons ⟨used, used₁, w, w₁, hstart, hresolved⟩ hinjected

/-! ## From parameters to constructions -/

section Constructions

variable {target : TypeId} {signature : Option Signature} {explicit : Arguments} {w w' : World E}

theorem afterSelection (hwithin : Within catalog ran R) (constructor : Constructor E) (w : World E)
    {events : List Event} (h : ∀ event ∈ events, event.isTeardown = false) :
    R w (w.afterSelection events constructor) :=
  hwithin.trans (hwithin.emit w h) (hwithin.emit _ (by simp [Event.isTeardown]))

/-- From selecting a constructor to filling its parameters. -/
theorem filled (hwithin : Within catalog ran R)
    (hran : ∀ id started, ResolveStarts catalog run target signature explicit w id started →
      ran id started (run id started))
    {constructor : Constructor E} {position : Nat} {events : List Event}
    {answer : Except Error (List Injection × List Bool)}
    (hselect : w.fixture.select target (w.fixture.visible (catalog.constructors target))
      signature explicit = (.ok (constructor, position), events))
    (hparams : (w.afterSelection events constructor).resolveParams catalog run target explicit
      constructor.params explicit.noneUsed = (answer, w')) : R w w' := by
  have hselected := hwithin.afterSelection constructor w (isTeardown_of_select hselect)
  have hfilled := hwithin.resolveParams (Fixture.mem_of_select hselect) explicit
    (List.Subset.refl _) explicit.noneUsed (w.afterSelection events constructor)
    fun id started hstarts => hran id started ⟨hselect, hstarts⟩
  rw [hparams] at hfilled
  exact hwithin.trans hselected hfilled

/-- **A constructor that is not resolved keeps to the relation.** -/
theorem unresolved (hwithin : Within catalog ran R)
    (hran : ∀ id started, ResolveStarts catalog run target signature explicit w id started →
      ran id started (run id started)) {e : Error}
    (h : Built catalog run target signature explicit w (.error e, w')) : R w w' := by
  cases h with
  | unselected hselect => exact hwithin.emit w (isTeardown_of_select hselect)
  | unfilled hselect hparams => exact hwithin.filled hran hselect hparams
  | @failed constructor _ _ _ _ used filled _ hselect hparams hbuild =>
    have hfilled := hwithin.filled hran hselect hparams
    have hwarned := hwithin.emit filled (isTeardown_unusedWarning constructor.toDeclaration used)
    exact hwithin.trans (hwithin.trans hfilled hwarned)
      (hwithin.unbuilt (Fixture.mem_of_select hselect) hbuild)

/-- **A constructor that is resolved keeps to the relation** until the construction is recorded. -/
theorem resolved (hwithin : Within catalog ran R)
    (hran : ∀ id started, ResolveStarts catalog run target signature explicit w id started →
      ran id started (run id started)) {construction : Construction} {datum : Datum}
    (h : Built catalog run target signature explicit w (.ok (construction, datum), w')) :
    ∃ constructor ∈ w.fixture.visible (catalog.constructors target), ∃ filled s,
      construction.constructor = constructor.toDeclaration ∧
      Injected catalog run R w target explicit constructor.params construction.injections ∧
      R w filled ∧
      constructor.build ⟨target, construction.injections⟩ filled.surroundings = (.ok datum, s) ∧
      w' = (filled.mapSurroundings fun _ => s).record (.of target) construction := by
  cases h with
  | @built constructor _ _ _ injections used filled s hselect hparams hbuild =>
    have hconstructor := Fixture.mem_of_select hselect
    have hfilled := hwithin.filled hran hselect hparams
    have hwarned := hwithin.emit filled (isTeardown_unusedWarning constructor.toDeclaration used)
    have hselected := hwithin.afterSelection constructor w (isTeardown_of_select hselect)
    have hinjected := hwithin.injected hconstructor (List.Subset.refl _)
      (fun id started hstarts => hran id started ⟨hselect, hstarts⟩) hselected hparams
    exact ⟨constructor, Fixture.mem_visible_of_select hselect,
      filled.emit (unusedWarning constructor.toDeclaration used), s, rfl, hinjected,
      hwithin.trans hfilled hwarned, hbuild, rfl⟩

end Constructions

/-! ## To the worlds in which factories start -/

/-- A factory that starts for a parameter is looked for on the way; by induction on the parameters
before. -/
theorem paramsStart (hwithin : Within catalog ran R) {target : TypeId}
    {constructor : Constructor E} (hconstructor : constructor ∈ catalog.constructors target)
    {explicit : Arguments} {params : List Param} (hparams : params ⊆ constructor.params)
    {used : List Bool} {w started : World E} {id : FactoryId}
    (hran : ∀ id started, ParamsStart catalog run target explicit params used w id started →
      ran id started (run id started))
    (h : ParamsStart catalog run target explicit params used w id started) :
    ∃ before key, R w before ∧ ProduceStarts key before id started := by
  induction h with
  | @here _ _ _ w _ _ _ _ hstarts => exact ⟨w, _, hwithin.refl w, hstarts⟩
  | there hfirst _ ih =>
    obtain ⟨hparam, hrest⟩ := List.cons_subset.mp hparams
    have hreported := hwithin.resolveArgument_eq_ok hconstructor hparam
      (fun hexplicit hlookup id started hstarts =>
        hran id started (.here hexplicit hlookup hstarts)) hfirst
    obtain ⟨before, key, hbefore, hstarts⟩ :=
      ih hrest fun id started hstarts => hran id started (.there hfirst hstarts)
    exact ⟨before, key, hwithin.trans hreported hbefore, hstarts⟩

/-- So is every factory that starts while a constructor is resolved. -/
theorem produceStarts (hwithin : Within catalog ran R) {target : TypeId}
    {signature : Option Signature} {explicit : Arguments} {w started : World E} {id : FactoryId}
    (hran : ∀ id started, ResolveStarts catalog run target signature explicit w id started →
      ran id started (run id started))
    (h : ResolveStarts catalog run target signature explicit w id started) :
    ∃ before key, R w before ∧ ProduceStarts key before id started := by
  obtain @⟨constructor, _, _, _, _, hselect, h⟩ := h
  have hselected := hwithin.afterSelection constructor w (isTeardown_of_select hselect)
  obtain ⟨before, key, hbefore, hstarts⟩ :=
    hwithin.paramsStart (Fixture.mem_of_select hselect) (List.Subset.refl _)
      (fun id started hstarts => hran id started ⟨hselect, hstarts⟩) h
  exact ⟨before, key, hwithin.trans hselected hbefore, hstarts⟩

section Entering

variable (henter : ∀ {w w' : World E} {key : Key}, w.enter key = .ok w' → R w w')

include henter

theorem resolveStarts (hwithin : Within catalog ran R) {target : TypeId}
    {signature : Option Signature} {explicit : Arguments} {w started : World E} {id : FactoryId}
    (hran : ∀ id started, ResolveStarts catalog run target signature explicit w id started →
      ran id started (run id started))
    (h : ResolveStarts catalog run target signature explicit w id started) : R w started := by
  obtain ⟨before, key, hbefore, -, -, hstarted⟩ := hwithin.produceStarts hran h
  exact hwithin.trans hbefore (henter hstarted)

theorem createStarts (hwithin : Within catalog ran R) {target : TypeId}
    {signature : Option Signature} {arguments : Option Arguments} {w started : World E}
    {id : FactoryId}
    (hran : ∀ entered, w.enter (.of target) = .ok entered →
      w.fixture.hasFactory (.of target) = false → ∀ id started,
        ResolveStarts catalog run target signature
          ((arguments.or ((w.fixture.recipes.find? (.of target)).bind Recipe.arguments)).getD {})
          entered id started → ran id started (run id started))
    (h : CreateStarts catalog run target signature arguments w id started) : R w started := by
  cases h with
  | factory hentered _ _ _ =>
    exact hwithin.trans (henter hentered) (hwithin.emit _ (by simp [Event.isTeardown]))
  | resolved hentered hfactory h =>
    have hstarts := hwithin.resolveStarts henter (hran _ hentered hfactory) h
    exact hwithin.trans (henter hentered) hstarts

end Entering

end Within

end World

end TestDoubles
