import TestDoubles.Command

/-!
# What operations come to

Filling parameters and creating instances branch many times, and between the branches code from
outside the library runs. For each of these operations its possible outcomes are listed once, as an
inductive relation between the world before and the answer with the world after; every case says how
the operation got there. Facts about whole operations are then proved by cases on these outcomes, and
no later proof opens the operations themselves.
-/

namespace TestDoubles

/-- The type as which the product of a recipe's factory is kept, if it is. -/
def Recipe.sharedAs (recipe : Recipe) : Option TypeId :=
  match recipe.lifetime with
  | .singleton => recipe.share
  | .transient => none

/-- A recipe as it was before it was fixed. -/
def Recipe.thawed (recipe : Recipe) : Recipe :=
  { recipe with frozen := false }

/-- What does not depend on whether a recipe is fixed can be told of the recipe as it was before. -/
theorem Recipe.any_thawed {p : Recipe → Bool} (hp : ∀ recipe, p recipe.thawed = p recipe)
    (recipe : Option Recipe) : (recipe.map Recipe.thawed).any p = recipe.any p := by
  cases recipe <;> simp [hp]

namespace Fixture

/-- Fixing a recipe does nothing, or writes the recipe that is there. -/
theorem freeze_cases (f : Fixture) (key : Key) : f.freeze key = f ∨
    ∃ recipe, f.recipes.find? key = some recipe ∧
      f.freeze key =
        { f with recipes := f.recipes.insert key { recipe with frozen := true } } := by
  unfold freeze
  cases hrecipe : f.recipes.find? key with
  | none => exact .inl rfl
  | some recipe => exact .inr ⟨recipe, rfl, rfl⟩

@[simp] theorem registry_freeze (f : Fixture) (key : Key) :
    (f.freeze key).registry = f.registry := by
  unfold freeze
  split <;> rfl

@[simp] theorem history_freeze (f : Fixture) (key : Key) : (f.freeze key).history = f.history := by
  unfold freeze
  split <;> rfl

@[simp] theorem stage_freeze (f : Fixture) (key : Key) : (f.freeze key).stage = f.stage := by
  unfold freeze
  split <;> rfl

@[simp] theorem options_freeze (f : Fixture) (key : Key) : (f.freeze key).options = f.options := by
  unfold freeze
  split <;> rfl

@[simp] theorem inProgress_freeze (f : Fixture) (key : Key) :
    (f.freeze key).inProgress = f.inProgress := by
  unfold freeze
  split <;> rfl

@[simp] theorem registry_configured (f : Fixture) : f.configured.registry = f.registry := by
  unfold configured
  split <;> rfl

@[simp] theorem recipes_configured (f : Fixture) : f.configured.recipes = f.recipes := by
  unfold configured
  split <;> rfl

/-- The recipe for the key is fixed, if there is one; the others stay as they are. -/
theorem find?_freeze (f : Fixture) (key other : Key) :
    (f.freeze key).recipes.find? other =
      (f.recipes.find? other).map fun recipe =>
        if key = other then { recipe with frozen := true } else recipe := by
  unfold freeze
  by_cases hkey : key = other
  · subst hkey
    cases hrecipe : f.recipes.find? key <;> simp [hrecipe]
  · cases f.recipes.find? key <;> simp [hkey, Table.find?_insert]

/-- Apart from being fixed, all recipes stay as they are. -/
theorem thawed_freeze (f : Fixture) (key other : Key) :
    ((f.freeze key).recipes.find? other).map Recipe.thawed =
      (f.recipes.find? other).map Recipe.thawed := by
  have hthawed : (Recipe.thawed ∘ fun recipe : Recipe =>
      if key = other then { recipe with frozen := true } else recipe) = Recipe.thawed := by
    funext recipe
    dsimp only [Function.comp_apply]
    split <;> rfl
  rw [find?_freeze, Option.map_map, hthawed]

end Fixture

namespace World

variable {E : Type}

/-! ## Entering -/

/-- Only keys that are not in progress are entered, and they go to the end of those that are. -/
theorem enter_eq_ok_iff {key : Key} {w entered : World E} :
    w.enter key = .ok entered ↔ key ∉ w.fixture.inProgress ∧
      entered = w.mapFixture fun f => { f with inProgress := f.inProgress ++ [key] } := by
  unfold enter Fixture.enter
  by_cases hkey : key ∈ w.fixture.inProgress
  · simp [hkey]
  · simp [hkey, mapFixture, eq_comm]

/-- A key that is in progress is refused, and the error shows the way that led back to it. -/
theorem enter_eq_error_iff {key : Key} {w : World E} {e : Error} :
    w.enter key = .error e ↔ key ∈ w.fixture.inProgress ∧
      e = .circularDependency (.through (w.fixture.inProgress ++ [key])) := by
  unfold enter Fixture.enter
  by_cases hkey : key ∈ w.fixture.inProgress
  · simp [hkey, eq_comm]
  · simp [hkey]

/-! ## Factories -/

theorem hasFactory_of_filter {f : Fixture} {key : Key}
    (h : (f.recipes.find? key).filter Recipe.hasFactory = none) : f.hasFactory key = false := by
  unfold Fixture.hasFactory
  cases hrecipe : f.recipes.find? key with
  | none => rfl
  | some recipe => simpa [hrecipe, Option.filter] using h

theorem hasFactory_of_recipe {f : Fixture} {key : Key} {recipe : Recipe} {factory : Factory}
    (hrecipe : f.recipes.find? key = some recipe) (hfactory : recipe.factory = some factory) :
    f.hasFactory key = true := by
  simp [Fixture.hasFactory, Recipe.hasFactory, hrecipe, hfactory]

section Outcomes

variable (catalog : Catalog E) (run : Runner E)

/-! ## Producing -/

/-- What producing a key comes to. -/
inductive Produced (key : Key) (w : World E) : Except Error (Option Stored) × World E → Prop where
  -- There is no factory for the key.
  | noFactory (h : w.fixture.hasFactory key = false) : Produced key w (.ok none, w)
  -- The key is in progress already.
  | cyclic {recipe : Recipe} {factory : Factory} {e : Error}
      (hrecipe : w.fixture.recipes.find? key = some recipe) (hfactory : recipe.factory = some factory)
      (henter : w.enter key = .error e) :
      Produced key w (.error e, w)
  -- The factory failed.
  | failed {recipe : Recipe} {factory : Factory} {entered ended : World E} {e : Error}
      (hrecipe : w.fixture.recipes.find? key = some recipe) (hfactory : recipe.factory = some factory)
      (henter : w.enter key = .ok entered) (hrun : run factory.id entered = (.error e, ended)) :
      Produced key w (.error e, ended.leave)
  -- The factory made a value that is not kept.
  | transient {recipe : Recipe} {factory : Factory} {entered ended : World E} {datum : Datum}
      (hrecipe : w.fixture.recipes.find? key = some recipe) (hfactory : recipe.factory = some factory)
      (hlifetime : recipe.lifetime = .transient)
      (henter : w.enter key = .ok entered) (hrun : run factory.id entered = (.ok datum, ended)) :
      Produced key w
        (.ok (some (.value factory.product datum)), ended.leave.mapFixture (Fixture.freeze · key))
  -- The factory made a value, and it was registered.
  | singleton {recipe : Recipe} {factory : Factory} {entered ended : World E} {datum : Datum}
      (hrecipe : w.fixture.recipes.find? key = some recipe) (hfactory : recipe.factory = some factory)
      (hlifetime : recipe.lifetime = .singleton)
      (henter : w.enter key = .ok entered) (hrun : run factory.id entered = (.ok datum, ended)) :
      Produced key w
        (.ok (some (.value factory.product datum)),
          (ended.leave.insertValue catalog.mockOf key (.value factory.product datum)).mapFixture
            (Fixture.freeze · key))

theorem produced (key : Key) (w : World E) :
    Produced catalog run key w (w.produce catalog run key) := by
  unfold produce
  split
  next hnone => exact .noFactory (by simp [Fixture.hasFactory, hnone])
  next recipe hrecipe =>
    split
    next hnone => exact .noFactory (by simp [Fixture.hasFactory, Recipe.hasFactory, hrecipe, hnone])
    next factory hfactory =>
      split
      next e henter => exact .cyclic hrecipe hfactory henter
      next entered henter =>
        split
        next e ended hrun => exact .failed hrecipe hfactory henter hrun
        next datum ended hrun =>
          cases hlifetime : recipe.lifetime with
          | transient => exact .transient hrecipe hfactory hlifetime henter hrun
          | singleton => exact .singleton hrecipe hfactory hlifetime henter hrun

/-- Nothing is produced without a factory. -/
theorem Produced.eq_of_hasFactory {key : Key} {w : World E}
    {result : Except Error (Option Stored) × World E} (h : Produced catalog run key w result)
    (hnone : w.fixture.hasFactory key = false) : result = (.ok none, w) := by
  cases h with
  | noFactory _ => rfl
  | cyclic hrecipe hfactory _ => cases hasFactory_of_recipe hrecipe hfactory ▸ hnone
  | failed hrecipe hfactory _ _ => cases hasFactory_of_recipe hrecipe hfactory ▸ hnone
  | transient hrecipe hfactory _ _ _ => cases hasFactory_of_recipe hrecipe hfactory ▸ hnone
  | singleton hrecipe hfactory _ _ _ => cases hasFactory_of_recipe hrecipe hfactory ▸ hnone

/-! ## Filling one parameter -/

/-- What falling back on the kind of a parameter comes to. -/
inductive FellBack (target : TypeId) (param : Param) (w : World E) :
    Except Error (Source × Stored) × World E → Prop where
  -- A double was created.
  | mocked {mock : Mock} {w' : World E} (hkind : param.kind = .capability)
      (h : (w.onRegistry fun r fresh =>
        r.getOrCreateMock catalog.mockOf fresh param.key.type param.key.name) = (.ok mock, w')) :
      FellBack target param w (.ok (.autoMock, .object mock.capability mock.object), w')
  -- No double could be created.
  | refused {e : Error} {w' : World E} (hkind : param.kind = .capability)
      (h : (w.onRegistry fun r fresh =>
        r.getOrCreateMock catalog.mockOf fresh param.key.type param.key.name) = (.error e, w')) :
      FellBack target param w (.error e, w')
  -- The options allow the default of a value type.
  | defaultValue (hkind : param.kind = .value) (h : w.fixture.options.defaultValues = true) :
      FellBack target param w
        (.ok (.defaultValue, .value param.key.type (catalog.defaultOf param.key.type)), w)
  -- They do not.
  | unresolvable (hkind : param.kind = .value) (h : w.fixture.options.defaultValues = false) :
      FellBack target param w (.error (.unresolvableParameter target param.name param.key), w)
  -- A concrete dependency is its default.
  | constructed (hkind : param.kind = .concrete) :
      FellBack target param w
        (.ok (.constructed, .value param.key.type (catalog.defaultOf param.key.type)), w)

theorem fellBack (target : TypeId) (param : Param) (w : World E) :
    FellBack catalog target param w (w.fallBack catalog target param) := by
  unfold fallBack
  split
  next hkind =>
    split
    next mock w' h => exact .mocked hkind h
    next e w' h => exact .refused hkind h
  next hkind =>
    split
    next h => exact .defaultValue hkind h
    next h => exact .unresolvable hkind (by simpa using h)
  next hkind => exact .constructed hkind

/-- What filling a parameter without an explicit argument comes to. -/
inductive Provided (target : TypeId) (param : Param) (w : World E) :
    Except Error (Source × Stored) × World E → Prop where
  -- An entry answers for the parameter.
  | registered {value : Stored} {origin : Origin}
      (h : w.fixture.registry.lookup param.key = some (value, origin)) :
      Provided target param w (.ok (.ofOrigin origin, value), w)
  -- The factory could not be run, or failed.
  | failed {e : Error} {w' : World E} (hlookup : w.fixture.registry.lookup param.key = none)
      (h : Produced catalog run param.key.unnamed w (.error e, w')) :
      Provided target param w (.error e, w')
  -- The factory made a value.
  | made {value : Stored} {w' : World E} (hlookup : w.fixture.registry.lookup param.key = none)
      (h : Produced catalog run param.key.unnamed w (.ok (some value), w')) :
      Provided target param w (.ok (.factory, value), w')
  -- There is neither an entry nor a factory.
  | fellBack {result : Except Error (Source × Stored) × World E}
      (hlookup : w.fixture.registry.lookup param.key = none)
      (hfactory : w.fixture.hasFactory param.key.unnamed = false)
      (h : FellBack catalog target param w result) :
      Provided target param w result

theorem provided (target : TypeId) (param : Param) (w : World E) :
    Provided catalog run target param w (w.provide catalog run target param) := by
  have hproduced := produced catalog run param.key.unnamed w
  unfold provide
  split
  next value origin h => exact .registered h
  next hlookup =>
    generalize w.produce catalog run param.key.unnamed = result at hproduced ⊢
    split
    next e w' => exact .failed hlookup hproduced
    next value w' => exact .made hlookup hproduced
    next w' =>
      cases hproduced with
      | noFactory hfactory =>
        exact .fellBack hlookup hfactory (World.fellBack catalog target param w)

/-- What filling a parameter comes to: an explicit argument is marked as used, or the mask stays. -/
inductive Resolved (target : TypeId) (explicit : Arguments) (param : Param) (used : List Bool)
    (w : World E) : Except Error (Injection × List Bool) × World E → Prop where
  -- An explicit argument was left for it.
  | explicit {index : Nat} {value : Stored}
      (h : explicit.find? param.key.type used = some (index, value)) :
      Resolved target explicit param used w
        (.ok (⟨param.name, param.key, .explicit, value⟩, used.set index true), w)
  -- It was provided for.
  | provided {source : Source} {value : Stored} {w' : World E}
      (hexplicit : explicit.find? param.key.type used = none)
      (h : Provided catalog run target param w (.ok (source, value), w')) :
      Resolved target explicit param used w
        (.ok (⟨param.name, param.key, source, value⟩, used), w')
  -- It could not be provided for.
  | failed {e : Error} {w' : World E} (hexplicit : explicit.find? param.key.type used = none)
      (h : Provided catalog run target param w (.error e, w')) :
      Resolved target explicit param used w (.error e, w')

theorem resolved (target : TypeId) (explicit : Arguments) (param : Param) (used : List Bool)
    (w : World E) :
    Resolved catalog run target explicit param used w
      (w.resolveArgument catalog run target explicit param used) := by
  have hprovided := provided catalog run target param w
  unfold resolveArgument
  split
  next index value h => exact .explicit h
  next hexplicit =>
    generalize w.provide catalog run target param = result at hprovided ⊢
    split
    next source value w' => exact .provided hexplicit hprovided
    next e w' => exact .failed hexplicit hprovided

/-! ## Filling parameters in order -/

section Parameters

variable {catalog run} {target : TypeId} {explicit : Arguments} {used used' : List Bool}
  {w w' : World E} {injections : List Injection}

/-- If parameters are filled, so is the first of them, and the others from where that has led. -/
theorem resolveParams_cons_eq_ok {param : Param} {params : List Param}
    (h : w.resolveParams catalog run target explicit (param :: params) used =
      (.ok (injections, used'), w')) :
    ∃ injection used₁ w₁ later, w.resolveArgument catalog run target explicit param used =
        (.ok (injection, used₁), w₁) ∧
      (w₁.emit [.resolvedArgument injection.parameter injection.source]).resolveParams catalog run
        target explicit params used₁ = (.ok (later, used'), w') ∧
      injections = injection :: later := by
  unfold resolveParams at h
  split at h
  · cases (Prod.mk.inj h).1
  next injection used₁ w₁ hfirst =>
    dsimp only at h
    split at h
    · cases (Prod.mk.inj h).1
    next later used₂ w₂ hlater =>
      obtain ⟨hok, rfl⟩ := Prod.mk.inj h
      obtain ⟨rfl, rfl⟩ := Prod.mk.inj (Except.ok.inj hok)
      exact ⟨injection, used₁, w₁, later, hfirst, hlater, rfl⟩

/-- Once the first parameter is filled, the others are filled from where that has led. -/
theorem resolveParams_cons_of_ok {param : Param} {params : List Param} {injection : Injection}
    (hfirst : w.resolveArgument catalog run target explicit param used =
      (.ok (injection, used'), w')) :
    w.resolveParams catalog run target explicit (param :: params) used =
      (((w'.emit [.resolvedArgument injection.parameter injection.source]).resolveParams catalog run
          target explicit params used').1.map fun rest => (injection :: rest.1, rest.2),
        ((w'.emit [.resolvedArgument injection.parameter injection.source]).resolveParams catalog run
          target explicit params used').2) := by
  rw [resolveParams, hfirst]
  dsimp only
  split
  next h => rw [h]; rfl
  next h => rw [h]; rfl

/-- If the first parameter is not filled, none is. -/
theorem resolveParams_cons_of_error {param : Param} {params : List Param} {e : Error}
    (hfirst : w.resolveArgument catalog run target explicit param used = (.error e, w')) :
    w.resolveParams catalog run target explicit (param :: params) used = (.error e, w') := by
  rw [resolveParams, hfirst]

/-- If parameters are filled, so are those in front, and the others from where these have led. -/
theorem resolveParams_append_eq_ok {earlier params : List Param}
    (h : w.resolveParams catalog run target explicit (earlier ++ params) used =
      (.ok (injections, used'), w')) :
    ∃ filled used₁ w₁ later, w.resolveParams catalog run target explicit earlier used =
        (.ok (filled, used₁), w₁) ∧
      w₁.resolveParams catalog run target explicit params used₁ = (.ok (later, used'), w') ∧
      injections = filled ++ later := by
  induction earlier generalizing used w injections with
  | nil => exact ⟨[], used, w, injections, rfl, h, rfl⟩
  | cons param earlier ih =>
    obtain ⟨injection, used₁, w₁, rest, hfirst, hrest, rfl⟩ := resolveParams_cons_eq_ok h
    obtain ⟨filled, used₂, w₂, later, hearlier, hlater, rfl⟩ := ih hrest
    refine ⟨injection :: filled, used₂, w₂, later, ?_, hlater, rfl⟩
    unfold resolveParams
    rw [hfirst]
    dsimp only
    rw [hearlier]

end Parameters

/-! ## Building an instance -/

/-- The world in which the parameters of the selected constructor are filled. -/
def afterSelection (events : List Event) (constructor : Constructor E) (w : World E) : World E :=
  (w.emit events).emit [.selected constructor.toDeclaration]

/-- What building an instance with one of the constructors of its type comes to. -/
inductive Built (target : TypeId) (signature : Option Signature) (explicit : Arguments)
    (w : World E) : Except Error (Construction × Datum) × World E → Prop where
  -- No constructor was selected.
  | unselected {e : Error} {events : List Event}
      (hselect : w.fixture.select target (w.fixture.visible (catalog.constructors target))
        signature explicit = (.error e, events)) :
      Built target signature explicit w (.error e, w.emit events)
  -- A parameter of the selected constructor could not be filled.
  | unfilled {constructor : Constructor E} {position : Nat} {events : List Event} {e : Error}
      {w' : World E}
      (hselect : w.fixture.select target (w.fixture.visible (catalog.constructors target))
        signature explicit = (.ok (constructor, position), events))
      (hparams : (w.afterSelection events constructor).resolveParams catalog run target explicit
        constructor.params explicit.noneUsed = (.error e, w')) :
      Built target signature explicit w (.error e, w')
  -- The function of the constructor failed.
  | failed {constructor : Constructor E} {position : Nat} {events : List Event} {e : Error}
      {injections : List Injection} {used : List Bool} {w' : World E} {surroundings : E}
      (hselect : w.fixture.select target (w.fixture.visible (catalog.constructors target))
        signature explicit = (.ok (constructor, position), events))
      (hparams : (w.afterSelection events constructor).resolveParams catalog run target explicit
        constructor.params explicit.noneUsed = (.ok (injections, used), w'))
      (hbuild : constructor.build ⟨target, injections⟩ w'.surroundings = (.error e, surroundings)) :
      Built target signature explicit w
        (.error e,
          (w'.emit (unusedWarning constructor.toDeclaration used)).mapSurroundings fun _ =>
            surroundings)
  -- An instance was built, and the construction recorded.
  | built {constructor : Constructor E} {position : Nat} {events : List Event} {datum : Datum}
      {injections : List Injection} {used : List Bool} {w' : World E} {surroundings : E}
      (hselect : w.fixture.select target (w.fixture.visible (catalog.constructors target))
        signature explicit = (.ok (constructor, position), events))
      (hparams : (w.afterSelection events constructor).resolveParams catalog run target explicit
        constructor.params explicit.noneUsed = (.ok (injections, used), w'))
      (hbuild : constructor.build ⟨target, injections⟩ w'.surroundings = (.ok datum, surroundings)) :
      Built target signature explicit w
        (.ok (⟨constructor.toDeclaration, injections⟩, datum),
          ((w'.emit (unusedWarning constructor.toDeclaration used)).mapSurroundings fun _ =>
            surroundings).record (.of target) ⟨constructor.toDeclaration, injections⟩)

theorem built (target : TypeId) (signature : Option Signature) (explicit : Arguments)
    (w : World E) :
    Built catalog run target signature explicit w
      (w.resolve catalog run target signature explicit) := by
  unfold resolve resolveArguments
  rcases hselect : w.fixture.select target (w.fixture.visible (catalog.constructors target))
    signature explicit with ⟨e | ⟨constructor, position⟩, events⟩
  · simp only [hselect]
    exact .unselected hselect
  · simp only [hselect]
    rw [show (w.emit events).emit [.selected constructor.toDeclaration] =
      w.afterSelection events constructor from rfl]
    rcases hparams : (w.afterSelection events constructor).resolveParams catalog run target explicit
      constructor.params explicit.noneUsed with ⟨e | ⟨injections, used⟩, w'⟩
    · dsimp only
      exact .unfilled hselect hparams
    · dsimp only
      rcases hbuild : constructor.build ⟨target, injections⟩ w'.surroundings with
        ⟨e | datum, surroundings⟩
      · simp only [invoke, emit, hbuild]
        exact .failed hselect hparams hbuild
      · simp only [invoke, emit, hbuild]
        exact .built hselect hparams hbuild

/-! ## Creating -/

/-- The kept product of a type is the value that can be read for it. -/
theorem cached?_eq (type : TypeId) (w : World E) : w.cached? (.of type) (some type) =
    (w.fixture.registry.value? type).map (.value type) := by
  unfold cached? Registry.value?
  cases w.fixture.registry.lookup (.of type) <;> rfl

/-- What creating a type that is marked as in progress comes to. -/
inductive Obtained (target : TypeId) (key : Key) (signature : Option Signature)
    (arguments : Option Arguments) (w : World E) : Except Error Datum × World E → Prop where
  -- The product of a singleton factory is there already.
  | cached {recipe : Recipe} {factory : Factory} {value : Stored}
      (hrecipe : w.fixture.recipes.find? key = some recipe) (hfactory : recipe.factory = some factory)
      (hcached : w.cached? key recipe.sharedAs = some value) :
      Obtained target key signature arguments w (downcast target value, w.emit [.fromFactory key])
  -- The factory failed.
  | failed {recipe : Recipe} {factory : Factory} {e : Error} {ended : World E}
      (hrecipe : w.fixture.recipes.find? key = some recipe) (hfactory : recipe.factory = some factory)
      (hcached : w.cached? key recipe.sharedAs = none)
      (hrun : run factory.id (w.emit [.fromFactory key]) = (.error e, ended)) :
      Obtained target key signature arguments w (.error e, ended)
  -- The factory made a value that is handed out as it is.
  | unshared {recipe : Recipe} {factory : Factory} {datum : Datum} {ended : World E}
      (hrecipe : w.fixture.recipes.find? key = some recipe) (hfactory : recipe.factory = some factory)
      (hshare : recipe.sharedAs = none)
      (hrun : run factory.id (w.emit [.fromFactory key]) = (.ok datum, ended)) :
      Obtained target key signature arguments w (downcast target (.value factory.product datum), ended)
  -- The factory made a value that is registered and handed out again.
  | shared {recipe : Recipe} {factory : Factory} {type : TypeId} {datum : Datum} {ended : World E}
      (hrecipe : w.fixture.recipes.find? key = some recipe) (hfactory : recipe.factory = some factory)
      (hshare : recipe.sharedAs = some type) (hcached : w.cached? key (some type) = none)
      (hrun : run factory.id (w.emit [.fromFactory key]) = (.ok datum, ended)) :
      Obtained target key signature arguments w
        (match shareAs? type (.value factory.product datum) with
          | none => .error (.constructionFailed target .wrongProduct)
          | some owned => downcast target owned,
          ended.insertValue catalog.mockOf key (.value factory.product datum))
  -- A constructor was resolved.
  | resolved {result : Except Error (Construction × Datum)} {w' : World E}
      (hfactory : w.fixture.hasFactory key = false)
      (h : Built catalog run target signature
        ((arguments.or ((w.fixture.recipes.find? key).bind Recipe.arguments)).getD {}) w
        (result, w')) :
      Obtained target key signature arguments w (result.map Prod.snd, w')

theorem createFromFactory_eq (target : TypeId) (key : Key) (recipe : Recipe) (w : World E) :
    w.createFromFactory catalog run target key recipe =
      match w.cached? key recipe.sharedAs with
      | some value => (downcast target value, w)
      | none =>
        match recipe.factory with
        | none => (.error (.constructionFailed target .noFactory), w)
        | some factory => w.runFactory catalog run target key factory recipe.sharedAs :=
  rfl

theorem obtained (target : TypeId) (key : Key) (signature : Option Signature)
    (arguments : Option Arguments) (w : World E) :
    Obtained catalog run target key signature arguments w
      (w.createEntered catalog run target key signature arguments) := by
  unfold createEntered
  dsimp only
  split
  next recipe hfilter =>
    obtain ⟨hrecipe, hhas⟩ := Option.filter_eq_some_iff.mp hfilter
    obtain ⟨factory, hfactory⟩ := Option.isSome_iff_exists.mp hhas
    rw [createFromFactory_eq]
    split
    next value hcached => exact .cached hrecipe hfactory hcached
    next hcached =>
      rw [hfactory]
      dsimp only
      unfold runFactory
      split
      next e ended hrun => exact .failed hrecipe hfactory hcached hrun
      next datum ended hrun =>
        dsimp only
        cases hshare : recipe.sharedAs with
        | none => exact .unshared hrecipe hfactory hshare hrun
        | some type =>
          have hshared : Obtained catalog run target key signature arguments w _ :=
            .shared hrecipe hfactory hshare (hshare ▸ hcached) hrun
          dsimp only at hshared ⊢
          split <;> simp_all
  next hfilter =>
    have hfactory := hasFactory_of_filter hfilter
    have hbuilt := built catalog run target signature
      ((arguments.or ((w.fixture.recipes.find? key).bind Recipe.arguments)).getD {}) w
    generalize w.resolve catalog run target signature
      ((arguments.or ((w.fixture.recipes.find? key).bind Recipe.arguments)).getD {}) = result
      at hbuilt ⊢
    rcases result with ⟨e | ⟨construction, datum⟩, w'⟩ <;> exact .resolved hfactory hbuilt

/-- Without a factory, a constructor is resolved. -/
theorem Obtained.of_hasFactory {target : TypeId} {key : Key} {signature : Option Signature}
    {arguments : Option Arguments} {w : World E} {result : Except Error Datum × World E}
    (h : Obtained catalog run target key signature arguments w result)
    (hnone : w.fixture.hasFactory key = false) :
    ∃ resolved w', Built catalog run target signature
        ((arguments.or ((w.fixture.recipes.find? key).bind Recipe.arguments)).getD {}) w
        (resolved, w') ∧ result = (resolved.map Prod.snd, w') := by
  cases h with
  | cached hrecipe hfactory _ => cases hasFactory_of_recipe hrecipe hfactory ▸ hnone
  | failed hrecipe hfactory _ _ => cases hasFactory_of_recipe hrecipe hfactory ▸ hnone
  | unshared hrecipe hfactory _ _ => cases hasFactory_of_recipe hrecipe hfactory ▸ hnone
  | shared hrecipe hfactory _ _ _ => cases hasFactory_of_recipe hrecipe hfactory ▸ hnone
  | resolved _ h => exact ⟨_, _, h, rfl⟩

/-- What creating an instance comes to. -/
inductive Created (target : TypeId) (signature : Option Signature) (arguments : Option Arguments)
    (w : World E) : Except Error Datum × World E → Prop where
  -- The type is in progress already.
  | cyclic {e : Error} (henter : w.enter (.of target) = .error e) :
      Created target signature arguments w (.error e, w)
  -- No instance was obtained.
  | failed {entered w' : World E} {e : Error} (henter : w.enter (.of target) = .ok entered)
      (h : Obtained catalog run target (.of target) signature arguments entered (.error e, w')) :
      Created target signature arguments w (.error e, w'.leave)
  -- An instance was obtained, and the recipe of its type is fixed.
  | built {entered w' : World E} {datum : Datum} (henter : w.enter (.of target) = .ok entered)
      (h : Obtained catalog run target (.of target) signature arguments entered (.ok datum, w')) :
      Created target signature arguments w
        (.ok datum, w'.leave.mapFixture fun f => (f.freeze (.of target)).built)

theorem created (target : TypeId) (signature : Option Signature) (arguments : Option Arguments)
    (w : World E) :
    Created catalog run target signature arguments w
      (w.create catalog run target signature arguments) := by
  unfold create
  dsimp only
  split
  next e henter => exact .cyclic henter
  next entered henter =>
    have hobtained := obtained catalog run target (.of target) signature arguments entered
    generalize entered.createEntered catalog run target (.of target) signature arguments = result
      at hobtained ⊢
    split
    next e w' => exact .failed henter hobtained
    next datum w' => exact .built henter hobtained

/-- Fixing the recipe of what has been created does nothing to the registry. -/
theorem registry_created (w : World E) (key : Key) :
    (w.leave.mapFixture fun f => (f.freeze key).built).fixture.registry = w.fixture.registry :=
  Fixture.registry_freeze w.leave.fixture key

/-- Nor does it to the history. -/
theorem history_created (w : World E) (key : Key) :
    (w.leave.mapFixture fun f => (f.freeze key).built).fixture.history = w.fixture.history :=
  Fixture.history_freeze w.leave.fixture key

theorem options_created (w : World E) (key : Key) :
    (w.leave.mapFixture fun f => (f.freeze key).built).fixture.options = w.fixture.options :=
  Fixture.options_freeze w.leave.fixture key

theorem inProgress_created (w : World E) (key : Key) :
    (w.leave.mapFixture fun f => (f.freeze key).built).fixture.inProgress =
      w.fixture.inProgress.dropLast :=
  Fixture.inProgress_freeze w.leave.fixture key

theorem thawed_created (w : World E) (key other : Key) :
    ((w.leave.mapFixture fun f => (f.freeze key).built).fixture.recipes.find? other).map
        Recipe.thawed = (w.fixture.recipes.find? other).map Recipe.thawed :=
  Fixture.thawed_freeze w.leave.fixture key other

/-- Without a factory of its own, an instance is built by a constructor. -/
theorem Created.exists_built {target : TypeId} {signature : Option Signature}
    {arguments : Option Arguments} {w w' : World E} {datum : Datum}
    (h : Created catalog run target signature arguments w (.ok datum, w'))
    (hnone : w.fixture.hasFactory (.of target) = false) :
    ∃ entered construction done, w.enter (.of target) = .ok entered ∧
      Built catalog run target signature
        ((arguments.or ((w.fixture.recipes.find? (.of target)).bind Recipe.arguments)).getD {})
        entered (.ok (construction, datum), done) ∧
      w' = done.leave.mapFixture fun f => (f.freeze (.of target)).built := by
  cases h with
  | @built entered done _ henter hobtained =>
    obtain ⟨-, rfl⟩ := enter_eq_ok_iff.mp henter
    obtain ⟨resolved, _, hbuilt, hresult⟩ := hobtained.of_hasFactory catalog run hnone
    obtain ⟨hanswer, rfl⟩ := Prod.mk.inj hresult
    rcases resolved with e | ⟨construction, _⟩
    · cases hanswer
    · obtain rfl := Except.ok.inj hanswer
      exact ⟨_, construction, done, henter, hbuilt, rfl⟩

end Outcomes

end World

end TestDoubles
