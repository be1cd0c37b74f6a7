import TestDoubles.Proofs.Run.Noted
import TestDoubles.Proofs.Run.Singleton

/-!
# The value of a singleton

A test gets at the product of a singleton factory in three ways: by creating the type, by reading the
value that is registered for it, and by creating something that has it for a parameter. Here it is shown
that the three agree, whatever the factory does while it runs: it may register other values for its own
type, replace itself by another factory or tear the fixture down.

- `World.CachesValue` compares creating a type with the value that can be read before and after it.
- `World.Reaches` tells where a command comes to fill a parameter, and `World.StaysCached` what it is
  filled with then.
- `World.singleton_value` puts these together.
-/

namespace TestDoubles

variable {E : Type}

/-- The product of a singleton factory is read back as what it is. -/
def Recipe.Shares (recipe : Recipe) : Prop :=
  ∀ factory, recipe.factory = some factory → recipe.lifetime = .singleton →
    recipe.share = some factory.product

theorem Recipe.invariant_shares (conduct : Conduct E) :
    Recipe.Invariant conduct fun _ recipe => recipe.Shares where
  missing _ _ hfactory := nomatch hfactory
  rewrites _ hrewrites h := by
    cases hrewrites with
    | addType type lifetime id _ =>
      intro factory hfactory hlifetime
      obtain rfl := Option.some.inj hfactory
      exact if_pos hlifetime
    | setArguments type arguments _ => exact h
  frozen h := h

/-- A value that can be read is what is looked up, and it is known to be a value. -/
theorem Registry.Coherent.lookup_of_value? {mockOf : TypeId → TypeId} {n : Nat} {r : Registry}
    (h : r.Coherent mockOf n) {type : TypeId} {datum : Datum} (hvalue : r.value? type = some datum) :
    r.lookup (.of type) = some (.value type datum, .value) := by
  obtain ⟨⟨stored, origin⟩, hlookup, hstored⟩ := Option.bind_eq_some_iff.mp hvalue
  obtain rfl := Stored.value?_eq_some_iff.mp hstored
  have hstores := h.stores hlookup
  rw [hlookup]
  cases origin <;> first | rfl | cases hstores

namespace World

/-! ## Creating -/

/-- The factory makes values of the type, and its recipe has them kept and read back as such. -/
theorem Reachable.sharedAs_eq {catalog : Catalog E} {conduct : Conduct E} {w : World E}
    (hw : Reachable catalog conduct w) {type : TypeId} {recipe : Recipe} {factory : Factory}
    (hrecipe : w.fixture.recipe? type = some recipe) (hfactory : recipe.factory = some factory)
    (hlifetime : recipe.lifetime = .singleton) :
    factory.product = type ∧ recipe.sharedAs = some type := by
  obtain ⟨hkey, -⟩ := hw.sound.recipes (.of type) recipe hrecipe factory hfactory
  obtain rfl := Key.of_inj.mp hkey
  have hshare := hw.recipes (Recipe.invariant_shares conduct) _ recipe hrecipe factory hfactory
    hlifetime
  exact ⟨rfl, by rw [Recipe.sharedAs, hlifetime, hshare]⟩

/-- What comes of creating a type with a singleton factory, compared with the value that can be read
for the type before and after. -/
structure CachesValue (catalog : Catalog E) (run : Runner E) (type : TypeId) (factory : Factory)
    (signature : Option Signature) (arguments : Option Arguments) (w : World E) : Prop where
  -- What is handed out can be read right afterwards.
  read : ∀ datum, (w.create catalog run type signature arguments).1 = .ok datum →
    (w.create catalog run type signature arguments).2.fixture.registry.value? type = some datum
  -- What could be read before is handed out, unless the type is in progress.
  handed : ∀ held, w.fixture.registry.value? type = some held →
    (∀ datum, (w.create catalog run type signature arguments).1 = .ok datum → datum = held) ∧
    (.of type ∉ w.fixture.inProgress →
      (w.create catalog run type signature arguments).1 = .ok held)
  -- Then no factory is run, and the registry stays as it is.
  spared : ∀ held, w.fixture.registry.value? type = some held →
    (∀ id started, ¬CreateStarts catalog run type signature arguments w id started) ∧
    (w.create catalog run type signature arguments).2.fixture.registry = w.fixture.registry
  -- Otherwise the factory is run; when it fails, the registry stays as it has left it.
  failed : w.fixture.registry.value? type = none → ∀ entered e ended,
    w.enter (.of type) = .ok entered →
    run factory.id (entered.emit [.fromFactory (.of type)]) = (.error e, ended) →
    (w.create catalog run type signature arguments).1 = .error e ∧
    (w.create catalog run type signature arguments).2.fixture.registry = ended.fixture.registry

section Creating

variable {catalog : Catalog E} {conduct : Conduct E} {run : Runner E} {type : TypeId}
  {recipe : Recipe} {factory : Factory} {w : World E}

/-- What creating a type with a singleton factory comes to: the answer, and the registry afterwards. -/
inductive CreatedShared (catalog : Catalog E) (run : Runner E) (type : TypeId) (factory : Factory)
    (w : World E) : Except Error Datum → Registry → Prop where
  -- The type is in progress already.
  | cyclic {e : Error} (h : .of type ∈ w.fixture.inProgress) :
      CreatedShared catalog run type factory w (.error e) w.fixture.registry
  -- There is a product, or some other value.
  | cached {datum : Datum} (h : w.fixture.registry.value? type = some datum) :
      CreatedShared catalog run type factory w (.ok datum) w.fixture.registry
  -- The factory failed.
  | failed {entered ended : World E} {e : Error} (h : w.fixture.registry.value? type = none)
      (henter : w.enter (.of type) = .ok entered)
      (hrun : run factory.id (entered.emit [.fromFactory (.of type)]) = (.error e, ended)) :
      CreatedShared catalog run type factory w (.error e) ended.fixture.registry
  -- The factory made a value, and it was registered.
  | made {entered ended : World E} {datum : Datum} (h : w.fixture.registry.value? type = none)
      (henter : w.enter (.of type) = .ok entered)
      (hrun : run factory.id (entered.emit [.fromFactory (.of type)]) = (.ok datum, ended)) :
      CreatedShared catalog run type factory w (.ok datum)
        (ended.fixture.registry.insertValue catalog.mockOf (.of type) (.value type datum)).1

/-- Once the type is in progress. -/
private theorem Obtained.createdShared {signature : Option Signature} {arguments : Option Arguments}
    {entered w' : World E} {answer : Except Error Datum}
    (hrecipe : w.fixture.recipe? type = some recipe) (hfactory : recipe.factory = some factory)
    (hproduct : factory.product = type) (hshare : recipe.sharedAs = some type)
    (henter : w.enter (.of type) = .ok entered)
    (h : Obtained catalog run type (.of type) signature arguments entered (answer, w')) :
    CreatedShared catalog run type factory w answer w'.fixture.registry := by
  obtain ⟨-, hentered⟩ := enter_eq_ok_iff.mp henter
  have hregistry : entered.fixture.registry = w.fixture.registry := by rw [hentered]; rfl
  have hrecipe' : entered.fixture.recipes.find? (.of type) = some recipe := by
    rw [hentered]
    exact hrecipe
  cases h with
  | cached hother _ hcached =>
    obtain rfl := Option.some.inj (hother.symm.trans hrecipe')
    rw [hshare, cached?_eq, hregistry] at hcached
    obtain ⟨datum, hvalue, rfl⟩ := Option.map_eq_some_iff.mp hcached
    rw [show downcast type (.value type datum) = .ok datum by simp [downcast],
      show (entered.emit _).fixture.registry = w.fixture.registry from hregistry]
    exact .cached hvalue
  | failed hother hmade hcached hrun =>
    obtain rfl := Option.some.inj (hother.symm.trans hrecipe')
    obtain rfl := Option.some.inj (hmade.symm.trans hfactory)
    rw [hshare, cached?_eq, hregistry, Option.map_eq_none_iff] at hcached
    exact .failed hcached henter hrun
  | unshared hother _ hunshared _ =>
    obtain rfl := Option.some.inj (hother.symm.trans hrecipe')
    rw [hshare] at hunshared
    cases hunshared
  | shared hother hmade hshared hcached hrun =>
    obtain rfl := Option.some.inj (hother.symm.trans hrecipe')
    obtain rfl := Option.some.inj (hmade.symm.trans hfactory)
    obtain rfl := Option.some.inj (hshared.symm.trans hshare)
    rw [cached?_eq, hregistry, Option.map_eq_none_iff] at hcached
    simp only [hproduct, shareAs?, Stored.value?_value_self, Option.map_some, downcast]
    exact .made hcached henter hrun
  | resolved hnone _ => cases hasFactory_of_recipe hrecipe' hfactory ▸ hnone

theorem createdShared (catalog : Catalog E) (run : Runner E)
    (hrecipe : w.fixture.recipe? type = some recipe) (hfactory : recipe.factory = some factory)
    (hproduct : factory.product = type) (hshare : recipe.sharedAs = some type)
    (signature : Option Signature) (arguments : Option Arguments) :
    CreatedShared catalog run type factory w (w.create catalog run type signature arguments).1
      (w.create catalog run type signature arguments).2.fixture.registry := by
  have hcreated := created catalog run type signature arguments w
  generalize w.create catalog run type signature arguments = result at hcreated ⊢
  cases hcreated with
  | cyclic henter => exact .cyclic (enter_eq_error_iff.mp henter).1
  | failed henter h =>
    have hshared := h.createdShared hrecipe hfactory hproduct hshare henter
    exact hshared
  | built henter h =>
    have hshared := h.createdShared hrecipe hfactory hproduct hshare henter
    rw [registry_created]
    exact hshared

/-- A value that can be read keeps every factory from being started. -/
theorem not_createStarts_of_value? {signature : Option Signature} {arguments : Option Arguments}
    (hrecipe : w.fixture.recipe? type = some recipe) (hfactory : recipe.factory = some factory)
    (hshare : recipe.sharedAs = some type) {held : Datum}
    (hheld : w.fixture.registry.value? type = some held) (id : FactoryId) (started : World E) :
    ¬CreateStarts catalog run type signature arguments w id started := by
  intro h
  cases h with
  | factory _ hother _ hcached =>
    obtain rfl := Option.some.inj (hother.symm.trans hrecipe)
    rw [hshare, cached?_eq, hheld] at hcached
    cases hcached
  | resolved _ hnone _ => cases hasFactory_of_recipe hrecipe hfactory ▸ hnone

/-- A product that is registered can be read, whatever the factory has done meanwhile. -/
theorem Reachable.value?_of_run (hw : Reachable catalog conduct w)
    (hrun : Scripted catalog conduct run) {key : Key} {entered ended : World E} {id : FactoryId}
    {answer : Except Error Datum} (henter : w.enter key = .ok entered)
    (hended : run id (entered.emit [.fromFactory key]) = (answer, ended)) (datum : Datum) :
    (ended.fixture.registry.insertValue catalog.mockOf (.of type) (.value type datum)).1.value? type =
      some datum := by
  obtain ⟨done, s, hdone, -, hworld⟩ :=
    (Sound.kept catalog conduct).ends hrun id (entered.emit [.fromFactory key])
  have hstarted : Sound catalog (entered.emit [.fromFactory key]) :=
    (hw.sound.enter henter).of_eq (Nat.le_refl _) rfl rfl rfl
  rw [hended] at hworld
  obtain rfl : ended = done.mapSurroundings fun _ => s := hworld
  have hcoherent := ((hdone hstarted).registry.useValue type datum).coherent
  refine (hcoherent.value?_eq_held? type).trans ?_
  refine (Registry.held?_insertValue catalog.mockOf ?_ type datum).trans (if_pos rfl)
  exact (hdone hstarted).registry.coherent.indexed

/-- **Creating a type with a singleton factory agrees with the value that can be read.** -/
theorem Reachable.cachesValue (hw : Reachable catalog conduct w)
    (hrun : Scripted catalog conduct run) (hrecipe : w.fixture.recipe? type = some recipe)
    (hfactory : recipe.factory = some factory) (hlifetime : recipe.lifetime = .singleton)
    (signature : Option Signature) (arguments : Option Arguments) :
    CachesValue catalog run type factory signature arguments w := by
  obtain ⟨hproduct, hshare⟩ := hw.sharedAs_eq hrecipe hfactory hlifetime
  have hcreated := createdShared catalog run hrecipe hfactory hproduct hshare signature arguments
  have hstarts {held : Datum} (hheld : w.fixture.registry.value? type = some held) :
      ∀ id started, ¬CreateStarts catalog run type signature arguments w id started :=
    not_createStarts_of_value? hrecipe hfactory hshare hheld
  -- Only the answer and the registry afterwards matter, and each part is read off how they come out.
  constructor
  all_goals
    generalize (w.create catalog run type signature arguments).1 = answer,
      (w.create catalog run type signature arguments).2.fixture.registry = after at hcreated ⊢
  · rintro datum rfl
    cases hcreated with
    | cached hvalue => exact hvalue
    | made _ henter hended => exact hw.value?_of_run hrun henter hended datum
  · intro held hheld
    cases hcreated with
    | cyclic hkey => exact ⟨nofun, fun hidle => absurd hkey hidle⟩
    | cached hvalue =>
      obtain rfl := Option.some.inj (hvalue.symm.trans hheld)
      exact ⟨fun datum hdatum => (Except.ok.inj hdatum).symm, fun _ => rfl⟩
    | failed hnone _ _ => cases hnone.symm.trans hheld
    | made hnone _ _ => cases hnone.symm.trans hheld
  · intro held hheld
    refine ⟨hstarts hheld, ?_⟩
    cases hcreated with
    | cyclic _ => rfl
    | cached _ => rfl
    | failed hnone _ _ => cases hnone.symm.trans hheld
    | made hnone _ _ => cases hnone.symm.trans hheld
  · intro hnone entered e ended henter hfailed
    cases hcreated with
    | cyclic hkey => exact absurd hkey (enter_eq_ok_iff.mp henter).1
    | cached hvalue => cases hnone.symm.trans hvalue
    | failed _ henter' hrun' =>
      obtain rfl := Except.ok.inj (henter'.symm.trans henter)
      obtain ⟨herror, rfl⟩ := Prod.mk.inj (hrun'.symm.trans hfailed)
      exact ⟨herror, rfl⟩
    | made _ henter' hrun' =>
      obtain rfl := Except.ok.inj (henter'.symm.trans henter)
      cases (Prod.mk.inj (hrun'.symm.trans hfailed)).1

end Creating

/-! ## Filling parameters -/

section Filling

variable (catalog : Catalog E) (run : Runner E)

/-- A parameter of the constructor that is resolved is come to, in the world `reached`: the parameters
before it have been filled, and `used` are the explicit arguments that this took. -/
inductive ResolveReaches (target : TypeId) (signature : Option Signature) (explicit : Arguments)
    (w : World E) (param : Param) : List Bool → World E → Prop where
  | intro {constructor : Constructor E} {position : Nat} {events : List Event}
      {earlier later : List Param} {injections : List Injection} {used : List Bool}
      {reached : World E}
      (hselect : w.fixture.select target (w.fixture.visible (catalog.constructors target))
        signature explicit = (.ok (constructor, position), events))
      (hparams : constructor.params = earlier ++ param :: later)
      (hearlier : (w.afterSelection events constructor).resolveParams catalog run target explicit
        earlier explicit.noneUsed = (.ok (injections, used), reached)) :
      ResolveReaches target signature explicit w param used reached

/-- A parameter is come to while an instance is created: there is no factory for the type, and a
constructor is resolved with the explicit arguments, or else with those that are stored. -/
inductive CreateReaches (target : TypeId) (signature : Option Signature)
    (arguments : Option Arguments) (w : World E) :
    Arguments → Param → List Bool → World E → Prop where
  | intro {entered reached : World E} {explicit : Arguments} {param : Param} {used : List Bool}
      (henter : w.enter (.of target) = .ok entered)
      (hfactory : w.fixture.hasFactory (.of target) = false)
      (hexplicit : explicit =
        (arguments.or ((w.fixture.recipes.find? (.of target)).bind Recipe.arguments)).getD {})
      (h : ResolveReaches catalog run target signature explicit entered param used reached) :
      CreateReaches target signature arguments w explicit param used reached

/-- A parameter is come to while a command is answered: one of a constructor of `target`, which is
resolved with these explicit arguments. -/
inductive Reaches : Command → World E → (target : TypeId) → (explicit : Arguments) → Param →
    List Bool → World E → Prop where
  | create {w reached : World E} {type : TypeId} {arguments : Option Arguments}
      {explicit : Arguments} {param : Param} {used : List Bool}
      (h : CreateReaches catalog run type none arguments w explicit param used reached) :
      Reaches (.create type arguments) w type explicit param used reached
  | createBySignature {w reached : World E} {type : TypeId} {signature : Signature}
      {explicit : Arguments} {param : Param} {used : List Bool}
      (h : CreateReaches catalog run type (some signature) none w explicit param used reached) :
      Reaches (.createBySignature type signature) w type explicit param used reached
  | resolve {w reached : World E} {type : TypeId} {signature : Option Signature}
      {explicit : Arguments} {param : Param} {used : List Bool}
      (h : ResolveReaches catalog run type signature explicit w param used reached) :
      Reaches (.resolve type signature explicit) w type explicit param used reached

variable {catalog run} {conduct : Conduct E} {R : World E → World E → Prop} {target : TypeId}
  {signature : Option Signature} {explicit : Arguments} {param : Param} {used : List Bool}
  {w reached : World E}

theorem Kept.resolveReaches (hkept : Kept catalog conduct R) (hends : Ends conduct R run)
    (h : ResolveReaches catalog run target signature explicit w param used reached) :
    R w reached := by
  obtain @⟨constructor, _, events, earlier, later, _, _, _, hselect, hparams, hearlier⟩ := h
  have hsubset : earlier ⊆ constructor.params := by
    rw [hparams]
    exact List.subset_append_left _ _
  have hselected := hkept.within.afterSelection constructor w (isTeardown_of_select hselect)
  have hfilled := hkept.within.resolveParams (Fixture.mem_of_select hselect) explicit hsubset
    explicit.noneUsed (w.afterSelection events constructor) fun id started _ => hends id started
  rw [hearlier] at hfilled
  exact hkept.trans hselected hfilled

/-- **What elementary changes and entering keep to leads to wherever a parameter is filled.** -/
theorem Kept.reaches (hkept : Kept catalog conduct R)
    (henter : ∀ {w w' : World E} {key : Key}, w.enter key = .ok w' → R w w')
    (hends : Ends conduct R run) {command : Command}
    (h : Reaches catalog run command w target explicit param used reached) : R w reached := by
  have hcreate {signature : Option Signature} {arguments : Option Arguments}
      (h : CreateReaches catalog run target signature arguments w explicit param used reached) :
      R w reached := by
    obtain ⟨hentered, -, -, h⟩ := h
    exact hkept.trans (henter hentered) (hkept.resolveReaches hends h)
  cases h with
  | create h => exact hcreate h
  | createBySignature h => exact hcreate h
  | resolve h => exact hkept.resolveReaches hends h

/-- A parameter for whose type a value can be read is filled with it, unless it has a name or there is
an explicit argument for it. -/
theorem Sound.resolveArgument_of_value? (h : Sound catalog w) (run : Runner E) (target : TypeId)
    {datum : Datum} (hvalue : w.fixture.registry.value? param.key.type = some datum)
    (hkey : param.key.name = none) (hexplicit : explicit.find? param.key.type used = none) :
    w.resolveArgument catalog run target explicit param used =
      (.ok (⟨param.name, param.key, .value, .value param.key.type datum⟩, used), w) := by
  have hunnamed : param.key = .of param.key.type := congrArg (Key.mk param.key.type) hkey
  have hlookup : w.fixture.registry.lookup param.key =
      some (.value param.key.type datum, .value) := by
    rw [hunnamed]
    exact h.registry.coherent.lookup_of_value? hvalue
  unfold resolveArgument
  rw [hexplicit, provide_of_lookup catalog run hlookup]
  rfl

end Filling

/-! ## Later on -/

/-- Wherever a parameter of the type is filled later on, in whatever command and inside whatever
factory: unless it has a name or there is an explicit argument for it, it is filled with the value, as
long as no note tells that something else has been registered for the type or that the fixture has been
torn down. -/
def StaysCached (catalog : Catalog E) (role : FactoryId → Role) (type : TypeId) (datum : Datum)
    (created : World (E × List Note)) : Prop :=
  ∀ w, Reachable (catalog.beside (List Note)) (Conduct.noting role) w →
    ∀ run, Scripted (catalog.beside (List Note)) (Conduct.noting role) run →
    ∀ command target explicit param used reached,
      Reaches (catalog.beside (List Note)) run command w target explicit param used reached →
      param.key = .of type → explicit.find? type used = none →
      ∀ later, reached.notes = created.notes ++ later →
        (∀ note ∈ later, note.registered? role type = none) →
        reached.resolveArgument (catalog.beside (List Note)) run target explicit param used =
          (.ok (⟨param.name, param.key, .value, .value type datum⟩, used), reached)

theorem Recounts.staysCached {catalog : Catalog E} {role : FactoryId → Role} {type : TypeId}
    {datum : Datum} {created : World (E × List Note)} (hcreated : Recounts role type created)
    (hheld : created.fixture.registry.held? type = some datum) :
    StaysCached catalog role type datum created := by
  intro w hw run hrun command target explicit param used reached hreaches hkey hexplicit later hnotes
    hquiet
  have htold : Told role type w reached := (kept_told catalog role type).reaches Told.enter
    ((upheld_told catalog role type).ends hrun) hreaches
  have hkept := Sound.kept (catalog.beside (List Note)) (Conduct.noting role)
  have hsound : Sound (catalog.beside (List Note)) reached :=
    hkept.reaches (fun henter h => h.enter henter) (hkept.ends hrun) hreaches hw.sound
  -- The notes up to the creation tell the value, and those after it leave it.
  have hreached := (htold.recounts (hw.recounts type)).held?_eq
  rw [hnotes, List.foldl_append, ← hcreated.held?_eq, hheld,
    Note.foldl_valueAfter_of_quiet _ hquiet, ← hsound.registry.coherent.value?_eq_held?] at hreached
  obtain rfl : param.key.type = type := congrArg Key.type hkey
  exact hsound.resolveArgument_of_value? run target hreached (congrArg Key.name hkey) hexplicit

/-- **A singleton and the value that is registered for its type agree.** In every world that comes up in
runs, and whatever the factory does: creating a type with a singleton factory hands out what can be read
afterwards; what could be read before is handed out without running a factory or registering anything;
and a factory that fails leaves nothing behind but what it has registered itself. From then on the same
value fills every parameter of the type that asks for it under no name and without an argument, until
something is registered under the key of the type or the fixture is torn down. -/
theorem singleton_value (catalog : Catalog E) :
    (∀ conduct w, Reachable catalog conduct w →
      ∀ type recipe factory, w.fixture.recipe? type = some recipe →
      recipe.factory = some factory → recipe.lifetime = .singleton →
      ∀ run, Scripted catalog conduct run → ∀ signature arguments,
        CachesValue catalog run type factory signature arguments w) ∧
    (∀ role w, Reachable (catalog.beside (List Note)) (Conduct.noting role) w →
      ∀ type recipe factory, w.fixture.recipe? type = some recipe →
      recipe.factory = some factory → recipe.lifetime = .singleton →
      ∀ run, Scripted (catalog.beside (List Note)) (Conduct.noting role) run →
      ∀ signature arguments datum created,
        w.create (catalog.beside (List Note)) run type signature arguments = (.ok datum, created) →
        StaysCached catalog role type datum created) := by
  constructor
  · intro conduct w hw type recipe factory hrecipe hfactory hlifetime run hrun signature arguments
    exact hw.cachesValue hrun hrecipe hfactory hlifetime signature arguments
  · intro role w hw type recipe factory hrecipe hfactory hlifetime run hrun signature arguments datum
      created hcreate
    have hread := (hw.cachesValue hrun hrecipe hfactory hlifetime signature arguments).read datum
    have hkept := Sound.kept (catalog.beside (List Note)) (Conduct.noting role)
    have hsound := hkept.create (hkept.ends hrun) type signature arguments w hw.sound
    have htold : Told role type w _ := (kept_told catalog role type).create
      ((upheld_told catalog role type).ends hrun) type signature arguments w
    rw [hcreate] at hread hsound htold
    refine (htold.recounts (hw.recounts type)).staysCached ?_
    rw [← hsound.registry.coherent.value?_eq_held?]
    exact hread rfl

/-- The factory of a gadget registers another value for it and has itself replaced by a transient one;
its product is handed out and fills the parameter of a service all the same. A gadget for which the test
has a value is not made; a factory that fails leaves nothing behind. -/
theorem singleton_value_replaced :
    let gadget : TypeId := ⟨"Gadget"⟩
    let broken : TypeId := ⟨"Broken"⟩
    let service : TypeId := ⟨"Service"⟩
    let new : Declaration := { name := "new", params := [.concrete "gadget" gadget] }
    let catalog : Catalog Unit := ⟨id, fun _ => .null, fun _ => [.ofFunction new fun _ => .ok .null]⟩
    let role : FactoryId → Role := fun id =>
      ⟨if id = ⟨2⟩ then broken else gadget, if id = ⟨1⟩ then .transient else .singleton⟩
    let failure : Error := .constructionFailed broken (.stated "it is broken")
    let answer : FactoryId → Except Error Datum := fun id =>
      if id = ⟨0⟩ then .ok (.int 7) else .error failure
    let run := acting catalog (silent answer)
      (fun id => if id = ⟨0⟩ then [.useValue gadget (.int 1), .addType gadget .transient ⟨1⟩] else [])
      answer
    let start : World (Unit × List Note) := { surroundings := ((), []) }
    let w := [Command.addType gadget .singleton ⟨0⟩, .addType broken .singleton ⟨2⟩].foldl
      (noted catalog run) start
    let given := w.noted catalog run (.useValue gadget (.int 3))
    let reached := (w.noted catalog run (.create gadget none)).afterSelection []
      (.ofFunction new fun _ => .ok .null)
    let create := fun type (w : World (Unit × List Note)) =>
      w.create (catalog.beside (List Note)) run type none none
    (create gadget w).1 = .ok (.int 7) ∧
      (create gadget w).2.fixture.registry.value? gadget = some (.int 7) ∧
      (create gadget given).1 = .ok (.int 3) ∧
      (∀ id started, ¬CreateStarts (catalog.beside (List Note)) run gadget none none given id started) ∧
      (create gadget given).2.fixture.registry = given.fixture.registry ∧
      (create broken w).1 = .error failure ∧
      (create broken w).2.fixture.registry = w.fixture.registry ∧
      StaysCached catalog role gadget (.int 7) (create gadget w).2 ∧
      reached.resolveArgument (catalog.beside (List Note)) run service {} (.concrete "gadget" gadget)
          [] =
        (.ok (⟨"gadget", .of gadget, .value, .value gadget (.int 7)⟩, []), reached) := by
  intro gadget broken service new catalog role failure answer run start w given reached create
  have hsilent : Scripted (catalog.beside (List Note)) (Conduct.noting role) (silent answer) :=
    scripted_silent _ role answer
  have hrun : Scripted (catalog.beside (List Note)) (Conduct.noting role) run := by
    refine hsilent.acting (fun id command hcommand s => ?_) answer
    split at hcommand
    · simp only [List.mem_cons, List.not_mem_nil, or_false] at hcommand
      rcases hcommand with rfl | rfl <;> rintro type lifetime other ⟨⟩
      rfl
    · cases hcommand
  have hstart : Reachable (catalog.beside (List Note)) (Conduct.noting role) start :=
    Fresh.reachable ⟨⟨{}, rfl⟩, rfl⟩
  have hw : Reachable (catalog.beside (List Note)) (Conduct.noting role) w := by
    refine (hstart.noted hrun ?_).noted hrun ?_ <;> rintro type lifetime id ⟨⟩ <;> rfl
  have hgiven : Reachable (catalog.beside (List Note)) (Conduct.noting role) given :=
    hw.noted hrun nofun
  have hready : Reachable (catalog.beside (List Note)) (Conduct.noting role)
      (w.noted catalog run (.create gadget none)) := hw.noted hrun nofun
  obtain ⟨-, hstays⟩ := singleton_value catalog
  obtain ⟨hcaches, -⟩ := singleton_value (catalog.beside (List Note))
  have hmade : (create gadget w).1 = .ok (.int 7) := rfl
  have hread := (hcaches _ w hw gadget _ _ rfl rfl rfl run hrun none none).read _ hmade
  have hheld := hcaches _ given hgiven gadget _ _ rfl rfl rfl run hrun none none
  have hfailed := (hcaches _ w hw broken _ _ rfl rfl rfl run hrun none none).failed rfl _ _ _ rfl rfl
  have hstays := hstays role w hw gadget _ _ rfl rfl rfl run hrun none none (.int 7)
    (create gadget w).2 (Prod.ext hmade rfl)
  refine ⟨hmade, hread, (hheld.handed _ rfl).2 (by decide), (hheld.spared _ rfl).1,
    (hheld.spared _ rfl).2, hfailed.1, hfailed.2, hstays, ?_⟩
  have hparams : new.params = [] ++ .concrete "gadget" gadget :: [] := rfl
  have hreaches : Reaches (catalog.beside (List Note)) run
      (.resolve service (some (.ofTypes [gadget])) {}) (w.noted catalog run (.create gadget none))
      service {} (.concrete "gadget" gadget) [] reached := .resolve (.intro rfl hparams rfl)
  refine hstays _ hready run hrun _ service {} _ [] reached hreaches rfl rfl
    [.answered (.create gadget none) (.ok (.instanceOf (.int 7)))] rfl ?_
  rintro note hnote
  obtain rfl := List.mem_singleton.mp hnote
  rfl

end World

end TestDoubles
