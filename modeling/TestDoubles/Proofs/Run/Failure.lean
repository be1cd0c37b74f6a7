import TestDoubles.Proofs.Run.Sound

/-!
# Where errors come from

A command fails for a reason of its own or because code outside the library did: a factory that it
started, or the function of a constructor that it called. Here the errors of the first kind are listed.
What is not on the list is never complained of by the library: that a factory made a value of another
type or is missing, that a double cannot be found where it was just registered, that a dependency cannot
be filled although there is always a double or a default for it.

- `World.resolveParams_eq_error` finds the parameter that could not be filled, and `World.Unfillable`
  lists the reasons.
- `World.Invokes` holds of the calls of constructors, as `World.Starts` does of those of factories.
- `World.Reported` lists the errors that the library reports on its own account, and
  `World.Explained` adds those that it passes on; `World.Sound.explained` shows that there are no
  others.
- `World.stored_by_type` puts together what is stored, what is read and what is complained of.
-/

namespace TestDoubles

namespace World

variable {E : Type}

/-! ## The parameter that cannot be filled -/

section Parameters

variable {catalog : Catalog E} {run : Runner E} {target : TypeId} {explicit : Arguments}

/-- Filling parameters fails at the first that cannot be filled, after those before it. -/
theorem resolveParams_eq_error {params : List Param} {used : List Bool} {w w' : World E} {e : Error}
    (h : w.resolveParams catalog run target explicit params used = (.error e, w')) :
    ∃ earlier param later injections used₁ w₁, params = earlier ++ param :: later ∧
      w.resolveParams catalog run target explicit earlier used =
        (.ok (injections, used₁), w₁) ∧
      w₁.resolveArgument catalog run target explicit param used₁ = (.error e, w') := by
  induction params generalizing used w with
  | nil => cases (Prod.mk.inj h).1
  | cons param params ih =>
    unfold World.resolveParams at h
    split at h
    next e₁ w₁ hfirst =>
      obtain ⟨herror, rfl⟩ := Prod.mk.inj h
      obtain rfl := Except.error.inj herror
      exact ⟨[], param, params, [], used, w, rfl, rfl, hfirst⟩
    next injection used₁ w₁ hfirst =>
      dsimp only at h
      split at h
      next e₂ w₂ hlater =>
        obtain ⟨herror, rfl⟩ := Prod.mk.inj h
        obtain rfl := Except.error.inj herror
        obtain ⟨earlier, failing, later, injections, used₂, w₃, rfl, hearlier, hfails⟩ := ih hlater
        refine ⟨param :: earlier, failing, later, injection :: injections, used₂, w₃, rfl, ?_,
          hfails⟩
        simp only [World.resolveParams, hfirst, hearlier]
      next => cases (Prod.mk.inj h).1

/-- The parameters of a selected constructor are filled up to one that cannot be, and the operations
keep to their relation on the way there and after it. -/
theorem Kept.unfilled {conduct : Conduct E} {R : World E → World E → Prop}
    (hkept : Kept catalog conduct R) (hends : Ends conduct R run) {signature : Option Signature}
    {constructor : Constructor E} {position : Nat} {events : List Event} {w w' : World E} {e : Error}
    (hselect : w.fixture.select target (w.fixture.visible (catalog.constructors target)) signature
      explicit = (.ok (constructor, position), events))
    (hparams : (w.afterSelection events constructor).resolveParams catalog run target explicit
      constructor.params explicit.noneUsed = (.error e, w')) :
    ∃ earlier param later injections used w₁, constructor.params = earlier ++ param :: later ∧
      (w.afterSelection events constructor).resolveParams catalog run target explicit earlier
        explicit.noneUsed = (.ok (injections, used), w₁) ∧
      w₁.resolveArgument catalog run target explicit param used = (.error e, w') ∧
      R w w₁ ∧ R w₁ w' := by
  obtain ⟨earlier, param, later, injections, used, w₁, hsplit, hearlier, hfails⟩ :=
    resolveParams_eq_error hparams
  have hconstructor := Fixture.mem_of_select hselect
  have hmem : param ∈ constructor.params := by simp [hsplit]
  have hbefore : earlier ⊆ constructor.params := by simp [hsplit]
  have hselected := hkept.within.afterSelection constructor w (isTeardown_of_select hselect)
  have hfilled := hkept.within.resolveParams hconstructor explicit hbefore explicit.noneUsed
    (w.afterSelection events constructor) fun id started _ => hends id started
  rw [hearlier] at hfilled
  have hfailed := hkept.within.resolveArgument hconstructor hmem explicit used w₁
    fun _ _ id started _ => hends id started
  rw [hfails] at hfailed
  exact ⟨earlier, param, later, injections, used, w₁, hsplit, hearlier, hfails,
    hkept.trans hselected hfilled, hfailed⟩

/-- A factory that starts for a later parameter starts after those before it. -/
theorem ParamsStart.append {earlier params : List Param} {used used₁ : List Bool}
    {w w₁ started : World E} {injections : List Injection} {id : FactoryId}
    (hearlier : w.resolveParams catalog run target explicit earlier used =
      (.ok (injections, used₁), w₁))
    (h : ParamsStart catalog run target explicit params used₁ w₁ id started) :
    ParamsStart catalog run target explicit (earlier ++ params) used w id started := by
  induction earlier generalizing used w injections with
  | nil =>
    obtain ⟨hok, rfl⟩ := Prod.mk.inj hearlier
    obtain ⟨-, rfl⟩ := Prod.mk.inj (Except.ok.inj hok)
    exact h
  | cons param earlier ih =>
    obtain ⟨injection, used₂, w₂, later, hfirst, hlater, -⟩ := resolveParams_cons_eq_ok hearlier
    exact .there hfirst (ih hlater)

/-- Why a parameter cannot be filled. -/
inductive Unfillable (run : Runner E) (target : TypeId) (param : Param) (w : World E) :
    Error → Prop where
  -- A double is to be created under the empty name.
  | nameless (hkind : param.kind = .capability) (hname : param.key.name = some "") :
      Unfillable run target param w (.invalidArgument (.emptyMockName param.key.type))
  -- It is a plain value, there is no factory for it, and the options allow no default.
  | missing (hkind : param.kind = .value)
      (hfactory : w.fixture.hasFactory param.key.unnamed = false)
      (hdefaults : w.fixture.options.defaultValues = false) :
      Unfillable run target param w (.unresolvableParameter target param.name param.key)
  -- The factory of its type is running.
  | cyclic (hfactory : w.fixture.hasFactory param.key.unnamed)
      (hprogress : param.key.unnamed ∈ w.fixture.inProgress) :
      Unfillable run target param w
        (.circularDependency (.through (w.fixture.inProgress ++ [param.key.unnamed])))
  -- The factory of its type has failed.
  | failed {id : FactoryId} {started : World E} {e : Error}
      (hstarts : ProduceStarts param.key.unnamed w id started)
      (hfails : (run id started).1 = .error e) : Unfillable run target param w e

/-- **A parameter that cannot be filled** has neither an argument nor an entry, and it is one of the
reasons. -/
theorem unfillable {w w' : World E} {param : Param} {used : List Bool} {e : Error}
    (h : w.fixture.registry.Indexed)
    (hresolve : w.resolveArgument catalog run target explicit param used = (.error e, w')) :
    explicit.find? param.key.type used = none ∧ w.fixture.registry.lookup param.key = none ∧
      Unfillable run target param w e := by
  have hresolved := resolved catalog run target explicit param used w
  rw [hresolve] at hresolved
  cases hresolved with
  | failed hexplicit hprovided =>
    cases hprovided with
    | failed hlookup hproduced =>
      refine ⟨hexplicit, hlookup, ?_⟩
      cases hproduced with
      | cyclic hrecipe hfactory henter =>
        obtain ⟨hprogress, rfl⟩ := enter_eq_error_iff.mp henter
        exact .cyclic (hasFactory_of_recipe hrecipe hfactory) hprogress
      | failed hrecipe hfactory henter hrun =>
        exact .failed ⟨hrecipe, hfactory, henter⟩ (by rw [hrun])
    | fellBack hlookup hfactory hfellBack =>
      refine ⟨hexplicit, hlookup, ?_⟩
      cases hfellBack with
      | refused hkind hcreate =>
        obtain ⟨herror, -⟩ := Prod.mk.inj hcreate
        have hrequested := Registry.requested catalog.mockOf h ⟨w.allocated⟩ param.key.type
          param.key.name
        obtain ⟨hname, rfl⟩ := hrequested.nameless_of_lookup h hlookup herror
        exact .nameless hkind hname
      | unresolvable hkind hdefaults => exact .missing hkind hfactory hdefaults

end Parameters

/-! ## Where constructors are called -/

section Calls

variable (catalog : Catalog E) (run : Runner E)

/-- The function of a constructor is called while a constructor is resolved. -/
inductive ResolveInvokes (target : TypeId) (signature : Option Signature) (explicit : Arguments)
    (w : World E) : Constructor E → Intake → E → Prop where
  | intro {constructor : Constructor E} {position : Nat} {events : List Event}
      {injections : List Injection} {used : List Bool} {w' : World E}
      (hselect : w.fixture.select target (w.fixture.visible (catalog.constructors target))
        signature explicit = (.ok (constructor, position), events))
      (hparams : (w.afterSelection events constructor).resolveParams catalog run target explicit
        constructor.params explicit.noneUsed = (.ok (injections, used), w')) :
      ResolveInvokes target signature explicit w constructor ⟨target, injections⟩ w'.surroundings

/-- The function of a constructor is called while an instance is created. -/
inductive CreateInvokes (target : TypeId) (signature : Option Signature)
    (arguments : Option Arguments) (w : World E) : Constructor E → Intake → E → Prop where
  | intro {entered : World E} {constructor : Constructor E} {intake : Intake} {s : E}
      (henter : w.enter (.of target) = .ok entered)
      (hfactory : w.fixture.hasFactory (.of target) = false)
      (h : ResolveInvokes catalog run target signature
        ((arguments.or ((w.fixture.recipes.find? (.of target)).bind Recipe.arguments)).getD {})
        entered constructor intake s) :
      CreateInvokes target signature arguments w constructor intake s

/-- The function of a constructor is called while a command is answered, in the surroundings `s`. -/
inductive Invokes : Command → World E → Constructor E → Intake → E → Prop where
  | create {w : World E} {constructor : Constructor E} {intake : Intake} {s : E} {type : TypeId}
      {arguments : Option Arguments}
      (h : CreateInvokes catalog run type none arguments w constructor intake s) :
      Invokes (.create type arguments) w constructor intake s
  | createBySignature {w : World E} {constructor : Constructor E} {intake : Intake} {s : E}
      {type : TypeId} {signature : Signature}
      (h : CreateInvokes catalog run type (some signature) none w constructor intake s) :
      Invokes (.createBySignature type signature) w constructor intake s
  | resolve {w : World E} {constructor : Constructor E} {intake : Intake} {s : E} {type : TypeId}
      {signature : Option Signature} {explicit : Arguments}
      (h : ResolveInvokes catalog run type signature explicit w constructor intake s) :
      Invokes (.resolve type signature explicit) w constructor intake s

/-! ## Errors by origin -/

/-- The errors that the library reports on its own account. -/
inductive Reported : Error → Prop where
  | refused {e : Error} (h : Registry.Refused e) : Reported e
  | frozenRecipe (target : Key) : Reported (.invalidArgument (.frozenRecipe target))
  | noneMatches (target : TypeId) (signature : Signature) :
      Reported (.ambiguousConstructor target (.noneMatches signature))
  | severalMatch (target : TypeId) (count : Nat) (signature : Signature) :
      Reported (.ambiguousConstructor target (.severalMatch count signature))
  | noResolvableConstructor (target : TypeId) (blocked : List Obstacle) :
      Reported (.noResolvableConstructor target blocked)
  -- Only plain values can be missing.
  | unresolvableParameter {target : TypeId} {constructor : Constructor E} {param : Param}
      (hconstructor : constructor ∈ catalog.constructors target)
      (hparam : param ∈ constructor.params) (hkind : param.kind = .value) :
      Reported (.unresolvableParameter target param.name param.key)
  | circularDependency (keys : List Key) : Reported (.circularDependency (.through keys))

/-- The library reports the error, or passes it on: a factory failed with it that was started, or the
function of a constructor that was called. -/
inductive Explained (starts : FactoryId → World E → Prop)
    (invokes : Constructor E → Intake → E → Prop) (e : Error) : Prop where
  | reported (h : Reported catalog e)
  | factory {id : FactoryId} {started : World E} (hstarts : starts id started)
      (hfails : (run id started).1 = .error e)
  | constructor {constructor : Constructor E} {intake : Intake} {s : E}
      (hinvokes : invokes constructor intake s) (hfails : (constructor.build intake s).1 = .error e)

end Calls

/-! ## Errors of single operations -/

section Errors

variable {catalog : Catalog E} {conduct : Conduct E} {run : Runner E} {w w' : World E} {e : Error}

theorem reported_of_enter {key : Key} (h : w.enter key = .error e) : Reported catalog e := by
  obtain ⟨-, rfl⟩ := enter_eq_error_iff.mp h
  exact .circularDependency _

theorem reported_of_select {target : TypeId} {candidates : List (Constructor E)}
    {signature : Option Signature} {explicit : Arguments} {events : List Event}
    (h : w.fixture.select target candidates signature explicit = (.error e, events)) :
    Reported catalog e := by
  cases signature with
  | some signature =>
    have hexact : Fixture.selectExact target candidates signature = .error e := (Prod.mk.inj h).1
    unfold Fixture.selectExact at hexact
    split at hexact
    · cases hexact
    · exact Except.error.inj hexact ▸ .noneMatches target signature
    · exact Except.error.inj hexact ▸ .severalMatch target _ signature
  | none =>
    have hgreedy : w.fixture.selectGreedy target candidates explicit = .error e :=
      (Prod.mk.inj h).1
    unfold Fixture.selectGreedy at hgreedy
    split at hgreedy
    · cases hgreedy
    · exact Except.error.inj hgreedy ▸ .noResolvableConstructor target _

/-- A parameter cannot be filled because its factory fails, or for a reason that is reported. -/
theorem Unfillable.explained {target : TypeId} {constructor : Constructor E} {param : Param}
    (h : Unfillable run target param w e) (hconstructor : constructor ∈ catalog.constructors target)
    (hparam : param ∈ constructor.params) {invokes : Constructor E → Intake → E → Prop} :
    Explained catalog run (ProduceStarts param.key.unnamed w) invokes e := by
  cases h with
  | nameless _ _ => exact .reported (.refused (.emptyMockName _))
  | missing hkind _ _ => exact .reported (.unresolvableParameter hconstructor hparam hkind)
  | cyclic _ _ => exact .reported (.circularDependency _)
  | failed hstarts hfails => exact .factory hstarts hfails

theorem Explained.imp {starts starts' : FactoryId → World E → Prop}
    {invokes invokes' : Constructor E → Intake → E → Prop}
    (h : Explained catalog run starts invokes e)
    (hstarts : ∀ id started, starts id started → starts' id started)
    (hinvokes : ∀ constructor intake s, invokes constructor intake s →
      invokes' constructor intake s) : Explained catalog run starts' invokes' e := by
  cases h with
  | reported h => exact .reported h
  | factory h hfails => exact .factory (hstarts _ _ h) hfails
  | constructor h hfails => exact .constructor (hinvokes _ _ _ h) hfails

theorem Sound.explained_resolve (h : Sound catalog w) (hrun : Scripted catalog conduct run)
    {target : TypeId} {signature : Option Signature} {explicit : Arguments}
    (hbuilt : Built catalog run target signature explicit w (.error e, w')) :
    Explained catalog run (ResolveStarts catalog run target signature explicit w)
      (ResolveInvokes catalog run target signature explicit w) e := by
  cases hbuilt with
  | unselected hselect => exact .reported (reported_of_select hselect)
  | unfilled hselect hparams =>
    have hkept := Sound.kept catalog conduct
    obtain ⟨earlier, param, later, injections, used, w₁, hsplit, hearlier, hfails, hreached, -⟩ :=
      hkept.unfilled (hkept.ends hrun) hselect hparams
    -- The world is still sound when the parameters before this one have been filled.
    have hindexed := (hreached h).registry.coherent.indexed
    obtain ⟨hexplicit, hlookup, hunfillable⟩ := unfillable hindexed hfails
    have hconstructor := Fixture.mem_of_select hselect
    refine (hunfillable.explained hconstructor (by simp [hsplit])).imp ?_ fun _ _ _ h => h
    intro id started hstarts
    exact ⟨hselect, hsplit ▸ .append hearlier (.here hexplicit hlookup hstarts)⟩
  | failed hselect hparams hbuild => exact .constructor ⟨hselect, hparams⟩ (by rw [hbuild])

/-- What a factory makes can be handed out as an instance of the type of its recipe. -/
theorem Sound.downcast_eq_ok (h : Sound catalog w) {target : TypeId} {recipe : Recipe}
    {factory : Factory} (hrecipe : w.fixture.recipes.find? (.of target) = some recipe)
    (hfactory : recipe.factory = some factory) (datum : Datum) :
    downcast target (.value factory.product datum) = .ok datum := by
  obtain ⟨hkey, -⟩ := h.recipes _ recipe hrecipe factory hfactory
  rw [← Key.of_inj.mp hkey]
  simp [downcast]

theorem Sound.explained_obtained (h : Sound catalog w) (hrun : Scripted catalog conduct run)
    {target : TypeId} {signature : Option Signature} {arguments : Option Arguments}
    {entered : World E} (henter : w.enter (.of target) = .ok entered)
    (hobtained : Obtained catalog run target (.of target) signature arguments entered
      (.error e, w')) :
    Explained catalog run (CreateStarts catalog run target signature arguments w)
      (CreateInvokes catalog run target signature arguments w) e := by
  have hentered := h.enter henter
  obtain ⟨-, hworld⟩ := enter_eq_ok_iff.mp henter
  generalize hresult : (Except.error e, w') = result at hobtained
  cases hobtained with
  | @cached recipe factory value hrecipe hfactory hcached =>
    -- What is handed out again is of the type of the recipe.
    obtain ⟨type, hshare, hfound⟩ := Option.bind_eq_some_iff.mp hcached
    obtain ⟨found, -, hshared⟩ := Option.bind_eq_some_iff.mp hfound
    obtain ⟨datum, -, rfl⟩ := Option.map_eq_some_iff.mp hshared
    obtain ⟨-, hfits⟩ := hentered.recipes _ recipe hrecipe factory hfactory
    rw [hfits type hshare, hentered.downcast_eq_ok hrecipe hfactory] at hresult
    cases (Prod.mk.inj hresult).1
  | @failed recipe factory _ _ hrecipe hfactory hcached hrun =>
    obtain ⟨herror, -⟩ := Prod.mk.inj hresult
    obtain rfl := Except.error.inj herror
    rw [hworld] at hrecipe hcached
    exact .factory (.factory henter hrecipe hfactory hcached) (by rw [hrun])
  | unshared hrecipe hfactory _ _ =>
    rw [hentered.downcast_eq_ok hrecipe hfactory] at hresult
    cases (Prod.mk.inj hresult).1
  | @shared recipe factory type datum _ hrecipe hfactory hshare _ _ =>
    obtain ⟨-, hfits⟩ := hentered.recipes _ recipe hrecipe factory hfactory
    rw [hfits type hshare] at hresult
    have hdowncast := hentered.downcast_eq_ok hrecipe hfactory datum
    simp [shareAs?, hdowncast] at hresult
  | @resolved resolved _ hfactory hbuilt =>
    rcases resolved with e' | _
    · obtain ⟨herror, rfl⟩ := Prod.mk.inj hresult
      obtain rfl := Except.error.inj herror
      have hown : w.fixture.hasFactory (.of target) = false := by rwa [hworld] at hfactory
      have hrecipes : entered.fixture.recipes = w.fixture.recipes := by rw [hworld]; rfl
      rw [hrecipes] at hbuilt
      refine (hentered.explained_resolve hrun hbuilt).imp ?_ ?_
      · exact fun id started hstarts => .resolved henter hown hstarts
      · exact fun constructor intake s hinvokes => ⟨henter, hown, hinvokes⟩
    · cases (Prod.mk.inj hresult).1

theorem Sound.explained_create (h : Sound catalog w) (hrun : Scripted catalog conduct run)
    {target : TypeId} {signature : Option Signature} {arguments : Option Arguments}
    (herror : (w.create catalog run target signature arguments).1 = .error e) :
    Explained catalog run (CreateStarts catalog run target signature arguments w)
      (CreateInvokes catalog run target signature arguments w) e := by
  have hcreated := created catalog run target signature arguments w
  generalize w.create catalog run target signature arguments = result at herror hcreated
  cases hcreated with
  | cyclic henter =>
    obtain rfl := Except.error.inj herror
    exact .reported (reported_of_enter henter)
  | failed henter hobtained =>
    obtain rfl := Except.error.inj herror
    exact h.explained_obtained hrun henter hobtained
  | built _ _ => cases herror

theorem eq_error_of_map {α β : Type} {f : α → β} {answer : Except Error α}
    (h : answer.map f = .error e) : answer = .error e := by
  cases answer with
  | error e' => exact Except.error.inj h ▸ rfl
  | ok a => cases h

/-- An operation that asks for a double is refused for one of the listed reasons. -/
theorem Sound.reported_register (h : Sound catalog w)
    {operation : Registry → Ref → Registry.Outcome Mock}
    (hasks : ∀ r fresh, Registry.Asks catalog.mockOf r fresh (operation r fresh))
    (herror : (w.register operation).1 = .error e) : Reported catalog e := by
  unfold World.register at herror
  split at herror
  next => cases herror
  next e' w₁ hoperation =>
    obtain ⟨hresult, -⟩ := Prod.mk.inj hoperation
    obtain rfl := Except.error.inj herror
    exact .refused ((hasks w.fixture.registry ⟨w.allocated⟩).refused h.registry.coherent hresult)

/-- A change of a recipe is refused because the recipe is fixed. -/
theorem reported_changeRecipe {type : TypeId} {change : Recipe → Except Error Recipe}
    (hchange : ∀ recipe, change recipe = .error e → Reported catalog e)
    (herror : (w.changeRecipe type change).1 = .error e) : Reported catalog e := by
  unfold World.changeRecipe at herror
  split at herror
  next e' hfails =>
    obtain rfl := Except.error.inj herror
    exact hchange _ hfails
  next => cases herror

theorem reported_of_change {recipe : Recipe} {f : Recipe → Recipe}
    (h : recipe.change f = .error e) : Reported catalog e := by
  unfold Recipe.change at h
  split at h
  · exact Except.error.inj h ▸ .frozenRecipe recipe.target
  · cases h

/-- Commands that create no instance report errors of their own only. -/
theorem Sound.reported_direct (h : Sound catalog w) {command : Command}
    (hdirect : command.isDirect) (herror : (w.perform catalog run command).1 = .error e) :
    Reported catalog e := by
  cases command with
  | getMock capability name =>
    exact h.reported_register (fun r fresh => .getOrCreateMock capability name)
      (eq_error_of_map herror)
  | getObject capability =>
    have hobject : (w.getObject catalog.mockOf capability).1 = .error e := eq_error_of_map herror
    unfold World.getObject at hobject
    split at hobject
    · cases hobject
    · split at hobject
      · cases hobject
      next hmock =>
        obtain rfl := Except.error.inj hobject
        exact h.reported_register (fun r fresh => .getOrCreateMock capability none)
          (congrArg Prod.fst hmock)
  | addCustomMock capability name =>
    exact h.reported_register (fun r fresh => .addCustomMock capability name)
      (eq_error_of_map herror)
  | combine capability other =>
    exact h.reported_register (fun r fresh => .combine capability other) (eq_error_of_map herror)
  | addType type lifetime id =>
    have hadd : (w.addType type lifetime id).1 = .error e := eq_error_of_map herror
    refine reported_changeRecipe (fun recipe hfails => ?_) hadd
    split at hfails
    next e' hset => exact Except.error.inj hfails ▸ reported_of_change hset
    next => cases lifetime <;> cases hfails
  | setArguments type arguments =>
    exact reported_changeRecipe (fun recipe => reported_of_change) (eq_error_of_map herror)
  | useInstance _ _ => cases herror
  | useValue _ _ => cases herror
  | reset => cases herror
  | create _ _ => exact absurd hdirect (by simp [Command.isDirect])
  | createBySignature _ _ => exact absurd hdirect (by simp [Command.isDirect])
  | resolve _ _ _ => exact absurd hdirect (by simp [Command.isDirect])

/-- **Every error is explained**: the library reports it, or code outside the library has failed with
it. -/
theorem Sound.explained (h : Sound catalog w) (hrun : Scripted catalog conduct run)
    {command : Command} (herror : (w.perform catalog run command).1 = .error e) :
    Explained catalog run (Starts catalog run command w) (Invokes catalog run command w) e := by
  by_cases hdirect : command.isDirect
  · exact .reported (h.reported_direct hdirect herror)
  · cases command with
    | create type arguments =>
      refine (h.explained_create hrun (eq_error_of_map herror)).imp ?_ ?_
      · exact fun id started => .create
      · exact fun constructor intake s => .create
    | createBySignature type signature =>
      refine (h.explained_create hrun (eq_error_of_map herror)).imp ?_ ?_
      · exact fun id started => .createBySignature
      · exact fun constructor intake s => .createBySignature
    | resolve type signature explicit =>
      have hfails : (w.resolve catalog run type signature explicit).1 = .error e :=
        eq_error_of_map herror
      have hbuilt := built catalog run type signature explicit w
      rcases hresolve : w.resolve catalog run type signature explicit with ⟨answer, w₁⟩
      rw [hresolve] at hbuilt hfails
      obtain rfl : answer = .error e := hfails
      refine (h.explained_resolve hrun hbuilt).imp ?_ ?_
      · exact fun id started => .resolve
      · exact fun constructor intake s => .resolve
    | _ => exact absurd rfl hdirect

end Errors

/-! ## What constructors receive -/

section Storage

variable {catalog : Catalog E} {conduct : Conduct E} {run : Runner E} {w : World E}

theorem Sound.matches_of_resolveInvokes (h : Sound catalog w)
    (hrun : Scripted catalog conduct run) {target : TypeId} {signature : Option Signature}
    {explicit : Arguments} {constructor : Constructor E} {intake : Intake} {s : E}
    (hinvokes : ResolveInvokes catalog run target signature explicit w constructor intake s) :
    intake.Matches constructor.params := by
  obtain ⟨hselect, hparams⟩ := hinvokes
  have hkept := Sound.kept catalog conduct
  have hselected := hkept.within.afterSelection constructor w (isTeardown_of_select hselect)
  have hinjected := hkept.within.injected (Fixture.mem_of_select hselect) (List.Subset.refl _)
    (fun id started _ => hkept.ends hrun id started) hselected hparams
  refine Intake.matches_of_suits (hinjected.imp ?_)
  rintro param injection ⟨_, _, _, _, hreached, hresolved⟩
  exact (hreached h).suits hresolved

theorem Sound.matches (h : Sound catalog w) (hrun : Scripted catalog conduct run)
    {command : Command} {constructor : Constructor E} {intake : Intake} {s : E}
    (hinvokes : Invokes catalog run command w constructor intake s) :
    intake.Matches constructor.params := by
  cases hinvokes with
  | create hcreate =>
    obtain ⟨henter, -, hresolve⟩ := hcreate
    exact (h.enter henter).matches_of_resolveInvokes hrun hresolve
  | createBySignature hcreate =>
    obtain ⟨henter, -, hresolve⟩ := hcreate
    exact (h.enter henter).matches_of_resolveInvokes hrun hresolve
  | resolve hresolve => exact h.matches_of_resolveInvokes hrun hresolve

/-- The library reports none of these: that something is not found, that a factory made a value of
another type or is missing, that a parameter cannot be filled which is not a plain value. -/
structure Unreported (catalog : Catalog E) : Prop where
  notFound (key : Key) : ¬Reported catalog (.notFound key)
  wrongProduct (target : TypeId) : ¬Reported catalog (.constructionFailed target .wrongProduct)
  noFactory (target : TypeId) : ¬Reported catalog (.constructionFailed target .noFactory)
  unresolvable {target : TypeId} {parameter : String} {key : Key} :
    Reported catalog (.unresolvableParameter target parameter key) →
      ∃ constructor ∈ catalog.constructors target, ∃ param ∈ constructor.params,
        param.name = parameter ∧ param.key = key ∧ param.kind = .value

theorem unreported (catalog : Catalog E) : Unreported catalog where
  notFound key h := by
    cases h with
    | refused hrefused => cases hrefused
  wrongProduct target h := by
    cases h with
    | refused hrefused => cases hrefused
  noFactory target h := by
    cases h with
    | refused hrefused => cases hrefused
  unresolvable h := by
    cases h with
    | refused hrefused => cases hrefused
    | unresolvableParameter hconstructor hparam hkind =>
      exact ⟨_, hconstructor, _, hparam, rfl, rfl, hkind⟩

/-- **What is stored is read as what it is.** In every world that comes up, entries hold what their keys
and origins tell, recorded constructions and the constructors that are called have received what their
parameters and the sources tell, and a parameter or a command fails for one of the listed reasons or
because other code has failed. The same goes for registries by themselves. -/
theorem stored_by_type (catalog : Catalog E) (conduct : Conduct E) :
    (∀ w, Reachable catalog conduct w →
      (∀ entry ∈ w.fixture.registry.entries, entry.Typed) ∧
      (∀ construction ∈ w.fixture.history.constructions,
        List.Forall₂ Injection.Suits construction.constructor.params construction.injections) ∧
      (∀ run target explicit param used e w',
        w.resolveArgument catalog run target explicit param used = (.error e, w') →
          Unfillable run target param w e) ∧
      (∀ run, Scripted catalog conduct run → ∀ command,
        (∀ constructor intake s, Invokes catalog run command w constructor intake s →
          intake.Matches constructor.params) ∧
        (∀ e, (w.perform catalog run command).1 = .error e →
          Explained catalog run (Starts catalog run command w) (Invokes catalog run command w) e))) ∧
    Unreported catalog ∧
    (∀ n r, Registry.Arises catalog.mockOf n r → (∀ entry ∈ r.entries, entry.Typed) ∧
      ∀ outcome e, Registry.Asks catalog.mockOf r ⟨n⟩ outcome → outcome.result = .error e →
        Registry.Refused e) := by
  refine ⟨?_, unreported catalog, ?_⟩
  · intro w hw
    have hsound := hw.sound
    have hcoherent := hsound.registry.coherent
    refine ⟨?_, hsound.history, ?_, ?_⟩
    · exact fun entry hentry => (hcoherent.entries entry hentry).typed
    · intro run target explicit param used e w' hresolve
      exact (unfillable hcoherent.indexed hresolve).2.2
    · intro run hrun command
      refine ⟨fun constructor intake s => hsound.matches hrun, fun e => hsound.explained hrun⟩
  · intro n r hr
    refine ⟨fun entry hentry => (hr.coherent.entries entry hentry).typed, ?_⟩
    exact fun outcome e hasks herror => hasks.refused hr.coherent herror

/-- A service that takes a store is given a double, and then a plain value, of which it complains. -/
theorem stored_by_type_value :
    let store : TypeId := ⟨"Store"⟩
    let service : TypeId := ⟨"Service"⟩
    let catalog : Catalog Unit := ⟨id, fun _ => .null, fun _ =>
      [.ofFunction { name := "new", params := [.capability "store" store] } fun intake =>
        (intake.object store 0).map fun _ => .null]⟩
    let run : Runner Unit := idle
    let start : World Unit := { surroundings := () }
    let used := start.performAll catalog run [.create service none, .useValue store (.int 3)]
    let intake : Intake := ⟨service, [⟨"store", .of store, .value, .value store (.int 3)⟩]⟩
    let error : Error := .constructionFailed service (.wrongArgument 0 store)
    (∀ entry ∈ used.fixture.registry.entries, entry.Typed) ∧
      used.fixture.history.constructionCount = 1 ∧
      (∀ construction ∈ used.fixture.history.constructions,
        List.Forall₂ Injection.Suits construction.constructor.params construction.injections) ∧
      (∃ constructor, Invokes catalog run (.create service none) used constructor intake () ∧
        intake.Matches constructor.params ∧ intake.object store 0 = .error error) ∧
      (used.perform catalog run (.create service none)).1 = .error error ∧
      Explained catalog run (Starts catalog run (.create service none) used)
        (Invokes catalog run (.create service none) used) error := by
  intro store service catalog run start used intake error
  have hrun : Scripted catalog {} run := scripted_idle catalog fun _ _ => trivial
  have hstart : Reachable catalog {} start := Fresh.reachable ⟨⟨{}, rfl⟩, trivial⟩
  have hused : Reachable catalog {} used :=
    hstart.performAll hrun (fun _ _ _ => trivial) fun _ _ _ => trivial
  obtain ⟨hreachable, -, -⟩ := stored_by_type catalog {}
  obtain ⟨hentries, hhistory, -, hcommands⟩ := hreachable used hused
  obtain ⟨hmatches, hexplained⟩ := hcommands run hrun (.create service none)
  have hinvokes : Invokes catalog run (.create service none) used
      (.ofFunction { name := "new", params := [.capability "store" store] } fun intake =>
        (intake.object store 0).map fun _ => .null) intake () :=
    .create ⟨rfl, rfl, .intro rfl rfl⟩
  have herror : (used.perform catalog run (.create service none)).1 = .error error := rfl
  exact ⟨hentries, rfl, hhistory, ⟨_, hinvokes, hmatches _ _ _ hinvokes, rfl⟩, herror,
    hexplained error herror⟩

end Storage

end World

end TestDoubles
