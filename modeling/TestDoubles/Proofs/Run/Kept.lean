import TestDoubles.Proofs.Run.Upheld
import TestDoubles.Proofs.Run.Within

/-!
# What every run keeps to

A relation between worlds is kept by whole runs when it is kept by the elementary changes that runs
are made of. `World.Kept` lists these changes; what a factory does in between is one of them, as far as
the relation itself tells what it does. That a relation is kept by every command, every factory and
every sequence of steps is then shown here once, for all relations.

- `World.Kept.steps`: what is kept by elementary changes is kept by runs, factories included.
- `World.Kept.reachable`: a property that elementary changes do not destroy holds of all reachable
  worlds.
-/

namespace TestDoubles

namespace World

variable {E : Type}

/-! ## Elementary changes -/

/-- A relation that the elementary changes of a run keep to. -/
structure Kept (catalog : Catalog E) (conduct : Conduct E) (R : World E → World E → Prop) :
    Prop where
  refl (w : World E) : R w w
  trans {w₁ w₂ w₃ : World E} : R w₁ w₂ → R w₂ w₃ → R w₁ w₃
  -- The library reports events or allocates objects.
  reports {w w' : World E} : w.Passes w' → w'.surroundings = w.surroundings → R w w'
  -- Something happens in the surroundings.
  outside {w w' : World E} :
    w.Passes w' → conduct.wanders w.surroundings w'.surroundings → R w w'
  -- A command has been answered.
  answered {run : Runner E} {w w' : World E} {command : Command} {answer : Except Error Reply}
      {s : E} : Scripted catalog conduct run → conduct.admits w.surroundings command →
    w.perform catalog run command = (answer, w') → R w w' →
    conduct.notes (.answered command answer) w'.surroundings s → R w (w'.mapSurroundings fun _ => s)
  -- A command operates on the registry, and reports what it did.
  operated {w : World E} {command : Command} {allocated : Nat} {change : Registry × List Event} :
    conduct.admits w.surroundings command →
    command.Operates catalog.mockOf w.fixture.registry w.allocated allocated change →
    R w ({ w with allocated := allocated }.setRegistry change)
  -- A command writes a recipe.
  rewritten {w : World E} {command : Command} {key : Key} {recipe : Recipe} :
    conduct.admits w.surroundings command →
    command.Rewrites key ((w.fixture.recipes.find? key).getD { target := key }) recipe →
    R w (w.mapFixture fun f => { f with recipes := f.recipes.insert key recipe })
  -- Something has been registered for the first time.
  configured {w : World E} : w.fixture.stage = .unconfigured →
    R w (w.mapFixture fun f => { f with stage := .configured })
  -- The fixture is torn down.
  reset {w : World E} : conduct.admits w.surroundings .reset → R w w.reset
  -- A key was in progress meanwhile.
  bracket {w entered w' : World E} {key : Key} :
    w.enter key = .ok entered → R entered w' → R w w'.leave
  -- A factory ran and failed.
  failed {w entered done : World E} {key : Key} {recipe : Recipe} {factory : Factory} {e : Error}
      {s : E} : Called catalog key recipe factory w entered → R entered done →
    conduct.notes (.ended factory.id (.error e)) done.surroundings s →
    R w (done.mapSurroundings fun _ => s).leave
  -- A factory ran, and its product is handed out as it is.
  unshared {w entered done : World E} {key : Key} {recipe : Recipe} {factory : Factory}
      {datum : Datum} {s : E} : Called catalog key recipe factory w entered →
    recipe.sharedAs = none → R entered done →
    conduct.notes (.ended factory.id (.ok datum)) done.surroundings s →
    R w (done.mapSurroundings fun _ => s).leave
  -- A factory ran, and its product is registered.
  shared {w entered done : World E} {key : Key} {recipe : Recipe} {factory : Factory}
      {datum : Datum} {s : E} : Called catalog key recipe factory w entered →
    recipe.lifetime = .singleton → R entered done →
    conduct.notes (.ended factory.id (.ok datum)) done.surroundings s →
    R w ((done.mapSurroundings fun _ => s).insertValue catalog.mockOf key
      (.value factory.product datum)).leave
  -- A double is created for a parameter for which there is no entry.
  mocked {w : World E} {key : Key} : w.fixture.registry.lookup key = none →
    R w (w.onRegistry fun r fresh => r.getOrCreateMock catalog.mockOf fresh key.type key.name).2
  -- The function of a constructor failed.
  unbuilt {w : World E} {target : TypeId} {constructor : Constructor E} {intake : Intake}
      {e : Error} {s : E} : constructor ∈ catalog.constructors target →
    constructor.build intake w.surroundings = (.error e, s) → R w (w.mapSurroundings fun _ => s)
  -- The function of a constructor built an instance of what its parameters received, and the
  -- construction is recorded.
  recorded {run : Runner E} {start w : World E} {target : TypeId} {explicit : Arguments}
      {constructor : Constructor E} {injections : List Injection} {datum : Datum} {s : E} :
    constructor ∈ start.fixture.visible (catalog.constructors target) →
    Injected catalog run R start target explicit constructor.params injections → R start w →
    constructor.build ⟨target, injections⟩ w.surroundings = (.ok datum, s) →
    R start ((w.mapSurroundings fun _ => s).record (.of target)
      ⟨constructor.toDeclaration, injections⟩)
  -- A recipe is fixed.
  frozen (w : World E) (key : Key) : R w (w.mapFixture (Fixture.freeze · key))
  -- An instance has been created.
  built (w : World E) : R w (w.mapFixture Fixture.built)

/-! ## From elementary changes to commands -/

namespace Kept

variable {catalog : Catalog E} {conduct : Conduct E} {R : World E → World E → Prop}
  {run : Runner E}

/-! ### Commands that create no instance -/

theorem mapConfigured (hkept : Kept catalog conduct R) (w : World E) :
    R w (w.mapFixture Fixture.configured) := by
  rw [mapFixture, Fixture.configured]
  split
  next hstage => exact hkept.configured hstage
  next => exact hkept.refl w

theorem direct (hkept : Kept catalog conduct R) (run : Runner E) {command : Command} {w : World E}
    (hdirect : command.isDirect) (hadmits : conduct.admits w.surroundings command) :
    R w (w.perform catalog run command).2 := by
  by_cases hreset : command = .reset
  · subst hreset
    exact hkept.reset hadmits
  · have hregistered := registered catalog run hdirect hreset w
    generalize w.perform catalog run command = result at hregistered ⊢
    cases hregistered with
    | found _ => exact hkept.refl w
    | operated _ hoperates =>
      exact hkept.trans (hkept.operated hadmits hoperates) (hkept.mapConfigured _)
    | refused hoperates _ => exact hkept.operated hadmits hoperates
    | rewritten _ hrewrites =>
      exact hkept.trans (hkept.rewritten hadmits hrewrites) (hkept.mapConfigured _)
    | frozen => exact hkept.refl w

/-! ### Commands that create instances -/

/-- What is known of a factory that has ended, if its commands keep to the relation. -/
def Ended (conduct : Conduct E) (R : World E → World E → Prop) (id : FactoryId) (w : World E)
    (result : Except Error Datum × World E) : Prop :=
  ∃ done s, R w done ∧ conduct.notes (.ended id result.1) done.surroundings s ∧
    result.2 = done.mapSurroundings fun _ => s

private theorem ended_of_run (hends : Ends conduct R run) {id : FactoryId} {w ended : World E}
    {answer : Except Error Datum} (hrun : run id w = (answer, ended)) :
    Ended conduct R id w (answer, ended) :=
  hrun ▸ hends id w

/-- The steps by which a constructor is resolved are made of elementary changes. -/
theorem within (hkept : Kept catalog conduct R) : Within catalog (Ended conduct R) R where
  refl := hkept.refl
  trans := hkept.trans
  reports := hkept.reports
  failed hcalled hended := by
    obtain ⟨done, s, hdone, hnote, rfl⟩ := hended
    exact hkept.failed hcalled hdone hnote
  transient {_ _ _ _ recipe _ _} hcalled hlifetime hended := by
    obtain ⟨done, s, hdone, hnote, rfl⟩ := hended
    have hshare : recipe.sharedAs = none := by rw [Recipe.sharedAs, hlifetime]
    exact hkept.trans (hkept.unshared hcalled hshare hdone hnote) (hkept.frozen _ _)
  singleton hcalled hlifetime hended := by
    obtain ⟨done, s, hdone, hnote, rfl⟩ := hended
    exact hkept.trans (hkept.shared hcalled hlifetime hdone hnote) (hkept.frozen _ _)
  mocked := hkept.mocked
  unbuilt := hkept.unbuilt

theorem resolve (hkept : Kept catalog conduct R) (hends : Ends conduct R run) {target : TypeId}
    {signature : Option Signature} {explicit : Arguments} {w : World E}
    {result : Except Error (Construction × Datum) × World E}
    (h : Built catalog run target signature explicit w result) : R w result.2 := by
  obtain ⟨e | ⟨construction, datum⟩, w'⟩ := result
  · exact hkept.within.unresolved (fun id started _ => hends id started) h
  · obtain ⟨constructor, hconstructor, filled, s, hcalled, hinjected, hfilled, hbuild, rfl⟩ :=
      hkept.within.resolved (fun id started _ => hends id started) h
    obtain ⟨declaration, injections⟩ := construction
    subst hcalled
    exact hkept.recorded hconstructor hinjected hfilled hbuild

/-- What comes of a type that has been entered, when it is left again. -/
theorem obtained (hkept : Kept catalog conduct R) (hends : Ends conduct R run) {target : TypeId}
    {signature : Option Signature} {arguments : Option Arguments} {w entered w' : World E}
    {answer : Except Error Datum} (henter : w.enter (.of target) = .ok entered)
    (h : Obtained catalog run target (.of target) signature arguments entered (answer, w')) :
    R w w'.leave := by
  have hreported : R entered (entered.emit [.fromFactory (.of target)]) :=
    hkept.within.emit entered (by simp [Event.isTeardown])
  obtain ⟨-, hentered⟩ := enter_eq_ok_iff.mp henter
  -- What the recipes and the registry said before the type was entered, they still say.
  have hfind : entered.fixture.recipes = w.fixture.recipes := by rw [hentered]; rfl
  have hcache (share : Option TypeId) : entered.cached? (.of target) share =
      w.cached? (.of target) share := by rw [hentered]; rfl
  cases h with
  | cached _ _ _ => exact hkept.bracket henter hreported
  | failed hrecipe hfactory hcached hrun =>
    rw [hfind] at hrecipe
    rw [hcache] at hcached
    obtain ⟨done, s, hdone, hnote, rfl⟩ := ended_of_run hends hrun
    exact hkept.failed ⟨hrecipe, hfactory, henter, .created hcached⟩
      (hkept.trans hreported hdone) hnote
  | @unshared recipe factory datum ended hrecipe hfactory hshare hrun =>
    rw [hfind] at hrecipe
    have hcached : w.cached? (.of target) recipe.sharedAs = none := by rw [hshare]; rfl
    obtain ⟨done, s, hdone, hnote, rfl⟩ := ended_of_run hends hrun
    exact hkept.unshared ⟨hrecipe, hfactory, henter, .created hcached⟩ hshare
      (hkept.trans hreported hdone) hnote
  | @shared recipe factory type datum ended hrecipe hfactory hshare hcached hrun =>
    rw [hfind] at hrecipe
    rw [hcache, ← hshare] at hcached
    have hlifetime : recipe.lifetime = .singleton := by
      cases hlifetime : recipe.lifetime with
      | singleton => rfl
      | transient => simp [Recipe.sharedAs, hlifetime] at hshare
    obtain ⟨done, s, hdone, hnote, rfl⟩ := ended_of_run hends hrun
    exact hkept.shared ⟨hrecipe, hfactory, henter, .created hcached⟩ hlifetime
      (hkept.trans hreported hdone) hnote
  | resolved _ h => exact hkept.bracket henter (hkept.resolve hends h)

theorem create (hkept : Kept catalog conduct R) (hends : Ends conduct R run) (target : TypeId)
    (signature : Option Signature) (arguments : Option Arguments) (w : World E) :
    R w (w.create catalog run target signature arguments).2 := by
  have hcreated := created catalog run target signature arguments w
  generalize w.create catalog run target signature arguments = result at hcreated ⊢
  cases hcreated with
  | cyclic _ => exact hkept.refl w
  | failed henter h => exact hkept.obtained hends henter h
  | built henter h =>
    refine hkept.trans (hkept.obtained hends henter h) ?_
    exact hkept.trans (hkept.frozen _ (.of target)) (hkept.built _)

/-- **Commands keep to the relation** if the factories that they run do. -/
theorem perform (hkept : Kept catalog conduct R) (hends : Ends conduct R run) {command : Command}
    {w : World E} (hadmits : conduct.admits w.surroundings command) :
    R w (w.perform catalog run command).2 := by
  by_cases hdirect : command.isDirect
  · exact hkept.direct run hdirect hadmits
  · cases command with
    | create type arguments => exact hkept.create hends type none arguments w
    | createBySignature type signature => exact hkept.create hends type (some signature) none w
    | resolve type signature explicit =>
      exact hkept.resolve hends (World.built catalog run type signature explicit w)
    | _ => exact absurd rfl hdirect

/-! ## From commands to runs -/

/-- What elementary changes keep to, commands uphold. -/
theorem upheld (hkept : Kept catalog conduct R) : Upheld catalog conduct R where
  refl := hkept.refl
  trans := hkept.trans
  outside := hkept.outside
  answered hscripted hends hadmits hperform hnote := by
    have hperformed := hkept.perform hends hadmits
    rw [hperform] at hperformed
    exact hkept.answered hscripted hadmits hperform hperformed hnote

/-- **Factories keep to the relation.** -/
theorem ends (hkept : Kept catalog conduct R) (hscripted : Scripted catalog conduct run) :
    Ends conduct R run :=
  hkept.upheld.ends hscripted

/-- **Runs keep to the relation.** -/
theorem steps (hkept : Kept catalog conduct R) (hscripted : Scripted catalog conduct run)
    {w w' : World E} (hsteps : Steps catalog conduct run w w') : R w w' :=
  hkept.upheld.steps hscripted hsteps

/-! ## From runs to reachable worlds -/

section Entering

variable (henter : ∀ {w w' : World E} {key : Key}, w.enter key = .ok w' → R w w')

include henter

/-- The worlds in which a command starts factories are reached by elementary changes. -/
theorem starts (hkept : Kept catalog conduct R) (hends : Ends conduct R run) {command : Command}
    {w started : World E} {id : FactoryId} (h : Starts catalog run command w id started) :
    R w started := by
  cases h with
  | create h =>
    exact hkept.within.createStarts henter (fun _ _ _ id started _ => hends id started) h
  | createBySignature h =>
    exact hkept.within.createStarts henter (fun _ _ _ id started _ => hends id started) h
  | resolve h => exact hkept.within.resolveStarts henter (fun id started _ => hends id started) h

/-- **A relation that entering keeps to as well leads to all worlds that come up.** -/
theorem leads (hkept : Kept catalog conduct R) {w w' : World E}
    (h : Leads catalog conduct w w') : R w w' :=
  hkept.upheld.leads (fun hends hstarts => hkept.starts henter hends hstarts) h

end Entering

/-- **What elementary changes and entering do not destroy holds of all reachable worlds.** -/
theorem reachable {I : World E → Prop} (hkept : Kept catalog conduct fun w w' => I w → I w')
    (henter : ∀ {w w' : World E} {key : Key}, w.enter key = .ok w' → I w → I w')
    (hfresh : ∀ {w : World E}, Fresh conduct w → I w) {w : World E}
    (hw : Reachable catalog conduct w) : I w := by
  obtain ⟨start, hstart, hleads⟩ := hw
  exact hkept.leads henter hleads (hfresh hstart)

end Kept

end World

end TestDoubles
