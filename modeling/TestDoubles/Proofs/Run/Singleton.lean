import TestDoubles.Proofs.Registry.Values
import TestDoubles.Proofs.Run.InProgress
import TestDoubles.Proofs.Run.Recipes

/-!
# Singleton factories

The product of a singleton factory is kept in the registry, under the type it was made for, and later
requests are to be answered from there. That works as long as every request looks where the product is
kept: a request for a double of a particular name looks under that name, and a request for an instance
wants a value and not something else that has been registered for the type meanwhile. Here it is shown
that these are the only ways in which a factory comes to be run again.

- `Conduct.tallied` counts the products of one factory beside the surroundings; `Conduct.sparing`
  forbids in addition what would displace a product.
- `World.Settled` is the invariant of such runs: there is at most one product, and it is held.
- `World.singleton_factory_once` bounds the products by one, and says of every request whether the
  factory is run.
-/

namespace TestDoubles

variable {E : Type}

/-! ## Counting products -/

/-- How many products of a factory there are in a note. -/
def Note.products (id : FactoryId) : Note → Nat
  | .ended other (.ok _) => if other = id then 1 else 0
  | _ => 0

/-- The same catalog beside a count, which its constructors leave alone. -/
def Catalog.counting (catalog : Catalog E) : Catalog (E × Nat) where
  mockOf := catalog.mockOf
  defaultOf := catalog.defaultOf
  constructors type := (catalog.constructors type).map fun constructor =>
    { constructor with
      build := fun intake s =>
        let (answer, surroundings) := constructor.build intake s.1
        (answer, (surroundings, s.2)) }

/-- No constructor asks for `type` under the name of a double. -/
def Catalog.Unnamed (catalog : Catalog E) (type : TypeId) : Prop :=
  ∀ target, ∀ constructor ∈ catalog.constructors target, ∀ param ∈ constructor.params,
    param.key.type = type → param.key = .of type

/-- Nothing is torn down, the factory `id` is registered for `type` only, as a singleton, and its
products are counted. -/
def Conduct.tallied (id : FactoryId) (type : TypeId) : Conduct (E × Nat) where
  begins s := s.2 = 0
  admits _ command := command ≠ .reset ∧ ∀ other lifetime,
    command = .addType other lifetime id → other = type ∧ lifetime = .singleton
  wanders s s' := s'.2 = s.2
  notes note s s' := s'.2 = s.2 + note.products id

/-- Besides, once there is a product, nothing that is not a value is registered for the type. -/
def Conduct.sparing (id : FactoryId) (type : TypeId) : Conduct (E × Nat) :=
  { tallied id type with
    admits := fun s command => (tallied (E := E) id type).admits s command ∧
      (0 < s.2 → (∀ ref, command ≠ .useInstance type ref) ∧ command ≠ .addCustomMock type none) }

namespace World

/-- The number of products so far. -/
def made (w : World (E × Nat)) : Nat :=
  w.surroundings.2

/-! ## The invariant -/

/-- The recipe for `key` makes what belongs there, and keeps it if its factory is the one named. -/
def Proper (id : FactoryId) (type : TypeId) (key : Key) (recipe : Recipe) : Prop :=
  ∀ factory, recipe.factory = some factory → key = .of factory.product ∧
    (factory.id = id → factory.product = type ∧ recipe.lifetime = .singleton ∧
      recipe.share = some type)

/-- There is at most one product of the factory, and it is held. -/
structure Settled (id : FactoryId) (type : TypeId) (w : World (E × Nat)) : Prop where
  indexed : w.fixture.registry.Indexed
  proper : ∀ key recipe, w.fixture.recipes.find? key = some recipe → Proper id type key recipe
  made_le : w.made ≤ 1
  holds : 0 < w.made → w.fixture.registry.Holds type

/-- What every part of a run does to a settled world: it stays settled, no key in progress is left,
and while the type is in progress no product is made. -/
def Calm (id : FactoryId) (type : TypeId) (w w' : World (E × Nat)) : Prop :=
  Settled id type w → Settled id type w' ∧
    w.fixture.inProgress <+: w'.fixture.inProgress ∧
    (.of type ∈ w.fixture.inProgress → w'.made = w.made)

variable {id : FactoryId} {type : TypeId} {w w' : World (E × Nat)}

/-- Writing a recipe leaves it proper, if the factory is registered as it should be. -/
theorem Proper.rewrites {command : Command} {key : Key} {recipe changed : Recipe}
    (h : Proper id type key recipe) (hrewrites : command.Rewrites key recipe changed)
    (hregistered : ∀ other lifetime, command = .addType other lifetime id →
      other = type ∧ lifetime = .singleton) : Proper id type key changed := by
  cases hrewrites with
  | addType target lifetime other hfrozen =>
    intro factory hfactory
    obtain rfl := Option.some.inj hfactory
    refine ⟨rfl, fun hid => ?_⟩
    obtain ⟨rfl, rfl⟩ := hregistered target lifetime (hid ▸ rfl)
    exact ⟨rfl, rfl, rfl⟩
  | setArguments target arguments hfrozen => exact h

/-- No command displaces a value, except those that register something else under the very type. -/
theorem holds_operates {mockOf : TypeId → TypeId} {command : Command} {r : Registry}
    {next allocated : Nat} {change : Registry × List Event} (h : r.Indexed)
    (hoperates : command.Operates mockOf r next allocated change)
    (hinstance : ∀ ref, command ≠ .useInstance type ref)
    (hmock : command ≠ .addCustomMock type none) (hholds : r.Holds type) :
    change.1.Holds type := by
  cases hoperates with
  | getMock capability name =>
    exact Registry.holds_getOrCreateMock mockOf h ⟨next⟩ capability name hholds
  | getObject capability =>
    exact Registry.holds_getOrCreateMock mockOf h ⟨next⟩ capability none hholds
  | addCustomMock capability name =>
    refine Registry.holds_addCustomMock mockOf h ⟨next⟩ ?_ hholds
    rintro ⟨rfl, rfl⟩
    exact hmock rfl
  | useInstance capability ref =>
    refine Registry.holds_insert_of_ne mockOf h ?_ hholds
    intro hkey
    obtain rfl := Key.of_inj.mp hkey
    exact hinstance ref rfl
  | useValue other datum => exact Registry.holds_insertValue_of_holds mockOf h other datum hholds
  | combine capability other =>
    exact Registry.holds_combine mockOf h ⟨next⟩ capability other hholds

/-! ## Changes to a settled world -/

namespace Settled

/-- Only the registry, the recipes and the number of products matter. -/
theorem of_eq (h : Settled id type w)
    (hregistry : w'.fixture.registry = w.fixture.registry)
    (hrecipes : w'.fixture.recipes = w.fixture.recipes)
    (hmade : w'.made = w.made) : Settled id type w' where
  indexed := hregistry ▸ h.indexed
  proper := hrecipes ▸ h.proper
  made_le := hmade ▸ h.made_le
  holds := fun hpos => hregistry ▸ h.holds (hmade ▸ hpos)

/-- An operation on the registry that does not displace a product. -/
theorem of_registry (h : Settled id type w)
    (hextends : w.fixture.registry.Extends w'.fixture.registry)
    (hholds : 0 < w.made → w.fixture.registry.Holds type →
      w'.fixture.registry.Holds type)
    (hrecipes : w'.fixture.recipes = w.fixture.recipes)
    (hmade : w'.made = w.made) : Settled id type w' where
  indexed := hextends.indexed
  proper := hrecipes ▸ h.proper
  made_le := hmade ▸ h.made_le
  holds := fun hpos => hholds (hmade ▸ hpos) (h.holds (hmade ▸ hpos))

/-- A recipe is written. -/
theorem insertRecipe (h : Settled id type w) {key : Key} {recipe : Recipe}
    (hproper : Proper id type key recipe)
    (hregistry : w'.fixture.registry = w.fixture.registry)
    (hrecipes : w'.fixture.recipes = w.fixture.recipes.insert key recipe)
    (hmade : w'.made = w.made) : Settled id type w' where
  indexed := hregistry ▸ h.indexed
  proper := Recipes.insert h.proper hproper hrecipes
  made_le := hmade ▸ h.made_le
  holds := fun hpos => hregistry ▸ h.holds (hmade ▸ hpos)

/-- A value is registered for its type. -/
theorem insertValue (h : Settled id type w) (mockOf : TypeId → TypeId) (product : TypeId)
    (datum : Datum) :
    Settled id type (w.insertValue mockOf (.of product) (.value product datum)) := by
  exact h.of_registry (Registry.extends_insert h.indexed _)
    (fun _ => Registry.holds_insertValue_of_holds mockOf h.indexed product datum) rfl rfl

/-- A product of the factory is registered, the first there is. -/
theorem firstProduct (h : Settled id type w) (mockOf : TypeId → TypeId) (datum : Datum)
    {s : E × Nat} (hnone : w.made = 0) (hmade : s.2 = w.made + 1) :
    Settled id type ((w.mapSurroundings fun _ => s).insertValue mockOf (.of type)
      (.value type datum)) where
  indexed := (Registry.extends_insert h.indexed _).indexed
  proper := h.proper
  made_le := by
    show s.2 ≤ 1
    omega
  holds := fun _ => Registry.holds_insertValue mockOf h.indexed datum

/-- As long as no value can be read for the type, there has been no product. -/
theorem made_eq_zero (h : Settled id type w) (hnone : w.fixture.registry.value? type = none) :
    w.made = 0 := by
  rcases Nat.eq_zero_or_pos w.made with hmade | hmade
  · exact hmade
  · obtain ⟨datum, hvalue⟩ := h.indexed.value?_of_holds (h.holds hmade)
    rw [hnone] at hvalue
    cases hvalue

end Settled

namespace Calm

/-- Nothing changes that matters. -/
theorem of_eq (hregistry : w'.fixture.registry = w.fixture.registry)
    (hrecipes : w'.fixture.recipes = w.fixture.recipes)
    (hstack : w'.fixture.inProgress = w.fixture.inProgress)
    (hmade : w'.made = w.made) : Calm id type w w' :=
  fun h => ⟨h.of_eq hregistry hrecipes hmade, hstack ▸ List.prefix_refl _, fun _ => hmade⟩

/-- The world stays settled, and neither the stack nor the number of products changes. -/
theorem of_settled (hsettled : Settled id type w → Settled id type w')
    (hstack : w'.fixture.inProgress = w.fixture.inProgress) (hmade : w'.made = w.made) :
    Calm id type w w' :=
  fun h => ⟨hsettled h, hstack ▸ List.prefix_refl _, fun _ => hmade⟩

theorem trans {w'' : World (E × Nat)} (h : Calm id type w w') (h' : Calm id type w' w'') :
    Calm id type w w'' := by
  intro hw
  obtain ⟨hw', hstack, hmade⟩ := h hw
  obtain ⟨hw'', hstack', hmade'⟩ := h' hw'
  refine ⟨hw'', hstack.trans hstack', fun htype => ?_⟩
  rw [hmade' (hstack.subset htype), hmade htype]

/-- The stack from before a key was entered is still there when it is left. -/
theorem prefix_leave {entered : World (E × Nat)} {key : Key} (henter : w.enter key = .ok entered)
    (hstack : entered.fixture.inProgress <+: w'.fixture.inProgress) :
    w.fixture.inProgress <+: w'.leave.fixture.inProgress := by
  obtain ⟨-, rfl⟩ := enter_eq_ok_iff.mp henter
  obtain ⟨rest, hrest⟩ := hstack
  -- The key that was entered is below whatever has been put on the stack since.
  show w.fixture.inProgress <+: w'.fixture.inProgress.dropLast
  rw [← hrest]
  show w.fixture.inProgress <+: (w.fixture.inProgress ++ [key] ++ rest).dropLast
  rw [List.append_assoc, List.dropLast_append_of_ne_nil (by simp)]
  exact List.prefix_append _ _

theorem enter {key : Key} (henter : w.enter key = .ok w') : Calm id type w w' := by
  obtain ⟨-, rfl⟩ := enter_eq_ok_iff.mp henter
  intro h
  exact ⟨h.of_eq rfl rfl rfl, List.prefix_append _ _, fun _ => rfl⟩

theorem bracket {entered : World (E × Nat)} {key : Key} (henter : w.enter key = .ok entered)
    (h : Calm id type entered w') : Calm id type w w'.leave := by
  intro hw
  obtain ⟨hw', hstack, hmade⟩ := (enter henter).trans h hw
  obtain ⟨-, hentered, -⟩ := h (enter henter hw).1
  exact ⟨hw'.of_eq rfl rfl rfl, prefix_leave henter hentered, hmade⟩

theorem recipe (w : World (E × Nat)) (key : Key) (recipe : Recipe)
    (hproper : Settled id type w → Proper id type key recipe) :
    Calm id type w (w.mapFixture fun f => { f with recipes := f.recipes.insert key recipe }) :=
  of_settled (fun h => h.insertRecipe (hproper h) rfl rfl rfl) rfl rfl

theorem frozen (w : World (E × Nat)) (key : Key) :
    Calm id type w (w.mapFixture (Fixture.freeze · key)) := by
  rcases w.fixture.freeze_cases key with heq | ⟨found, hrecipe, heq⟩
  · rw [mapFixture, heq]
    exact of_eq rfl rfl rfl rfl
  · rw [mapFixture, heq]
    exact recipe w key { found with frozen := true } fun h => h.proper key found hrecipe

theorem operated {mockOf : TypeId → TypeId} {command : Command} {allocated : Nat}
    {change : Registry × List Event}
    (hadmits : (Conduct.sparing id type).admits w.surroundings command)
    (hoperates : command.Operates mockOf w.fixture.registry w.allocated allocated change) :
    Calm id type w ({ w with allocated := allocated }.setRegistry change) := by
  obtain ⟨-, hdisplaced⟩ := hadmits
  refine of_settled (fun h => h.of_registry (hoperates.step.extends h.indexed) ?_ rfl rfl) rfl rfl
  intro hmade
  obtain ⟨hinstance, hmock⟩ := hdisplaced hmade
  exact holds_operates h.indexed hoperates hinstance hmock

theorem rewritten {command : Command} {key : Key} {changed : Recipe}
    (hadmits : (Conduct.sparing id type).admits w.surroundings command)
    (hrewrites : command.Rewrites key
      ((w.fixture.recipes.find? key).getD { target := key }) changed) :
    Calm id type w (w.mapFixture fun f => { f with recipes := f.recipes.insert key changed }) := by
  obtain ⟨⟨-, hregistered⟩, -⟩ := hadmits
  refine recipe w key changed fun h => ?_
  have hproper : Proper id type key ((w.fixture.recipes.find? key).getD { target := key }) :=
    Recipes.getD h.proper (fun _ _ hfactory => nomatch hfactory) key
  exact hproper.rewrites hrewrites hregistered

end Calm

/-! ## Calls of factories -/

section Calls

variable {catalog : Catalog E} {entered done : World (E × Nat)} {key : Key} {recipe : Recipe}
  {factory : Factory} {datum : Datum} {s : E × Nat}

/-- A factory is not called while a value can be read for its type. -/
theorem Called.value?_eq_none (hunnamed : catalog.Unnamed type)
    (hcalled : Called catalog.counting (.of type) recipe factory w entered)
    (hshare : recipe.sharedAs = some type) : w.fixture.registry.value? type = none := by
  cases hcalled.wanted with
  | created hcached =>
    rw [hshare, cached?_eq] at hcached
    exact Option.map_eq_none_iff.mp hcached
  | @param target constructor param hconstructor hparam hkey hlookup =>
    -- Looking under the key of the parameter is looking where the product would be.
    obtain ⟨plain, hplain, rfl⟩ := List.mem_map.mp hconstructor
    have hown : param.key = .of type :=
      hunnamed target plain hplain param hparam (Key.of_inj.mp hkey)
    rw [hown] at hlookup
    simp [Registry.value?, hlookup]

/-- The factory that is counted is called for its own type, and its product is to be kept. -/
theorem Settled.of_called (h : Settled id type w)
    (hcalled : Called catalog.counting key recipe factory w entered) (hid : factory.id = id) :
    key = .of type ∧ factory.product = type ∧ recipe.sharedAs = some type := by
  obtain ⟨rfl, hown⟩ := h.proper key recipe hcalled.find_recipe factory hcalled.has_factory
  obtain ⟨rfl, hlifetime, hshare⟩ := hown hid
  exact ⟨rfl, rfl, by rw [Recipe.sharedAs, hlifetime, hshare]⟩

namespace Calm

/-- What is noted of the end of another factory. -/
theorem ended_of_ne (hdone : Calm id type entered done) (hid : factory.id ≠ id)
    (hnote : (Conduct.sparing id type).notes (.ended factory.id (.ok datum)) done.surroundings s) :
    Calm id type entered (done.mapSurroundings fun _ => s) := by
  refine hdone.trans (of_eq rfl rfl rfl ?_)
  have hcount : s.2 = done.surroundings.2 + if factory.id = id then 1 else 0 := hnote
  rwa [if_neg hid] at hcount

/-- The counted factory ran, for the first time, and its product is registered. -/
theorem ended (hunnamed : catalog.Unnamed type)
    (hcalled : Called catalog.counting key recipe factory w entered) (hid : factory.id = id)
    (hdone : Calm id type entered done)
    (hnote : (Conduct.sparing id type).notes (.ended factory.id (.ok datum)) done.surroundings s) :
    Calm id type w ((done.mapSurroundings fun _ => s).insertValue catalog.mockOf key
      (.value factory.product datum)).leave := by
  intro hw
  obtain ⟨rfl, rfl, hshare⟩ := hw.of_called hcalled hid
  obtain ⟨hentered, -, hsame⟩ := enter hcalled.enters hw
  obtain ⟨hsettled, hstack, hmade⟩ := hdone hentered
  obtain ⟨hkey, hworld⟩ := enter_eq_ok_iff.mp hcalled.enters
  -- The type is in progress while its factory runs, so nothing has been made meanwhile.
  have hinside : .of factory.product ∈ entered.fixture.inProgress := by
    rw [hworld]
    exact List.mem_append_right _ (List.mem_singleton_self _)
  have hnone : done.made = 0 := by
    rw [hmade hinside, hworld]
    exact hw.made_eq_zero (hcalled.value?_eq_none hunnamed hshare)
  have hcount : s.2 = done.surroundings.2 + if factory.id = id then 1 else 0 := hnote
  rw [if_pos hid] at hcount
  refine ⟨?_, prefix_leave hcalled.enters hstack, fun htype => absurd htype hkey⟩
  exact (hsettled.firstProduct catalog.mockOf datum hnone hcount).of_eq rfl rfl rfl

/-- **Runs are calm** if no constructor asks for the type under a name. -/
theorem kept (hunnamed : catalog.Unnamed type) :
    Kept catalog.counting (Conduct.sparing id type) (Calm (E := E) id type) where
  refl w := of_eq rfl rfl rfl rfl
  trans := trans
  reports hpasses hsame := by
    obtain ⟨hfixture, -, -⟩ := hpasses
    exact of_eq (hfixture ▸ rfl) (hfixture ▸ rfl) (hfixture ▸ rfl) (congrArg Prod.snd hsame)
  outside hpasses hwanders := by
    obtain ⟨hfixture, -, -⟩ := hpasses
    exact of_eq (hfixture ▸ rfl) (hfixture ▸ rfl) (hfixture ▸ rfl) hwanders
  answered _ _ _ hperformed hnote := hperformed.trans (of_eq rfl rfl rfl hnote)
  operated := operated
  rewritten := rewritten
  configured _ := of_eq rfl rfl rfl rfl
  reset hadmits := absurd rfl hadmits.1.1
  bracket := bracket
  failed hcalled hdone hnote := bracket hcalled.enters (hdone.trans (of_eq rfl rfl rfl hnote))
  unshared {w _ _ _ _ factory _ _} hcalled hshare hdone hnote := by
    intro hw
    -- The product of the counted factory would be kept, so this is another factory.
    have hid : factory.id ≠ id := by
      intro hid
      obtain ⟨-, -, hkept⟩ := hw.of_called hcalled hid
      rw [hshare] at hkept
      cases hkept
    exact bracket hcalled.enters (hdone.ended_of_ne hid hnote) hw
  shared {w _ done key recipe factory datum s} hcalled _ hdone hnote := by
    intro hw
    by_cases hid : factory.id = id
    · exact ended hunnamed hcalled hid hdone hnote hw
    -- Another factory's product goes under its own type, where it displaces no value.
    · obtain ⟨rfl, -⟩ := hw.proper key recipe hcalled.find_recipe factory hcalled.has_factory
      refine bracket hcalled.enters ((hdone.ended_of_ne hid hnote).trans ?_) hw
      exact of_settled (fun h => h.insertValue catalog.mockOf factory.product datum) rfl rfl
  mocked {w key} _ := by
    refine of_settled (fun h => h.of_registry ?_ (fun _ => ?_) rfl rfl) rfl rfl
    · exact Registry.extends_getOrCreateMock catalog.mockOf h.indexed _ key.type key.name
    · exact Registry.holds_getOrCreateMock catalog.mockOf h.indexed _ key.type key.name
  unbuilt hconstructor hbuild := by
    obtain ⟨constructor, -, rfl⟩ := List.mem_map.mp hconstructor
    exact of_eq rfl rfl rfl (congrArg (fun result => result.2.2) hbuild).symm
  recorded hconstructor _ hfilled hbuild := by
    obtain ⟨constructor, -, rfl⟩ := List.mem_map.mp (Fixture.mem_of_visible hconstructor)
    exact hfilled.trans (of_eq rfl rfl rfl (congrArg (fun result => result.2.2) hbuild).symm)
  frozen := frozen
  built w := of_eq rfl rfl rfl rfl

end Calm

end Calls

theorem Fresh.settled (h : Fresh (Conduct.sparing id type) w) : Settled id type w := by
  obtain ⟨⟨options, hoptions⟩, hbegins⟩ := h
  have hmade : w.made = 0 := hbegins
  constructor
  · rw [hoptions]
    exact Registry.indexed_empty
  · intro key recipe hrecipe
    rw [hoptions] at hrecipe
    cases hrecipe
  · omega
  · omega

/-- All worlds that come up in sparing runs are settled. -/
theorem Reachable.settled {catalog : Catalog E} (hunnamed : catalog.Unnamed type)
    (h : Reachable catalog.counting (Conduct.sparing id type) w) : Settled id type w := by
  obtain ⟨start, hfresh, hleads⟩ := h
  exact ((Calm.kept hunnamed).leads Calm.enter hleads hfresh.settled).1

/-! ## Single requests -/

section Requests

variable (catalog : Catalog E) (run : Runner E)

/-- A parameter for which something is found is filled with it. -/
theorem provide_of_lookup {target : TypeId} {param : Param} {w : World E} {value : Stored}
    {origin : Origin} (h : w.fixture.registry.lookup param.key = some (value, origin)) :
    w.provide catalog run target param = (.ok (.ofOrigin origin, value), w) := by
  unfold provide
  rw [h]

/-- A parameter for which nothing is found is filled by the factory of its type. -/
theorem provide_of_enter {target : TypeId} {param : Param} {w entered : World E} {recipe : Recipe}
    {factory : Factory} (hlookup : w.fixture.registry.lookup param.key = none)
    (hrecipe : w.fixture.recipes.find? param.key.unnamed = some recipe)
    (hfactory : recipe.factory = some factory) (h : w.enter param.key.unnamed = .ok entered) :
    (w.provide catalog run target param).1 =
      (run factory.id entered).1.map fun datum => (.factory, .value factory.product datum) := by
  have hproduced := produce_of_enter catalog run hrecipe hfactory h
  unfold provide
  rw [hlookup]
  dsimp only
  cases hrun : (run factory.id entered).1 with
  | error e =>
    rw [hrun] at hproduced
    split <;> simp_all [Except.map]
  | ok datum =>
    rw [hrun] at hproduced
    split <;> simp_all [Except.map]

/-- A product of a singleton factory that can be read is handed out; otherwise the factory is run. -/
theorem create_of_sharedAs {type : TypeId} {w entered : World E} {recipe : Recipe} {id : FactoryId}
    (signature : Option Signature) (arguments : Option Arguments)
    (hrecipe : w.fixture.recipe? type = some recipe) (hfactory : recipe.factory = some ⟨id, type⟩)
    (hshare : recipe.sharedAs = some type) (henter : w.enter (.of type) = .ok entered) :
    (w.create catalog run type signature arguments).1 =
      match w.fixture.registry.value? type with
      | some datum => .ok datum
      | none => (run id (entered.emit [.fromFactory (.of type)])).1 := by
  rw [create_of_enter catalog run signature arguments henter]
  obtain ⟨-, rfl⟩ := enter_eq_ok_iff.mp henter
  unfold createEntered
  dsimp only
  have hfind : (w.mapFixture fun f =>
      { f with inProgress := f.inProgress ++ [.of type] }).fixture.recipes.find? (.of type) =
        some recipe := hrecipe
  rw [hfind, Option.filter_some_pos (by simp [Recipe.hasFactory, hfactory])]
  dsimp only
  rw [createFromFactory_eq, hshare, cached?_eq, hfactory]
  simp only [emit, mapFixture]
  cases w.fixture.registry.value? type with
  | some datum => simp [downcast]
  | none =>
    unfold runFactory
    simp only [Option.map_none]
    split
    next e ended hrun => rw [hrun]
    next datum ended hrun => simp [hrun, shareAs?, downcast]

end Requests

/-- **A singleton factory makes one product**, and from then on there is a value to hand out, in every
run in which no constructor asks for its type under a name and nothing displaces the product. Of every
single request this says exactly when the factory is run for it: for a parameter when nothing is found
under the very key of the parameter, for an instance when no value is found. -/
theorem singleton_factory_once (catalog : Catalog E) (id : FactoryId) (type : TypeId) :
    (catalog.Unnamed type →
      ∀ w, Reachable catalog.counting (Conduct.sparing id type) w →
        w.made ≤ 1 ∧ (0 < w.made → ∃ datum, w.fixture.registry.value? type = some datum)) ∧
    (∀ (run : Runner E) (w entered : World E) (recipe : Recipe),
      w.fixture.recipe? type = some recipe → recipe.factory = some ⟨id, type⟩ →
      recipe.lifetime = .singleton → recipe.share = some type → w.enter (.of type) = .ok entered →
      (∀ target (param : Param), param.key.type = type →
        (∀ value origin, w.fixture.registry.lookup param.key = some (value, origin) →
          w.provide catalog run target param = (.ok (.ofOrigin origin, value), w)) ∧
        (w.fixture.registry.lookup param.key = none →
          (w.provide catalog run target param).1 =
            (run id entered).1.map fun datum => (.factory, .value type datum))) ∧
      (∀ signature arguments,
        (∀ datum, w.fixture.registry.value? type = some datum →
          (w.create catalog run type signature arguments).1 = .ok datum) ∧
        (w.fixture.registry.value? type = none →
          (w.create catalog run type signature arguments).1 =
            (run id (entered.emit [.fromFactory (.of type)])).1))) := by
  constructor
  · intro hunnamed w hw
    have hsettled := hw.settled hunnamed
    exact ⟨hsettled.made_le, fun hmade => hsettled.indexed.value?_of_holds (hsettled.holds hmade)⟩
  · intro run w entered recipe hrecipe hfactory hlifetime hshare henter
    constructor
    · rintro target param rfl
      refine ⟨fun value origin => provide_of_lookup catalog run, fun hlookup => ?_⟩
      exact provide_of_enter catalog run hlookup hrecipe hfactory henter
    · intro signature arguments
      have hkept : recipe.sharedAs = some type := by rw [Recipe.sharedAs, hlifetime, hshare]
      have hcreated :=
        create_of_sharedAs catalog run signature arguments hrecipe hfactory hkept henter
      refine ⟨fun datum hvalue => ?_, fun hvalue => ?_⟩
      · rw [hcreated, hvalue]
      · rw [hcreated, hvalue]

/-- Factories that all succeed, and one of which counts its products. -/
def counted (id : FactoryId) : Runner (Unit × Nat) := fun other w =>
  (.ok .null, w.mapSurroundings fun s => (s.1, s.2 + (Note.ended other (.ok .null)).products id))

theorem scripted_counted (catalog : Catalog (Unit × Nat)) (id : FactoryId) (type : TypeId)
    {conduct : Conduct (Unit × Nat)} (h : conduct.notes = (Conduct.tallied id type).notes) :
    Scripted catalog conduct (counted id) := by
  refine .idle fun other w => ⟨w, _, rfl, ?_, rfl⟩
  rw [h]
  rfl

/-- A gadget that two services share with the test; and one for which the test has a value. -/
theorem singleton_factory_once_shared :
    let gadget : TypeId := ⟨"Gadget"⟩
    let service : TypeId := ⟨"Service"⟩
    let catalog : Catalog Unit := ⟨fun type => type, fun _ => .null, fun _ =>
      [.ofFunction { name := "new", params := [.concrete "gadget" gadget] } fun _ => .ok .null]⟩
    let run := counted ⟨0⟩
    let start : World (Unit × Nat) := { surroundings := ((), 0) }
    let registered := start.performAll catalog.counting run [.addType gadget .singleton ⟨0⟩]
    let used := registered.performAll catalog.counting run
      [.create service none, .create gadget none, .create service none]
    let given := registered.useValue catalog.mockOf gadget (.int 3)
    used.made = 1 ∧ used.made ≤ 1 ∧
      (∃ datum, used.fixture.registry.value? gadget = some datum) ∧
      (registered.create catalog.counting run gadget none none).1 = .ok .null ∧
      (given.create catalog.counting run gadget none none).1 = .ok (.int 3) := by
  intro gadget service catalog run start registered used given
  have hunnamed : catalog.Unnamed gadget := by
    intro target constructor hconstructor param hparam _
    obtain rfl := List.mem_singleton.mp hconstructor
    obtain rfl := List.mem_singleton.mp hparam
    rfl
  have hrun : Scripted catalog.counting (Conduct.sparing ⟨0⟩ gadget) run :=
    scripted_counted catalog.counting ⟨0⟩ gadget rfl
  have hstart : Reachable catalog.counting (Conduct.sparing ⟨0⟩ gadget) start :=
    Fresh.reachable ⟨⟨{}, rfl⟩, rfl⟩
  have hregistered : Reachable catalog.counting (Conduct.sparing ⟨0⟩ gadget) registered := by
    refine hstart.performAll hrun ?_ fun _ _ _ => rfl
    intro command hcommand s
    obtain rfl := List.mem_singleton.mp hcommand
    simp [Conduct.sparing, Conduct.tallied]
  have hused : Reachable catalog.counting (Conduct.sparing ⟨0⟩ gadget) used := by
    refine hregistered.performAll hrun ?_ fun _ _ _ => rfl
    intro command hcommand s
    simp only [List.mem_cons, List.not_mem_nil, or_false] at hcommand
    rcases hcommand with rfl | rfl | rfl <;> simp [Conduct.sparing, Conduct.tallied]
  obtain ⟨honce, -⟩ := singleton_factory_once catalog ⟨0⟩ gadget
  obtain ⟨hmade, hvalue⟩ := honce hunnamed used hused
  obtain ⟨-, hrequest⟩ := singleton_factory_once catalog.counting ⟨0⟩ gadget
  have hone : used.made = 1 := by decide +kernel
  refine ⟨hone, hmade, hvalue (by omega), ?_, ?_⟩
  · exact ((hrequest run registered _ _ rfl rfl rfl rfl rfl).2 none none).2 rfl
  · exact ((hrequest run given _ _ rfl rfl rfl rfl rfl).2 none none).1 _ rfl

/-- Without sparing conduct a singleton factory comes to two products: when it is asked for under a
name, and when something else has taken the place of its product. -/
theorem singleton_factory_twice :
    let gadget : TypeId := ⟨"Gadget"⟩
    let service : TypeId := ⟨"Service"⟩
    let catalog : Catalog Unit := ⟨fun type => type, fun _ => .null, fun _ =>
      [.ofFunction { name := "new", params := [.capability "gadget" gadget (some "spare")] }
        fun _ => .ok .null]⟩
    let start : World (Unit × Nat) := { surroundings := ((), 0) }
    let named := start.performAll catalog.counting (counted ⟨0⟩)
      [.addType gadget .singleton ⟨0⟩, .create service none, .create service none]
    let displaced := start.performAll catalog.counting (counted ⟨0⟩)
      [.addType gadget .singleton ⟨0⟩, .create gadget none, .useInstance gadget ⟨0⟩,
        .create gadget none]
    Reachable catalog.counting (Conduct.tallied ⟨0⟩ gadget) named ∧ named.made = 2 ∧
      Reachable catalog.counting (Conduct.tallied ⟨0⟩ gadget) displaced ∧ displaced.made = 2 := by
  intro gadget service catalog start named displaced
  have hrun : Scripted catalog.counting (Conduct.tallied ⟨0⟩ gadget) (counted ⟨0⟩) :=
    scripted_counted catalog.counting ⟨0⟩ gadget rfl
  have hstart : Reachable catalog.counting (Conduct.tallied ⟨0⟩ gadget) start :=
    Fresh.reachable ⟨⟨{}, rfl⟩, rfl⟩
  refine ⟨hstart.performAll hrun ?_ fun _ _ _ => rfl, by decide +kernel,
    hstart.performAll hrun ?_ fun _ _ _ => rfl, by decide +kernel⟩
  · intro command hcommand s
    simp only [List.mem_cons, List.not_mem_nil, or_false] at hcommand
    rcases hcommand with rfl | rfl | rfl <;> simp [Conduct.tallied]
  · intro command hcommand s
    simp only [List.mem_cons, List.not_mem_nil, or_false] at hcommand
    rcases hcommand with rfl | rfl | rfl | rfl <;> simp [Conduct.tallied]

end World

end TestDoubles
