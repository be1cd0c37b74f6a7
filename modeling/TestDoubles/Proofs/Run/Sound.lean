import TestDoubles.Proofs.Filling.Explicit
import TestDoubles.Proofs.Registry.Requests
import TestDoubles.Proofs.Run.Recipes

/-!
# What is stored is of its type

Registered things, explicit arguments and recorded arguments are stored without their types, and every
reader states the type anew. Here it is shown that readers and writers agree in all worlds that come up
in runs: what an entry holds is told by its key and its origin, what a factory makes by the key of its
recipe, and what a parameter received by the parameter and the source that is on record.

- `Source.Stores` and `Injection.Suits` say how what comes from a source is stored.
- `World.Sound` is the invariant, and `World.Reachable.sound` shows that it is one.
- `World.Sound.suits` says the same of arguments that are on their way to a constructor.
-/

namespace TestDoubles

/-- How something that comes from a source is stored, for a key of the given type. -/
inductive Source.Stores (type : TypeId) : Source → Stored → Prop where
  -- The test has passed either an object or a plain value.
  | explicit {value : Stored} (h : value.type = type) : Stores type .explicit value
  | autoMock (ref : Ref) : Stores type .autoMock (.object type ref)
  | customMock (ref : Ref) : Stores type .customMock (.object type ref)
  | real (ref : Ref) : Stores type .real (.object type ref)
  | value (datum : Datum) : Stores type .value (.value type datum)
  | factory (datum : Datum) : Stores type .factory (.value type datum)
  | defaultValue (datum : Datum) : Stores type .defaultValue (.value type datum)
  | constructed (datum : Datum) : Stores type .constructed (.value type datum)

/-- What was injected for a parameter is what its source supplies. -/
structure Injection.Suits (param : Param) (injection : Injection) : Prop where
  parameter : injection.parameter = param.name
  key : injection.key = param.key
  stores : injection.source.Stores param.key.type injection.value
  kind_of_defaultValue : injection.source = .defaultValue → param.kind = .value
  kind_of_constructed : injection.source = .constructed → param.kind = .concrete

/-- The factory of a recipe makes what the recipe is for, and its product is read back as that. -/
def Recipe.Fits (key : Key) (recipe : Recipe) : Prop :=
  ∀ factory, recipe.factory = some factory →
    key = .of factory.product ∧ ∀ type, recipe.sharedAs = some type → type = factory.product

/-- An entry holds what its origin supplies, and objects for its aliases. -/
structure Entry.Typed (entry : Entry) : Prop where
  stores : (Source.ofOrigin entry.origin).Stores entry.key.type entry.object
  aliases : ∀ a ∈ entry.aliases, ∃ ref, a.object = .object a.key.type ref

/-! ## Single stores -/

section Entries

variable {mockOf : TypeId → TypeId} {entry : Entry}

/-- What an entry provides is stored as its origin tells. -/
theorem Entry.Coherent.stores (h : entry.Coherent mockOf) {key : Key} {object : Stored}
    (hobject : entry.provides? key = some object) :
    (Source.ofOrigin entry.origin).Stores key.type object := by
  have hmock (horigin : entry.origin.isMock) : ∃ ref, object = .object key.type ref := by
    obtain ⟨ref, hhandle, -⟩ := h.mock horigin
    exact ⟨ref, h.provides?_of_handle hhandle hobject⟩
  have hplain (horigin : entry.origin.isMock = false) : entry.key = key ∧ object = entry.object :=
    h.provides?_of_plain horigin hobject
  cases horigin : entry.origin with
  | autoMock =>
    obtain ⟨ref, rfl⟩ := hmock (by rw [horigin]; rfl)
    exact .autoMock ref
  | customMock =>
    obtain ⟨ref, rfl⟩ := hmock (by rw [horigin]; rfl)
    exact .customMock ref
  | real =>
    obtain ⟨rfl, rfl⟩ := hplain (by rw [horigin]; rfl)
    obtain ⟨ref, hstored⟩ := h.real horigin
    rw [hstored]
    exact .real ref
  | value =>
    obtain ⟨rfl, rfl⟩ := hplain (by rw [horigin]; rfl)
    obtain ⟨datum, hstored⟩ := h.value horigin
    rw [hstored]
    exact .value datum

theorem Entry.Coherent.typed (h : entry.Coherent mockOf) : entry.Typed where
  stores := h.stores (by simp [Entry.provides?])
  aliases := by
    intro a ha
    cases horigin : entry.origin.isMock with
    | true =>
      obtain ⟨ref, -, -, haliases⟩ := h.mock horigin
      exact ⟨ref, haliases a ha⟩
    | false =>
      rw [(h.plain horigin).2] at ha
      cases ha

/-- What is looked up is stored as its origin tells. -/
theorem Registry.Coherent.stores {r : Registry} {n : Nat} (h : r.Coherent mockOf n) {key : Key}
    {value : Stored} {origin : Origin} (hlookup : r.lookup key = some (value, origin)) :
    (Source.ofOrigin origin).Stores key.type value := by
  obtain ⟨entry, hentry, hprovided⟩ := Option.bind_eq_some_iff.mp hlookup
  obtain ⟨object, hobject, hpair⟩ := Option.map_eq_some_iff.mp hprovided
  obtain ⟨rfl, rfl⟩ := Prod.mk.inj hpair
  obtain ⟨i, -, hget⟩ := Option.bind_eq_some_iff.mp hentry
  exact (h.entries entry (List.mem_of_getElem? hget)).stores hobject

end Entries

/-! ## What can be read -/

/-- An object that cannot be read was not supplied as an object: it is a plain value that is
registered, made by a factory or passed by the test. -/
theorem Injection.Suits.source_of_object? {param : Param} {injection : Injection}
    (h : injection.Suits param) (hkind : param.kind = .capability)
    (hnone : injection.object? param.key.type = none) :
    injection.source = .value ∨ injection.source = .factory ∨
      injection.source = .explicit ∧ ∃ datum, injection.value = .value param.key.type datum := by
  obtain ⟨parameter, key, source, value⟩ := injection
  have hstores : source.Stores param.key.type value := h.stores
  have hvalue : value.object? param.key.type = none := hnone
  cases hstores with
  | explicit htype =>
    refine .inr (.inr ⟨rfl, ?_⟩)
    cases value with
    | object capability ref =>
      obtain rfl : capability = param.key.type := htype
      simp at hvalue
    | value type datum => exact ⟨datum, congrArg (Stored.value · datum) htype⟩
  | autoMock ref => simp at hvalue
  | customMock ref => simp at hvalue
  | real ref => simp at hvalue
  | value datum => exact .inl rfl
  | factory datum => exact .inr (.inl rfl)
  | defaultValue datum =>
    rw [h.kind_of_defaultValue rfl] at hkind
    cases hkind
  | constructed datum =>
    rw [h.kind_of_constructed rfl] at hkind
    cases hkind

/-- What the function of a constructor is called with is what its parameters declare, and can be read
so: an object is missing for a capability only where a plain value was supplied. -/
structure Intake.Matches (intake : Intake) (params : List Param) : Prop where
  suits : List.Forall₂ Injection.Suits params intake.injections
  reads {i : Nat} {param : Param} {e : Error} : params[i]? = some param →
    param.kind = .capability → intake.object param.key.type i = .error e →
      ∃ injection, intake.injections[i]? = some injection ∧
        (injection.source = .value ∨ injection.source = .factory ∨
          injection.source = .explicit ∧ ∃ datum, injection.value = .value param.key.type datum)

theorem Intake.matches_of_suits {intake : Intake} {params : List Param}
    (h : List.Forall₂ Injection.Suits params intake.injections) : intake.Matches params where
  suits := h
  reads := by
    intro i param e hparam hkind hread
    obtain ⟨hi, rfl⟩ := List.getElem?_eq_some_iff.mp hparam
    have hi' : i < intake.injections.length := h.length_eq ▸ hi
    have hsuits : (intake.injections[i]).Suits params[i] := h.get hi hi'
    have hget : intake.injections[i]? = some intake.injections[i] := List.getElem?_eq_getElem hi'
    refine ⟨intake.injections[i], hget, hsuits.source_of_object? hkind ?_⟩
    simp only [Intake.object, Intake.injection, hget, bind, Except.bind] at hread
    split at hread
    · cases hread
    · assumption

/-! ## Single changes -/

/-- Recording a construction adds it to those that are there. -/
theorem History.mem_constructions_record {h : History} {key : Key}
    {construction other : Construction}
    (hmem : other ∈ (h.record key construction).constructions) :
    other = construction ∨ other ∈ h.constructions := by
  obtain ⟨⟨target, list⟩, hpair, hother⟩ := List.mem_flatMap.mp hmem
  rcases Table.mem_entries_insert hpair with hnew | hold
  · obtain ⟨-, rfl⟩ := Prod.mk.inj hnew
    rcases List.mem_append.mp hother with hearlier | hlast
    · cases hfind : h.records.find? key with
      | none =>
        rw [hfind] at hearlier
        cases hearlier
      | some earlier =>
        rw [hfind] at hearlier
        exact .inr (List.mem_flatMap.mpr ⟨_, Table.mem_entries_of_find? hfind, hearlier⟩)
    · exact .inl (List.mem_singleton.mp hlast)
  · exact .inr (List.mem_flatMap.mpr ⟨_, hold, hother⟩)

/-- Whatever a recipe is made of by a command, it fits. -/
theorem Command.Rewrites.fits {command : Command} {key : Key} {recipe changed : Recipe}
    (h : command.Rewrites key recipe changed) (hfits : recipe.Fits key) : changed.Fits key := by
  cases h with
  | addType type lifetime id hfrozen =>
    intro factory hfactory
    obtain rfl := Option.some.inj hfactory
    refine ⟨rfl, fun shared hshared => ?_⟩
    cases lifetime with
    | transient => cases hshared
    | singleton => exact (Option.some.inj hshared).symm
  | setArguments type arguments hfrozen => exact hfits

theorem Command.Operates.arises {mockOf : TypeId → TypeId} {command : Command} {r : Registry}
    {next allocated : Nat} {change : Registry × List Event}
    (h : command.Operates mockOf r next allocated change) (hr : Registry.Arises mockOf next r) :
    Registry.Arises mockOf allocated change.1 := by
  cases h with
  | getMock capability name => exact hr.asks (.getOrCreateMock capability name)
  | getObject capability => exact hr.asks (.getOrCreateMock capability none)
  | addCustomMock capability name => exact hr.asks (.addCustomMock capability name)
  | useInstance capability ref => exact hr.useInstance capability ref
  | useValue type datum => exact hr.useValue type datum
  | combine capability other => exact hr.asks (.combine capability other)

namespace World

variable {E : Type}

/-! ## The invariant -/

/-- Everything that a fixture stores is of its type. -/
structure Sound (catalog : Catalog E) (w : World E) : Prop where
  registry : Registry.Arises catalog.mockOf w.allocated w.fixture.registry
  recipes : ∀ key recipe, w.fixture.recipes.find? key = some recipe → recipe.Fits key
  history : ∀ construction ∈ w.fixture.history.constructions,
    List.Forall₂ Injection.Suits construction.constructor.params construction.injections

namespace Sound

variable {catalog : Catalog E} {w w' : World E}

/-- Nothing is stored, though objects may be allocated. -/
theorem of_eq (h : Sound catalog w) (hallocated : w.allocated ≤ w'.allocated)
    (hregistry : w'.fixture.registry = w.fixture.registry)
    (hrecipes : w'.fixture.recipes = w.fixture.recipes)
    (hhistory : w'.fixture.history = w.fixture.history) : Sound catalog w' where
  registry := hregistry ▸ .allocate hallocated h.registry
  recipes := hrecipes ▸ h.recipes
  history := hhistory ▸ h.history

theorem of_passes (h : Sound catalog w) (hpasses : w.Passes w') : Sound catalog w' := by
  obtain ⟨hfixture, hallocated, -⟩ := hpasses
  exact h.of_eq hallocated (by rw [hfixture]) (by rw [hfixture]) (by rw [hfixture])

theorem enter (h : Sound catalog w) {key : Key} (henter : w.enter key = .ok w') :
    Sound catalog w' := by
  obtain ⟨-, rfl⟩ := enter_eq_ok_iff.mp henter
  exact h.of_eq (Nat.le_refl _) rfl rfl rfl

theorem insertRecipe (h : Sound catalog w) {key : Key} {recipe : Recipe}
    (hfits : recipe.Fits key) :
    Sound catalog (w.mapFixture fun f => { f with recipes := f.recipes.insert key recipe }) where
  registry := h.registry
  recipes := Recipes.insert h.recipes hfits rfl
  history := h.history

theorem freeze (h : Sound catalog w) (key : Key) :
    Sound catalog (w.mapFixture (Fixture.freeze · key)) where
  registry := by
    show Registry.Arises catalog.mockOf w.allocated (w.fixture.freeze key).registry
    rw [Fixture.registry_freeze]
    exact h.registry
  recipes := Recipes.freeze h.recipes (fun hfits => hfits) key
  history := by
    rw [mapFixture, Fixture.history_freeze]
    exact h.history

/-- A recipe that is missing has no factory. -/
theorem fits_getD (h : Sound catalog w) (key : Key) :
    ((w.fixture.recipes.find? key).getD { target := key }).Fits key :=
  Recipes.getD h.recipes (fun _ _ hfactory => nomatch hfactory) key

/-- The product of the factory that was called is registered. -/
theorem insertProduct (h : Sound catalog w) {key : Key} {recipe : Recipe} {factory : Factory}
    (hfits : recipe.Fits key) (hfactory : recipe.factory = some factory) (datum : Datum) :
    Sound catalog (w.insertValue catalog.mockOf key (.value factory.product datum)) := by
  obtain ⟨rfl, -⟩ := hfits factory hfactory
  exact ⟨h.registry.useValue factory.product datum, h.recipes, h.history⟩

/-! ## What parameters receive -/

section Receiving

variable {run : Runner E} {target : TypeId} {param : Param} {source : Source} {value : Stored}

theorem stores_provided (h : Sound catalog w)
    (hprovided : Provided catalog run target param w (.ok (source, value), w')) :
    source.Stores param.key.type value ∧ (source = .defaultValue → param.kind = .value) ∧
      (source = .constructed → param.kind = .concrete) := by
  cases hprovided with
  | @registered _ origin hlookup =>
    refine ⟨h.registry.coherent.stores hlookup, ?_, ?_⟩ <;> cases origin <;> simp [Source.ofOrigin]
  | made _ hproduced =>
    refine ⟨?_, by simp, by simp⟩
    cases hproduced with
    | transient hrecipe hfactory _ _ _ =>
      obtain ⟨hkey, -⟩ := h.recipes _ _ hrecipe _ hfactory
      rw [Key.of_inj.mp hkey]
      exact .factory _
    | singleton hrecipe hfactory _ _ _ =>
      obtain ⟨hkey, -⟩ := h.recipes _ _ hrecipe _ hfactory
      rw [Key.of_inj.mp hkey]
      exact .factory _
  | fellBack hlookup _ hfellBack =>
    cases hfellBack with
    | mocked hkind hcreate =>
      obtain ⟨hok, -⟩ := Prod.mk.inj hcreate
      obtain ⟨rfl, -⟩ := Registry.getOrCreateMock_of_lookup catalog.mockOf
        h.registry.coherent.indexed hlookup hok
      exact ⟨.autoMock _, by simp, by simp⟩
    | defaultValue hkind _ => exact ⟨.defaultValue _, fun _ => hkind, by simp⟩
    | constructed hkind => exact ⟨.constructed _, by simp, fun _ => hkind⟩

/-- **What a parameter receives in a sound world suits it.** -/
theorem suits (h : Sound catalog w) {explicit : Arguments} {used used' : List Bool}
    {injection : Injection}
    (hresolved : Resolved catalog run target explicit param used w (.ok (injection, used'), w')) :
    injection.Suits param := by
  cases hresolved with
  | explicit hfind =>
    obtain ⟨-, htype, -⟩ := Arguments.getElem?_of_firstUnused hfind
    exact ⟨rfl, rfl, .explicit htype, by simp, by simp⟩
  | provided _ hprovided =>
    obtain ⟨hstores, hdefault, hconstructed⟩ := h.stores_provided hprovided
    exact ⟨rfl, rfl, hstores, hdefault, hconstructed⟩

end Receiving

/-! ## Runs -/

/-- **Runs keep worlds sound.** -/
theorem kept (catalog : Catalog E) (conduct : Conduct E) :
    Kept catalog conduct fun w w' => Sound catalog w → Sound catalog w' where
  refl _ h := h
  trans h₁ h₂ h := h₂ (h₁ h)
  reports hpasses _ h := h.of_passes hpasses
  outside hpasses _ h := h.of_passes hpasses
  answered _ _ _ hperformed _ h := (hperformed h).of_eq (Nat.le_refl _) rfl rfl rfl
  operated _ hoperates h := ⟨hoperates.arises h.registry, h.recipes, h.history⟩
  rewritten {_ _ key _} _ hrewrites h := h.insertRecipe (hrewrites.fits (h.fits_getD key))
  configured _ h := h.of_eq (Nat.le_refl _) rfl rfl rfl
  reset _ _ := ⟨.empty _, (fun _ _ hrecipe => nomatch hrecipe), (fun _ hmem => nomatch hmem)⟩
  bracket henter hdone h := (hdone (h.enter henter)).of_eq (Nat.le_refl _) rfl rfl rfl
  failed hcalled hdone _ h := (hdone (h.enter hcalled.enters)).of_eq (Nat.le_refl _) rfl rfl rfl
  unshared hcalled _ hdone _ h :=
    (hdone (h.enter hcalled.enters)).of_eq (Nat.le_refl _) rfl rfl rfl
  shared {_ _ done _ recipe _ datum s} hcalled _ hdone _ h := by
    -- The recipe that was called is that of before, whatever the factory has registered meanwhile.
    have hfits := h.recipes _ recipe hcalled.find_recipe
    have hended : Sound catalog (done.mapSurroundings fun _ => s) :=
      (hdone (h.enter hcalled.enters)).of_eq (Nat.le_refl _) rfl rfl rfl
    exact (hended.insertProduct hfits hcalled.has_factory datum).of_eq (Nat.le_refl _) rfl rfl rfl
  mocked {_ key} _ h :=
    ⟨h.registry.asks (.getOrCreateMock key.type key.name), h.recipes, h.history⟩
  unbuilt _ _ h := h.of_eq (Nat.le_refl _) rfl rfl rfl
  recorded {_ _ _ _ _ _ injections _ _} _ hinjected hfilled _ h := by
    have hw := hfilled h
    refine ⟨hw.registry, hw.recipes, fun construction hmem => ?_⟩
    rcases History.mem_constructions_record hmem with rfl | hold
    · refine hinjected.imp ?_
      rintro param injection ⟨_, _, _, _, hreached, hresolved⟩
      exact (hreached h).suits hresolved
    · exact hw.history construction hold
  frozen _ key h := h.freeze key
  built _ h := h.of_eq (Nat.le_refl _) rfl rfl rfl

end Sound

/-- **All worlds that come up in runs are sound.** -/
theorem Reachable.sound {catalog : Catalog E} {conduct : Conduct E} {w : World E}
    (hw : Reachable catalog conduct w) : Sound catalog w := by
  refine (Sound.kept catalog conduct).reachable (fun henter h => h.enter henter) ?_ hw
  intro start hfresh
  obtain ⟨⟨options, hoptions⟩, -⟩ := hfresh
  constructor
  · rw [hoptions]
    exact .empty _
  · intro key recipe hrecipe
    rw [hoptions] at hrecipe
    cases hrecipe
  · intro construction hmem
    rw [hoptions] at hmem
    cases hmem

end World

end TestDoubles
