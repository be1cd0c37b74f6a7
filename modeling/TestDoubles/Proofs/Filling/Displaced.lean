import TestDoubles.Proofs.Filling.Explicit
import TestDoubles.Proofs.Registry.Serving
import TestDoubles.Proofs.Run.Sound

/-!
# What building an instance displaces

Building an instance registers doubles for what is missing, and the products of singleton factories. The
doubles come last and disturb nothing. A product is registered under the type it was made for, and takes
the place of whatever the test has registered there, aliases included. That happens when the factory
was asked although the type has an entry: for a parameter under the name of a double, since only the
name is looked up then, and for an instance of the type itself when its entry is not a value.

- `Registry.KeepsBut` and `Fixture.KeepsBut` say what is left of the entries, up to some keys.
- `World.Displaces` holds of the keys whose entries a resolution puts products in place of,
  `World.CreationDisplaces` of those for which a creation does.
- `World.displaced_by_products`: these entries are displaced, and all others stay as they are.
-/

namespace TestDoubles

/-! ## Registries -/

namespace Registry

/-- A product for the key of an entry is where the entry was. -/
def Displaced (r : Registry) (i : Nat) (entry : Entry) : Prop :=
  ∃ datum, r.entries[i]? = some (.ofValue entry.key (.value entry.key.type datum))

/-- All entries stay as they are, each in its place, except that products may take the places of those
whose keys are among `displaced`. -/
def KeepsBut (displaced : Key → Prop) (r r' : Registry) : Prop :=
  ∀ i entry, r.entries[i]? = some entry →
    r'.entries[i]? = some entry ∨ displaced entry.key ∧ r'.Displaced i entry

section KeepsBut

variable {mockOf : TypeId → TypeId} {displaced displaced' : Key → Prop} {r r' r'' : Registry}

theorem KeepsBut.refl (displaced : Key → Prop) (r : Registry) : r.KeepsBut displaced r :=
  fun _ _ hget => .inl hget

/-- A place that a product has taken holds a product from then on. -/
theorem Displaced.keep {i : Nat} {entry : Entry} (h : r.Displaced i entry)
    (hkeeps : r.KeepsBut displaced r') : r'.Displaced i entry := by
  obtain ⟨datum, hget⟩ := h
  rcases hkeeps i _ hget with hkept | ⟨-, hagain⟩
  · exact ⟨datum, hkept⟩
  · exact hagain

theorem KeepsBut.trans (h : r.KeepsBut displaced r') (h' : r'.KeepsBut displaced r'') :
    r.KeepsBut displaced r'' := by
  intro i entry hget
  rcases h i entry hget with hkept | ⟨hkey, hdisplaced⟩
  -- What the first part has left may still be displaced by the second; what is gone stays gone.
  · exact h' i entry hkept
  · exact .inr ⟨hkey, hdisplaced.keep h'⟩

theorem KeepsBut.mono (h : r.KeepsBut displaced r')
    (hsub : ∀ entry ∈ r.entries, displaced entry.key → displaced' entry.key) :
    r.KeepsBut displaced' r' := by
  intro i entry hget
  exact (h i entry hget).imp_right fun hdone =>
    ⟨hsub entry (List.mem_of_getElem? hget) hdone.1, hdone.2⟩

/-- A double that is created comes last. -/
theorem Requested.keepsBut {fresh : Ref} {capability : TypeId}
    {name : Option String} {outcome : Outcome Mock}
    (hrequested : Requested mockOf r fresh capability name outcome) (displaced : Key → Prop) :
    r.KeepsBut displaced outcome.registry := by
  cases hrequested with
  | nameless _ => exact .refl displaced r
  | found _ _ => exact .refl displaced r
  | created _ hnone =>
    intro i entry hget
    have hlt : i < r.entries.length := (List.getElem?_eq_some_iff.mp hget).1
    left
    rw [insert_of_position? mockOf (by exact hnone), List.getElem?_append_left hlt]
    exact hget

/-- A value takes the place of the entry of its type, without the aliases. -/
theorem getElem?_insertValue (h : r.Indexed) {i : Nat} {entry : Entry}
    (hget : r.entries[i]? = some entry) (type : TypeId) (datum : Datum) :
    (r.insertValue mockOf (.of type) (.value type datum)).1.entries[i]? =
      if entry.key = .of type then some (.ofValue (.of type) (.value type datum))
      else some entry := by
  have hlt : i < r.entries.length := (List.getElem?_eq_some_iff.mp hget).1
  have hexact := h.find?_exact_key hget
  unfold insertValue
  rcases insert_cases mockOf h (.ofValue (.of type) (.value type datum)) with
    ⟨j, previous, hfind, hj, hprevious, heq⟩ | ⟨hnone, heq⟩
  -- An entry at `j` is replaced. Keys are distinct, so it is ours only if `j` is our place.
  · rw [heq]
    by_cases hij : j = i
    · subst hij
      obtain rfl := Option.some.inj (hj.symm.trans hget)
      -- A value serves no other capability.
      have hcarried :
          carriedAliases mockOf previous (.ofValue (.of type) (.value type datum)) = [] :=
        List.filterMap_eq_nil_iff.mpr fun _ _ => rfl
      rw [if_pos (show previous.key = .of type from hprevious), List.getElem?_set_self hlt, hcarried]
      rfl
    · have hkey : entry.key ≠ .of type := by
        intro hkey
        rw [hkey] at hexact
        exact hij (Option.some.inj (hfind.symm.trans hexact))
      rw [if_neg hkey, List.getElem?_set_ne hij, hget]
  -- The value is new and comes last.
  · have hkey : entry.key ≠ .of type := by
      intro hkey
      rw [hkey] at hexact
      cases hnone.symm.trans hexact
    rw [heq, if_neg hkey, List.getElem?_append_left hlt, hget]

theorem displaced_insertValue (h : r.Indexed) {i : Nat} {entry : Entry}
    (hget : r.entries[i]? = some entry) {type : TypeId} (hkey : entry.key = .of type)
    (datum : Datum) :
    (r.insertValue mockOf (.of type) (.value type datum)).1.Displaced i entry := by
  refine ⟨datum, ?_⟩
  rw [getElem?_insertValue h hget, if_pos hkey, hkey]
  rfl

theorem keepsBut_insertValue (h : r.Indexed) (type : TypeId) (datum : Datum) :
    r.KeepsBut (fun key => key = .of type)
      (r.insertValue mockOf (.of type) (.value type datum)).1 := by
  intro i entry hget
  by_cases hkey : entry.key = .of type
  · exact .inr ⟨hkey, displaced_insertValue h hget hkey datum⟩
  · rw [getElem?_insertValue h hget, if_neg hkey]
    exact .inl rfl

/-- Something under a name is found there as long as its entry is, for aliases have no names. -/
theorem KeepsBut.lookup_eq_none (h : r.KeepsBut displaced r') {n : Nat} (hr : r.Coherent mockOf n)
    (hr' : r'.Indexed) {key : Key} (hname : key.name ≠ none) (hnone : r'.lookup key = none) :
    r.lookup key = none := by
  rw [hr'.lookup_eq_none_iff, answers, List.any_eq_false] at hnone
  rw [hr.indexed.lookup_eq_none_iff, answers, List.any_eq_false]
  intro entry hentry hprovides
  rcases (provides?_isSome_iff entry key).mp hprovides with rfl | halias
  · obtain ⟨i, hget⟩ := List.mem_iff_getElem?.mp hentry
    -- Whether it is still the entry or a product in its place, it has the key.
    rcases h i entry hget with hkept | ⟨-, datum, hdisplaced⟩
    · exact hnone entry (List.mem_of_getElem? hkept) hprovides
    · apply hnone _ (List.mem_of_getElem? hdisplaced)
      simp [Entry.provides?, Entry.ofValue]
  · have hmem := (Entry.mem_aliasKeys_iff entry key).mpr halias
    exact hname ((hr.entries entry hentry).aliasKeys_unnamed key hmem)

end KeepsBut

end Registry

/-! ## Fixtures -/

namespace Fixture

/-- Whether the factory for a key has its products registered. -/
def keepsProduct (f : Fixture) (key : Key) : Bool :=
  (f.recipes.find? key).any fun recipe => recipe.hasFactory && recipe.lifetime = .singleton

/-- Filling the parameter registers a product for its type: it asks for a name, nothing is meant for it
and nothing answers, and the factory for the type is a singleton. -/
structure Supplants (f : Fixture) (argument : Option Stored) (param : Param) : Prop where
  named : param.key.name ≠ none
  unsupplied : argument = none
  unanswered : f.registry.lookup param.key = none
  kept : f.keepsProduct param.key.unnamed = true

/-- What filling parameters and running factories leaves of a fixture. -/
structure KeepsBut (displaced : Key → Prop) (f f' : Fixture) : Prop where
  indexed : f'.registry.Indexed
  entries : f.registry.KeepsBut displaced f'.registry
  -- Doubles are created for names only where there is no factory.
  unanswered : ∀ key : Key, key.name ≠ none → f.hasFactory key.unnamed →
    f.registry.lookup key = none → f'.registry.lookup key = none
  recipes : ∀ key,
    (f'.recipes.find? key).map Recipe.thawed = (f.recipes.find? key).map Recipe.thawed

theorem hasFactory_of_keepsProduct {f : Fixture} {key : Key} (h : f.keepsProduct key = true) :
    f.hasFactory key = true := by
  unfold keepsProduct at h
  unfold hasFactory
  cases hrecipe : f.recipes.find? key with
  | none => simp [hrecipe] at h
  | some recipe => simp_all

namespace KeepsBut

variable {displaced displaced' : Key → Prop} {f f' f'' : Fixture}

theorem of_eq (hindexed : f.registry.Indexed) (hregistry : f'.registry = f.registry)
    (hrecipes : f'.recipes = f.recipes) : f.KeepsBut displaced f' where
  indexed := hregistry ▸ hindexed
  entries := hregistry ▸ .refl displaced f.registry
  unanswered _ _ _ hnone := hregistry ▸ hnone
  recipes _ := by rw [hrecipes]

theorem any_eq (h : f.KeepsBut displaced f') {p : Recipe → Bool} (hp : ∀ r, p r.thawed = p r)
    (key : Key) : (f'.recipes.find? key).any p = (f.recipes.find? key).any p := by
  rw [← Recipe.any_thawed hp, h.recipes, Recipe.any_thawed hp]

theorem hasFactory_eq (h : f.KeepsBut displaced f') (key : Key) :
    f'.hasFactory key = f.hasFactory key :=
  h.any_eq (fun _ => rfl) key

theorem keepsProduct_eq (h : f.KeepsBut displaced f') (key : Key) :
    f'.keepsProduct key = f.keepsProduct key :=
  h.any_eq (fun _ => rfl) key

/-- Recipes still fit. -/
theorem fits (h : f.KeepsBut displaced f')
    (hfits : ∀ key recipe, f.recipes.find? key = some recipe → recipe.Fits key) (key : Key)
    (recipe : Recipe) (hrecipe : f'.recipes.find? key = some recipe) : recipe.Fits key := by
  have hrecipes := h.recipes key
  rw [hrecipe] at hrecipes
  obtain ⟨old, hold, hthawed⟩ := Option.map_eq_some_iff.mp hrecipes.symm
  have hold' : old.thawed.Fits key := hfits key old hold
  rw [hthawed] at hold'
  exact hold'

theorem trans (h : f.KeepsBut displaced f') (h' : f'.KeepsBut displaced f'') :
    f.KeepsBut displaced f'' where
  indexed := h'.indexed
  entries := h.entries.trans h'.entries
  unanswered key hname hfactory hnone :=
    h'.unanswered key hname (h.hasFactory_eq _ ▸ hfactory) (h.unanswered key hname hfactory hnone)
  recipes key := (h'.recipes key).trans (h.recipes key)

theorem mono (h : f.KeepsBut displaced f')
    (hsub : ∀ entry ∈ f.registry.entries, displaced entry.key → displaced' entry.key) :
    f.KeepsBut displaced' f' :=
  ⟨h.indexed, h.entries.mono hsub, h.unanswered, h.recipes⟩

theorem freeze (hindexed : f.registry.Indexed) (displaced : Key → Prop) (key : Key) :
    f.KeepsBut displaced (f.freeze key) := by
  refine ⟨?_, ?_, fun other _ _ hnone => ?_, f.thawed_freeze key⟩
  · rwa [registry_freeze]
  · rw [registry_freeze]
    exact .refl displaced f.registry
  · rwa [registry_freeze]

/-- **Whether a parameter registers a product is told by the fixture at the start.** -/
theorem supplants_iff (h : f.KeepsBut displaced f') {mockOf : TypeId → TypeId} {n : Nat}
    (hcoherent : f.registry.Coherent mockOf n) (argument : Option Stored) (param : Param) :
    f'.Supplants argument param ↔ f.Supplants argument param := by
  constructor
  -- Products and doubles take no name away, and with a factory no name is added.
  · rintro ⟨hnamed, hargument, hlookup, hkept⟩
    refine ⟨hnamed, hargument, ?_, h.keepsProduct_eq _ ▸ hkept⟩
    exact h.entries.lookup_eq_none hcoherent h.indexed hnamed hlookup
  · rintro ⟨hnamed, hargument, hlookup, hkept⟩
    refine ⟨hnamed, hargument, ?_, h.keepsProduct_eq _ ▸ hkept⟩
    exact h.unanswered param.key hnamed (hasFactory_of_keepsProduct hkept) hlookup

end KeepsBut

end Fixture

/-! ## Filling parameters -/

/-- The factories of a runner change nothing of the fixture. -/
def Runner.Quiet {E : Type} (run : Runner E) : Prop :=
  ∀ id w, (run id w).2.fixture = w.fixture

namespace World

variable {E : Type} {catalog : Catalog E} {run : Runner E} {target : TypeId}
  {explicit : Arguments} {earlier : List Param} {param : Param} {used used' : List Bool}
  {w₀ w w' : World E} {displaced : Key → Prop}

theorem fixture_of_run (hquiet : run.Quiet) {id : FactoryId} {started ended : World E}
    {answer : Except Error Datum} (hrun : run id started = (answer, ended)) :
    ended.fixture = started.fixture := by
  have hended := hquiet id started
  rwa [hrun] at hended

/-- When a quiet factory has run, the fixture is as it was. -/
theorem fixture_leave (hquiet : run.Quiet) {key : Key} {id : FactoryId} {entered ended : World E}
    {answer : Except Error Datum} (henter : w.enter key = .ok entered)
    (hrun : run id entered = (answer, ended)) : ended.leave.fixture = w.fixture := by
  obtain ⟨-, rfl⟩ := enter_eq_ok_iff.mp henter
  show Fixture.leave ended.fixture = w.fixture
  rw [fixture_of_run hquiet hrun]
  simp [mapFixture, Fixture.leave]

/-- A product takes the place of the entry of its type, if products are kept. -/
theorem Produced.keepsBut (hquiet : run.Quiet) (hindexed : w.fixture.registry.Indexed)
    (hfits : ∀ key recipe, w.fixture.recipes.find? key = some recipe → recipe.Fits key)
    {type : TypeId} {result : Except Error (Option Stored) × World E}
    (h : Produced catalog run (.of type) w result) :
    w.fixture.KeepsBut (fun key => key = .of type ∧ w.fixture.keepsProduct key = true)
      result.2.fixture := by
  cases h with
  | noFactory _ => exact .of_eq hindexed rfl rfl
  | cyclic _ _ _ => exact .of_eq hindexed rfl rfl
  | failed _ _ henter hrun =>
    have hleave := fixture_leave hquiet henter hrun
    exact .of_eq hindexed (by rw [hleave]) (by rw [hleave])
  | transient _ _ _ henter hrun =>
    have hleave := fixture_leave hquiet henter hrun
    show w.fixture.KeepsBut _ (Fixture.freeze _ (.of type))
    rw [hleave]
    exact .freeze hindexed _ _
  | @singleton recipe factory _ ended datum hrecipe hfactory hlifetime henter hrun =>
    have hleave := fixture_leave hquiet henter hrun
    -- The product is of the type that the recipe is for.
    obtain ⟨hkey, -⟩ := hfits _ _ hrecipe _ hfactory
    obtain rfl := Key.of_inj.mp hkey
    have hkept : w.fixture.keepsProduct (.of factory.product) = true := by
      simp [Fixture.keepsProduct, hrecipe, Recipe.hasFactory, hfactory, hlifetime]
    have hinserted : w.fixture.KeepsBut
        (fun key => key = .of factory.product ∧ w.fixture.keepsProduct key = true)
        { w.fixture with
          registry := (w.fixture.registry.insertValue catalog.mockOf (.of factory.product)
            (.value factory.product datum)).1 } := by
      refine ⟨Registry.indexed_insert hindexed _, ?_, ?_, fun _ => rfl⟩
      · apply (Registry.keepsBut_insertValue hindexed factory.product datum).mono
        intro entry _ hown
        exact ⟨hown, hown ▸ hkept⟩
      · intro key hname _ hnone
        apply Registry.lookup_insert_eq_none hindexed _ rfl hnone
        -- A product has no name.
        rintro rfl
        exact hname rfl
    show w.fixture.KeepsBut _ (Fixture.freeze { ended.leave.fixture with registry := _ } _)
    rw [hleave]
    exact hinserted.trans (.freeze hinserted.indexed _ _)

/-- A double that is created disturbs nothing. -/
theorem keepsBut_onRegistry (hindexed : w.fixture.registry.Indexed)
    (hfactory : w.fixture.hasFactory param.key.unnamed = false) {answer : Except Error Mock}
    (hcreate : (w.onRegistry fun r fresh =>
      r.getOrCreateMock catalog.mockOf fresh param.key.type param.key.name) = (answer, w')) :
    w.fixture.KeepsBut displaced w'.fixture := by
  obtain ⟨-, rfl⟩ := Prod.mk.inj hcreate
  have hrequested := Registry.requested catalog.mockOf hindexed ⟨w.allocated⟩ param.key.type
    param.key.name
  refine ⟨hrequested.indexed hindexed, hrequested.keepsBut displaced, ?_, fun _ => rfl⟩
  intro key _ hhas hnone
  apply hrequested.lookup_eq_none hindexed _ hnone
  -- The one type has a factory, the other has none.
  rintro rfl
  rw [show Key.unnamed ⟨param.key.type, param.key.name⟩ = param.key.unnamed from rfl, hfactory] at hhas
  cases hhas

theorem Provided.keepsBut (hquiet : run.Quiet) (hindexed : w.fixture.registry.Indexed)
    (hfits : ∀ key recipe, w.fixture.recipes.find? key = some recipe → recipe.Fits key)
    {result : Except Error (Source × Stored) × World E}
    (h : Provided catalog run target param w result) :
    w.fixture.KeepsBut (fun key => key = param.key.unnamed ∧ w.fixture.Supplants none param)
      result.2.fixture := by
  have hproduced (hlookup : w.fixture.registry.lookup param.key = none)
      {result : Except Error (Option Stored) × World E}
      (hproduced : Produced catalog run param.key.unnamed w result) :
      w.fixture.KeepsBut (fun key => key = param.key.unnamed ∧ w.fixture.Supplants none param)
        result.2.fixture := by
    apply (Produced.keepsBut hquiet hindexed hfits hproduced).mono
    rintro entry hentry ⟨hkey, hkept⟩
    rw [hkey] at hkept
    refine ⟨hkey, ?_, rfl, hlookup, hkept⟩
    -- Without a name, the entry would have been found.
    intro hname
    have hown : param.key = entry.key := by
      rw [hkey]
      exact congrArg (Key.mk param.key.type) hname
    rw [hindexed.lookup_eq_none_iff, hown, Registry.answers, List.any_eq_false] at hlookup
    exact hlookup entry hentry (by simp [Entry.provides?])
  cases h with
  | registered _ => exact .of_eq hindexed rfl rfl
  | failed hlookup h => exact hproduced hlookup h
  | made hlookup h => exact hproduced hlookup h
  | fellBack hlookup hfactory h =>
    -- Among the fallbacks only a double touches the registry.
    cases h with
    | mocked _ hcreate => exact keepsBut_onRegistry hindexed hfactory hcreate
    | refused _ hcreate => exact keepsBut_onRegistry hindexed hfactory hcreate
    | defaultValue _ _ => exact .of_eq hindexed rfl rfl
    | unresolvable _ _ => exact .of_eq hindexed rfl rfl
    | constructed _ => exact .of_eq hindexed rfl rfl

/-- **Filling one parameter** leaves all entries as they are, unless it registers a product. -/
theorem Resolved.keepsBut (hquiet : run.Quiet) (hindexed : w.fixture.registry.Indexed)
    (hfits : ∀ key recipe, w.fixture.recipes.find? key = some recipe → recipe.Fits key)
    {result : Except Error (Injection × List Bool) × World E}
    (h : Resolved catalog run target explicit param used w result) :
    w.fixture.KeepsBut (fun key => key = param.key.unnamed ∧
      w.fixture.Supplants ((explicit.find? param.key.type used).map Prod.snd) param)
      result.2.fixture := by
  cases h with
  | explicit _ => exact .of_eq hindexed rfl rfl
  | provided hfind h =>
    rw [hfind]
    exact h.keepsBut hquiet hindexed hfits
  | failed hfind h =>
    rw [hfind]
    exact h.keepsBut hquiet hindexed hfits

/-- A parameter that registers a product displaces the entry of its type. -/
theorem Resolved.displaces (hquiet : run.Quiet) (hindexed : w.fixture.registry.Indexed)
    (hfits : ∀ key recipe, w.fixture.recipes.find? key = some recipe → recipe.Fits key)
    {injection : Injection}
    (h : Resolved catalog run target explicit param used w (.ok (injection, used'), w'))
    (hsupplants : w.fixture.Supplants ((explicit.find? param.key.type used).map Prod.snd) param)
    {i : Nat} {entry : Entry} (hget : w.fixture.registry.entries[i]? = some entry)
    (hkey : entry.key = param.key.unnamed) : w'.fixture.registry.Displaced i entry := by
  obtain ⟨-, hargument, hlookup, hkept⟩ := hsupplants
  -- With no argument, no answer and a singleton factory, only one way of filling is left.
  cases h with
  | explicit hfind =>
    rw [hfind] at hargument
    cases hargument
  | provided _ h =>
    cases h with
    | registered hfound =>
      rw [hlookup] at hfound
      cases hfound
    | fellBack _ hfactory _ =>
      rw [Fixture.hasFactory_of_keepsProduct hkept] at hfactory
      cases hfactory
    | made _ h =>
      cases h with
      | transient hrecipe _ hlifetime _ _ =>
        rw [Fixture.keepsProduct, hrecipe] at hkept
        simp [hlifetime] at hkept
      | @singleton recipe factory _ ended datum hrecipe hfactory _ henter hrun =>
        have hleave := fixture_leave hquiet henter hrun
        obtain ⟨hproduct, -⟩ := hfits _ _ hrecipe _ hfactory
        rw [hproduct] at hkey ⊢
        show Registry.Displaced (Fixture.freeze _ _).registry i entry
        rw [Fixture.registry_freeze]
        show Registry.Displaced (ended.leave.fixture.registry.insertValue catalog.mockOf _ _).1 i entry
        rw [hleave]
        exact Registry.displaced_insertValue hindexed hget hkey datum

theorem Resolved.covers {injection : Injection} (hcovers : explicit.Covers earlier used)
    (h : Resolved catalog run target explicit param used w (.ok (injection, used'), w')) :
    explicit.Covers (earlier ++ [param]) used' := by
  cases h with
  | explicit hfind => exact hcovers.take hfind
  | provided hfind _ => exact hcovers.skip hfind

/-- When parameters have been filled, the mask covers them. -/
theorem covers_resolveParams {params : List Param} {injections : List Injection}
    (hcovers : explicit.Covers earlier used)
    (h : w.resolveParams catalog run target explicit params used = (.ok (injections, used'), w')) :
    explicit.Covers (earlier ++ params) used' := by
  induction params generalizing earlier used w injections with
  | nil =>
    obtain ⟨hok, -⟩ := Prod.mk.inj h
    obtain ⟨-, rfl⟩ := Prod.mk.inj (Except.ok.inj hok)
    rwa [List.append_nil]
  | cons param params ih =>
    obtain ⟨injection, used₁, w₁, later, hfirst, hlater, -⟩ := resolveParams_cons_eq_ok h
    have hresolved := resolved catalog run target explicit param used w
    rw [hfirst] at hresolved
    have hdone := ih (hresolved.covers hcovers) hlater
    rwa [List.append_assoc, List.singleton_append] at hdone

/-- **Filling parameters** displaces nothing but entries of their types, by induction on those that are
left. -/
theorem keepsBut_resolveParams (hquiet : run.Quiet)
    (hfits : ∀ key recipe, w₀.fixture.recipes.find? key = some recipe → recipe.Fits key)
    {params : List Param} {answer : Except Error (List Injection × List Bool)}
    (h : w₀.fixture.KeepsBut displaced w.fixture) (hcovers : explicit.Covers earlier used)
    (hdisplaced : ∀ before param after f, params = before ++ param :: after →
      w₀.fixture.KeepsBut displaced f →
      f.Supplants (explicit.argumentFor (earlier ++ before) param) param →
        displaced param.key.unnamed)
    (hresolve : w.resolveParams catalog run target explicit params used = (answer, w')) :
    w₀.fixture.KeepsBut displaced w'.fixture := by
  induction params generalizing earlier used w answer with
  | nil =>
    obtain ⟨-, rfl⟩ := Prod.mk.inj hresolve
    exact h
  | cons param params ih =>
    have hresolved := resolved catalog run target explicit param used w
    have hfirst : w₀.fixture.KeepsBut displaced
        (w.resolveArgument catalog run target explicit param used).2.fixture := by
      apply h.trans
      -- What this parameter displaces is read off the arguments that are meant for it.
      apply (hresolved.keepsBut hquiet h.indexed (h.fits hfits)).mono
      rintro entry - ⟨hkey, hsupplants⟩
      rw [hcovers.map_snd_find?] at hsupplants
      rw [hkey]
      apply hdisplaced [] param params w.fixture rfl h
      rwa [List.append_nil]
    rcases heq : w.resolveArgument catalog run target explicit param used with
      ⟨e | ⟨injection, used'⟩, w₁⟩
    -- A parameter that cannot be filled ends it all.
    · rw [resolveParams_cons_of_error heq] at hresolve
      obtain ⟨-, rfl⟩ := Prod.mk.inj hresolve
      rwa [heq] at hfirst
    · rw [resolveParams_cons_of_ok heq] at hresolve
      obtain ⟨-, rfl⟩ := Prod.mk.inj hresolve
      rw [heq] at hfirst hresolved
      apply ih (w := w₁.emit [.resolvedArgument injection.parameter injection.source]) hfirst
        (hresolved.covers hcovers) _ rfl
      intro before other after f hsplit hkeeps hsupplants
      apply hdisplaced (param :: before) other after f (by rw [hsplit]; rfl) hkeeps
      rwa [List.append_assoc] at hsupplants

/-- When all parameters have been filled, one that registers a product has displaced the entry of its
type. -/
theorem displaced_resolveParams (hquiet : run.Quiet) {n : Nat}
    (hcoherent : w.fixture.registry.Coherent catalog.mockOf n)
    (hfits : ∀ key recipe, w.fixture.recipes.find? key = some recipe → recipe.Fits key)
    {later : List Param} {injections : List Injection}
    (h : w.resolveParams catalog run target explicit (earlier ++ param :: later) explicit.noneUsed =
      (.ok (injections, used'), w'))
    (hsupplants : w.fixture.Supplants (explicit.argumentFor earlier param) param)
    {i : Nat} {entry : Entry} (hget : w.fixture.registry.entries[i]? = some entry)
    (hkey : entry.key = param.key.unnamed) : w'.fixture.registry.Displaced i entry := by
  obtain ⟨filled, used₁, w₁, rest, hearlier, hlater, -⟩ := resolveParams_append_eq_ok h
  obtain ⟨injection, used₂, w₂, last, hparam, hlast, -⟩ := resolveParams_cons_eq_ok hlater
  have hcovers := covers_resolveParams (Arguments.covers_nil explicit) hearlier
  rw [List.nil_append] at hcovers
  have hresolved := resolved catalog run target explicit param used₁ w₁
  rw [hparam] at hresolved
  -- Before, the entry may have been displaced already; afterwards it may be again.
  have hbefore : w.fixture.KeepsBut (fun _ => True) w₁.fixture :=
    keepsBut_resolveParams hquiet hfits (.of_eq hcoherent.indexed rfl rfl)
      (Arguments.covers_nil explicit) (fun _ _ _ _ _ _ _ => trivial) hearlier
  have hmeanwhile := hresolved.keepsBut hquiet hbefore.indexed (hbefore.fits hfits)
  have hafter : w₂.fixture.KeepsBut (fun _ => True) w'.fixture :=
    keepsBut_resolveParams
      (w := w₂.emit [.resolvedArgument injection.parameter injection.source]) hquiet
      (hmeanwhile.fits (hbefore.fits hfits)) (.of_eq hmeanwhile.indexed rfl rfl)
      (hresolved.covers hcovers) (fun _ _ _ _ _ _ _ => trivial) hlast
  have hsupplants' := (hbefore.supplants_iff hcoherent _ _).mpr hsupplants
  rw [← hcovers.map_snd_find?] at hsupplants'
  have hthere : w₂.fixture.registry.Displaced i entry := by
    rcases hbefore.entries i entry hget with hkept | ⟨-, datum, hproduct⟩
    · exact hresolved.displaces hquiet hbefore.indexed (hbefore.fits hfits) hsupplants' hkept hkey
    · show w₂.fixture.registry.Displaced i (.ofValue entry.key (.value entry.key.type datum))
      exact hresolved.displaces hquiet hbefore.indexed (hbefore.fits hfits) hsupplants' hproduct hkey
  exact hthere.keep hafter.entries

/-! ## Building -/

/-- The entries that a resolution displaces: those for the types of parameters of the selected constructor
that register products. -/
inductive Displaces (catalog : Catalog E) (target : TypeId) (signature : Option Signature)
    (explicit : Arguments) (w : World E) : Key → Prop where
  | intro {constructor : Constructor E} {position : Nat} {events : List Event}
      {earlier later : List Param} {param : Param}
      (hselect : w.fixture.select target (w.fixture.visible (catalog.constructors target))
        signature explicit = (.ok (constructor, position), events))
      (hparams : constructor.params = earlier ++ param :: later)
      (hsupplants : w.fixture.Supplants (explicit.argumentFor earlier param) param) :
      Displaces catalog target signature explicit w param.key.unnamed

/-- The entries that a creation displaces. -/
inductive CreationDisplaces (catalog : Catalog E) (target : TypeId) (signature : Option Signature)
    (arguments : Option Arguments) (w : World E) : Key → Prop where
  -- The product for the type itself is registered, since there is no value to hand out.
  | own {recipe : Recipe} {factory : Factory} {type : TypeId}
      (hrecipe : w.fixture.recipes.find? (.of target) = some recipe)
      (hfactory : recipe.factory = some factory) (hshare : recipe.sharedAs = some type)
      (hvalue : w.fixture.registry.value? target = none) :
      CreationDisplaces catalog target signature arguments w (.of target)
  -- A constructor is resolved.
  | resolved {key : Key} (hfactory : w.fixture.hasFactory (.of target) = false)
      (h : Displaces catalog target signature
        ((arguments.or ((w.fixture.recipes.find? (.of target)).bind Recipe.arguments)).getD {}) w
        key) :
      CreationDisplaces catalog target signature arguments w key

/-- The entries whose keys are among `displaced` have made way for products, at the latest when there
is an answer that is no error; all others are as and where they were. -/
structure MakesWay {α : Type} (displaced : Key → Prop) (answer : Except Error α) (w w' : World E) :
    Prop where
  kept : w.fixture.registry.KeepsBut displaced w'.fixture.registry
  displaced : answer.isOk → ∀ i entry, w.fixture.registry.entries[i]? = some entry →
    displaced entry.key → w'.fixture.registry.Displaced i entry

section Building

variable {signature : Option Signature}

theorem Built.makesWay (hquiet : run.Quiet) (hsound : Sound catalog w)
    {answer : Except Error (Construction × Datum)}
    (h : Built catalog run target signature explicit w (answer, w')) :
    MakesWay (Displaces catalog target signature explicit w) answer w w' := by
  have hcoherent := hsound.registry.coherent
  -- What filling the parameters of the selected constructor comes to.
  have hfilled {constructor : Constructor E} {position : Nat} {events : List Event}
      (hselect : w.fixture.select target (w.fixture.visible (catalog.constructors target))
        signature explicit = (.ok (constructor, position), events))
      {filled : Except Error (List Injection × List Bool)} {w' : World E}
      (hparams : (w.afterSelection events constructor).resolveParams catalog run target explicit
        constructor.params explicit.noneUsed = (filled, w')) :
      w.fixture.registry.KeepsBut (Displaces catalog target signature explicit w)
        w'.fixture.registry := by
    apply Fixture.KeepsBut.entries
    apply keepsBut_resolveParams (w := w.afterSelection events constructor) hquiet hsound.recipes
      (.of_eq hcoherent.indexed rfl rfl) (Arguments.covers_nil explicit) _ hparams
    intro earlier param later f hsplit hkeeps hsupplants
    exact .intro hselect hsplit ((hkeeps.supplants_iff hcoherent _ _).mp hsupplants)
  cases h with
  | unselected _ => exact ⟨.refl _ _, nofun⟩
  | unfilled hselect hparams => exact ⟨hfilled hselect hparams, nofun⟩
  | failed hselect hparams _ =>
    have hkept := hfilled hselect hparams
    exact ⟨hkept, nofun⟩
  | built hselect hparams _ =>
    have hkept := hfilled hselect hparams
    refine ⟨hkept, fun _ i entry hget hdisplaced => ?_⟩
    -- The parameter that displaces the entry is one of the constructor that has been selected.
    generalize hkey : entry.key = key at hdisplaced
    obtain ⟨hselect', hsplit, hsupplants⟩ := hdisplaced
    rw [hselect] at hselect'
    obtain ⟨hsame, -⟩ := Prod.mk.inj hselect'
    obtain ⟨rfl, -⟩ := Prod.mk.inj (Except.ok.inj hsame)
    rw [hsplit] at hparams
    exact displaced_resolveParams (w := w.afterSelection _ _) hquiet hcoherent hsound.recipes hparams
      hsupplants hget hkey

/-- With a factory of its own, a type is the only one whose entry its creation displaces. -/
theorem CreationDisplaces.of_recipe {arguments : Option Arguments} {recipe : Recipe}
    {factory : Factory} {key : Key}
    (h : CreationDisplaces catalog target signature arguments w key)
    (hrecipe : w.fixture.recipes.find? (.of target) = some recipe)
    (hfactory : recipe.factory = some factory) :
    key = .of target ∧ ∃ type, recipe.sharedAs = some type ∧
      w.fixture.registry.value? target = none := by
  cases h with
  | own hrecipe' _ hshare hvalue =>
    obtain rfl := Option.some.inj (hrecipe'.symm.trans hrecipe)
    exact ⟨rfl, _, hshare, hvalue⟩
  | resolved hnone _ =>
    rw [hasFactory_of_recipe hrecipe hfactory] at hnone
    cases hnone

/-- Without one, it is those that the resolution of a constructor displaces. -/
theorem CreationDisplaces.of_hasFactory {arguments : Option Arguments} {key : Key}
    (h : CreationDisplaces catalog target signature arguments w key)
    (hnone : w.fixture.hasFactory (.of target) = false) :
    Displaces catalog target signature
      ((arguments.or ((w.fixture.recipes.find? (.of target)).bind Recipe.arguments)).getD {}) w
      key := by
  cases h with
  | own hrecipe hfactory _ _ =>
    rw [hasFactory_of_recipe hrecipe hfactory] at hnone
    cases hnone
  | resolved _ h => exact h

theorem Obtained.makesWay (hquiet : run.Quiet) (hsound : Sound catalog w)
    {arguments : Option Arguments} {answer : Except Error Datum}
    (h : Obtained catalog run target (.of target) signature arguments w (answer, w')) :
    MakesWay (CreationDisplaces catalog target signature arguments w) answer w w' := by
  have hindexed := hsound.registry.coherent.indexed
  cases h with
  | cached hrecipe hfactory hcached =>
    refine ⟨.refl _ _, fun _ i entry _ hdisplaced => ?_⟩
    -- There was a value to hand out, so no entry had to make way.
    obtain ⟨-, type, hshare, hvalue⟩ := hdisplaced.of_recipe hrecipe hfactory
    obtain ⟨hkey, hshared⟩ := hsound.recipes _ _ hrecipe _ hfactory
    obtain rfl := Key.of_inj.mp hkey
    obtain rfl := hshared type hshare
    rw [hshare, cached?_eq, hvalue] at hcached
    cases hcached
  | failed _ _ _ hrun =>
    refine ⟨?_, nofun⟩
    rw [fixture_of_run hquiet hrun]
    exact .refl _ _
  | unshared hrecipe hfactory hshare hrun =>
    constructor
    · rw [fixture_of_run hquiet hrun]
      exact .refl _ _
    · intro _ i entry _ hdisplaced
      obtain ⟨-, type, hshared, -⟩ := hdisplaced.of_recipe hrecipe hfactory
      rw [hshare] at hshared
      cases hshared
  | @shared recipe factory type datum ended hrecipe hfactory hshare hcached hrun =>
    -- The recipe, its factory and the cache are all about the one type.
    obtain ⟨hkey, hshared⟩ := hsound.recipes _ _ hrecipe _ hfactory
    obtain rfl := Key.of_inj.mp hkey
    obtain rfl := hshared type hshare
    rw [cached?_eq] at hcached
    have hregistry : (ended.insertValue catalog.mockOf (.of factory.product)
        (.value factory.product datum)).fixture.registry =
        (w.fixture.registry.insertValue catalog.mockOf (.of factory.product)
          (.value factory.product datum)).1 := by
      show (ended.fixture.registry.insertValue _ _ _).1 = _
      rw [fixture_of_run hquiet hrun]
      rfl
    constructor
    · rw [hregistry]
      apply (Registry.keepsBut_insertValue hindexed factory.product datum).mono
      intro entry _ hkey
      rw [hkey]
      exact .own hrecipe hfactory hshare (Option.map_eq_none_iff.mp hcached)
    · intro _ i entry hget hdisplaced
      obtain ⟨hkey, -⟩ := hdisplaced.of_recipe hrecipe hfactory
      rw [hregistry]
      exact Registry.displaced_insertValue hindexed hget hkey datum
  | @resolved answer _ hnone hbuilt =>
    -- The answer is that of the constructor, without the record of it.
    obtain ⟨hkept, hdisplaced⟩ := hbuilt.makesWay hquiet hsound
    refine ⟨hkept.mono fun entry _ h => .resolved hnone h, fun hok i entry hget h => ?_⟩
    apply hdisplaced _ i entry hget (h.of_hasFactory hnone)
    cases answer with
    | error e => cases hok
    | ok _ => rfl

/-- That a type is in progress makes no difference to what is displaced. -/
theorem displaces_enter {entered : World E} {other key : Key} (henter : w.enter other = .ok entered) :
    Displaces catalog target signature explicit entered key ↔
      Displaces catalog target signature explicit w key := by
  obtain ⟨-, rfl⟩ := enter_eq_ok_iff.mp henter
  have hselect : Fixture.select { w.fixture with inProgress := w.fixture.inProgress ++ [other] }
      target (w.fixture.visible (catalog.constructors target)) signature explicit =
      w.fixture.select target (w.fixture.visible (catalog.constructors target)) signature
        explicit := by
    apply Fixture.select_congr
    intro param
    rfl
  constructor
  · rintro ⟨hselected, hparams, hnamed, hargument, hlookup, hkept⟩
    exact ⟨hselect.symm.trans hselected, hparams, hnamed, hargument, hlookup, hkept⟩
  · rintro ⟨hselected, hparams, hnamed, hargument, hlookup, hkept⟩
    exact ⟨hselect.trans hselected, hparams, hnamed, hargument, hlookup, hkept⟩

theorem creationDisplaces_enter {arguments : Option Arguments} {entered : World E} {other key : Key}
    (henter : w.enter other = .ok entered) :
    CreationDisplaces catalog target signature arguments entered key ↔
      CreationDisplaces catalog target signature arguments w key := by
  have hresolved {explicit : Arguments} : Displaces catalog target signature explicit entered key ↔
      Displaces catalog target signature explicit w key := displaces_enter henter
  obtain ⟨-, rfl⟩ := enter_eq_ok_iff.mp henter
  constructor
  · rintro (⟨hrecipe, hfactory, hshare, hvalue⟩ | ⟨hnone, h⟩)
    · exact .own hrecipe hfactory hshare hvalue
    · exact .resolved hnone (hresolved.mp h)
  · rintro (⟨hrecipe, hfactory, hshare, hvalue⟩ | ⟨hnone, h⟩)
    · exact .own hrecipe hfactory hshare hvalue
    · exact .resolved hnone (hresolved.mpr h)

theorem Created.makesWay (hquiet : run.Quiet) (hsound : Sound catalog w)
    {arguments : Option Arguments} {answer : Except Error Datum}
    (h : Created catalog run target signature arguments w (answer, w')) :
    MakesWay (CreationDisplaces catalog target signature arguments w) answer w w' := by
  cases h with
  | cyclic _ => exact ⟨.refl _ _, nofun⟩
  | failed henter hobtained =>
    obtain ⟨hkept, -⟩ := hobtained.makesWay hquiet (hsound.enter henter)
    refine ⟨?_, nofun⟩
    have hkept' := hkept.mono fun entry _ => (creationDisplaces_enter henter).mp
    obtain ⟨-, rfl⟩ := enter_eq_ok_iff.mp henter
    exact hkept'
  | @built entered done datum henter hobtained =>
    obtain ⟨hkept, hdisplaced⟩ := hobtained.makesWay hquiet (hsound.enter henter)
    have hkept' := hkept.mono fun entry _ => (creationDisplaces_enter henter).mp
    have hentered : entered.fixture.registry = w.fixture.registry := by
      obtain ⟨-, rfl⟩ := enter_eq_ok_iff.mp henter
      rfl
    rw [hentered] at hkept' hdisplaced
    constructor
    · rw [registry_created]
      exact hkept'
    · intro hok i entry hget h
      rw [registry_created]
      exact hdisplaced hok i entry hget ((creationDisplaces_enter henter).mpr h)

end Building

/-! ## Commands -/

/-- **Products displace what is registered for their types**, and nothing else makes way. When the
factories that run give no commands, a resolution leaves every entry as and where it is, except those
for the types of parameters of the selected constructor that ask for a name and have a singleton factory
asked; and a creation besides the entry of the type itself, if it has such a factory and no value.
When an instance is built, all these have made way. -/
theorem displaced_by_products {catalog : Catalog E} {conduct : Conduct E} {w : World E}
    (hw : Reachable catalog conduct w) (run : Runner E) (target : TypeId)
    (signature : Option Signature) :
    (∀ explicit answer w',
      (∀ id started, ResolveStarts catalog run target signature explicit w id started →
        started.Passes (run id started).2) →
      w.resolve catalog run target signature explicit = (answer, w') →
      MakesWay (Displaces catalog target signature explicit w) answer w w') ∧
    ∀ arguments answer w',
      (∀ id started, CreateStarts catalog run target signature arguments w id started →
        started.Passes (run id started).2) →
      w.create catalog run target signature arguments = (answer, w') →
      MakesWay (CreationDisplaces catalog target signature arguments w) answer w w' := by
  -- The factories that run might as well be quiet in all worlds.
  let quiet : Runner E := fun id started =>
    ((run id started).1, { (run id started).2 with fixture := started.fixture })
  have hquiet : quiet.Quiet := fun _ _ => rfl
  have hsame {id : FactoryId} {started : World E} (hpasses : started.Passes (run id started).2) :
      run id started = quiet id started := by
    show run id started = ((run id started).1, { (run id started).2 with fixture := started.fixture })
    rw [← hpasses.fixture]
  constructor
  · intro explicit answer w' hpasses hresolve
    rw [resolve_congr fun id started hstarts => hsame (hpasses id started hstarts)] at hresolve
    have hbuilt := built catalog quiet target signature explicit w
    rw [hresolve] at hbuilt
    exact hbuilt.makesWay hquiet hw.sound
  · intro arguments answer w' hpasses hcreate
    rw [create_congr fun id started hstarts => hsame (hpasses id started hstarts)] at hcreate
    have hcreated := created catalog quiet target signature arguments w
    rw [hcreate] at hcreated
    exact hcreated.makesWay hquiet hw.sound

/-- A value for gadgets makes way for the product that a service asks for under a name; a clock stays. -/
theorem displaced_by_products_spare :
    let gadget : TypeId := ⟨"Gadget"⟩
    let clock : TypeId := ⟨"Clock"⟩
    let service : TypeId := ⟨"Service"⟩
    let catalog : Catalog Unit := ⟨fun type => type, fun _ => .null, fun _ =>
      [.ofFunction { name := "new",
                     params := [.capability "clock" clock, .capability "gadget" gadget (some "spare")] }
        fun _ => .ok .null]⟩
    let run : Runner Unit := fun _ w => (.ok (.int 0), w)
    let start : World Unit := { surroundings := () }
    let ready := start.performAll catalog run
      [.useInstance clock ⟨0⟩, .useValue gadget (.int 7), .addType gadget .singleton ⟨0⟩]
    Reachable catalog {} ready ∧
      (∀ id (started : World Unit), started.Passes (run id started).2) ∧
      ∃ datum done, ready.create catalog run service none none = (.ok datum, done) ∧
        MakesWay (CreationDisplaces catalog service none none ready) (.ok datum) ready done ∧
        done.fixture.registry.Displaced 1 (.ofValue (.of gadget) (.value gadget (.int 7))) := by
  intro gadget clock service catalog run start ready
  have hpasses (id : FactoryId) (started : World Unit) : started.Passes (run id started).2 :=
    ⟨rfl, Nat.le_refl _, [], (List.append_nil _).symm, nofun⟩
  have hrun : Scripted catalog {} run := .idle fun _ w => ⟨w, w.surroundings, rfl, trivial, rfl⟩
  have hready : Reachable catalog {} ready :=
    (Fresh.reachable ⟨⟨{}, rfl⟩, trivial⟩).performAll hrun (fun _ _ _ => trivial) fun _ _ _ => trivial
  obtain ⟨-, hcreate⟩ := displaced_by_products hready run service none
  have hok : (ready.create catalog run service none none).1.isOk = true := by decide +kernel
  rcases hanswer : ready.create catalog run service none none with ⟨e | datum, done⟩
  · rw [hanswer] at hok
    cases hok
  · have hmakesWay := hcreate none (.ok datum) done (fun id started _ => hpasses id started) hanswer
    refine ⟨hready, hpasses, datum, done, rfl, hmakesWay, hmakesWay.displaced rfl 1 _ rfl ?_⟩
    -- The gadget comes after the clock, under a name.
    have hsupplants : ready.fixture.Supplants none (.capability "gadget" gadget (some "spare")) :=
      ⟨nofun, rfl, rfl, rfl⟩
    have hdisplaces : Displaces catalog service none {} ready
        (Param.capability "gadget" gadget (some "spare")).key.unnamed :=
      .intro rfl (show _ = [.capability "clock" clock] ++ _ :: [] from rfl) hsupplants
    exact .resolved rfl hdisplaces

/-- A double that serves two capabilities makes way too, and one of them is served no longer: when it is
asked for under a name, and when an instance of its own type is created. -/
theorem double_displaced_by_product :
    let gadget : TypeId := ⟨"Gadget"⟩
    let audit : TypeId := ⟨"AuditTrail"⟩
    let service : TypeId := ⟨"Service"⟩
    let catalog : Catalog Unit := ⟨fun _ => ⟨"Mock"⟩, fun _ => .null, fun _ =>
      [.ofFunction { name := "new", params := [.capability "gadget" gadget (some "spare")] }
        fun _ => .ok .null]⟩
    let run : Runner Unit := fun _ w => (.ok (.int 0), w)
    let start : World Unit := { surroundings := () }
    let ready := start.performAll catalog run
      [.addCustomMock gadget none, .combine gadget audit, .addType gadget .singleton ⟨0⟩]
    let named := ready.create catalog run service none none
    let own := ready.create catalog run gadget none none
    let served := fun w : World Unit => w.fixture.registry.entries.map fun entry =>
      (entry.key, entry.origin, entry.aliasKeys)
    Reachable catalog {} ready ∧
      (∀ id (started : World Unit), started.Passes (run id started).2) ∧
      served ready = [(.of gadget, .customMock, [.of audit])] ∧
      named.1.isOk ∧ served named.2 = [(.of gadget, .value, [])] ∧
      own.1.isOk ∧ served own.2 = [(.of gadget, .value, [])] := by
  intro gadget audit service catalog run start ready named own served
  have hpasses (id : FactoryId) (started : World Unit) : started.Passes (run id started).2 :=
    ⟨rfl, Nat.le_refl _, [], (List.append_nil _).symm, nofun⟩
  have hrun : Scripted catalog {} run := .idle fun _ w => ⟨w, w.surroundings, rfl, trivial, rfl⟩
  have hready : Reachable catalog {} ready :=
    (Fresh.reachable ⟨⟨{}, rfl⟩, trivial⟩).performAll hrun (fun _ _ _ => trivial) fun _ _ _ => trivial
  exact ⟨hready, hpasses, by decide +kernel⟩

end World

end TestDoubles
