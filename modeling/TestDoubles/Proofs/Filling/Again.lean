import TestDoubles.Proofs.Filling.Greedy
import TestDoubles.Proofs.Run.Records

/-!
# Creating again

When a type is created twice in a row, the doubles of the first time are registered by the second. They
answer for their keys whatever the kind of a parameter. So a constructor that could not be filled
before may be filled now, and go before the one that was called; and a parameter that received a
default may receive a double that was created for a later parameter. If neither happens, the second
creation repeats the first, and it changes nothing in the registry.

- `Registry.Overtaken` holds of the parameters that receive something else the second time.
- `World.Repeatable` says in terms of the world before both creations that nothing of this kind happens.
- `World.creation_repeats`: a creation is repeated exactly if it is repeatable.
-/

namespace TestDoubles

/-! ## Doubles that are there already -/

namespace Registry

/-- The parameter receives a default before a double is created for its key, and this double answers for
it from then on. -/
structure Overtaken (entries : List Entry) (explicit : Arguments) (params earlier : List Param)
    (param : Param) : Prop where
  plain : param.kind ≠ .capability
  unsupplied : explicit.argumentFor earlier param = none
  early : param.key ∉ missing entries explicit earlier
  doubled : param.key ∈ missing entries explicit params

section Doubles

variable {entries : List Entry} {explicit : Arguments} {params : List Param}

/-- Doubles are missing only where nothing answers. -/
theorem answers_of_mem_missing {key : Key} (h : key ∈ missing entries explicit params) :
    answers entries key = false := by
  obtain ⟨earlier, param, later, -, hneeds, rfl⟩ := mem_missing_iff.mp h
  simp only [needsDouble, decide_eq_true_eq] at hneeds
  exact hneeds.2.2

/-- What is found once the doubles are there that were missing. -/
theorem answer?_append_missing (mockOf : TypeId → TypeId) (next : Nat) (key : Key) :
    answer? (entries ++ freshDoubles mockOf next (missing entries explicit params)) key =
      (answer? entries key).or (((missing entries explicit params).findIdx? fun k => k = key).map
        fun i => (.object key.type ⟨next + i⟩, .autoMock)) :=
  answer?_append_freshDoubles mockOf (fun _ hkey => answers_of_mem_missing hkey) next key

/-- Once the doubles are there that were missing, none is. -/
theorem missing_again (mockOf : TypeId → TypeId) (next : Nat) (entries : List Entry)
    (explicit : Arguments) (params : List Param) :
    missing (entries ++ freshDoubles mockOf next (missing entries explicit params)) explicit params =
      [] := by
  refine List.eq_nil_iff_forall_not_mem.mpr fun key hkey => ?_
  have hanswers := answers_of_mem_missing hkey
  obtain ⟨earlier, param, later, hsplit, hneeds, rfl⟩ := mem_missing_iff.mp hkey
  rw [answers_append, answers_freshDoubles, Bool.or_eq_false_iff, decide_eq_false_iff_not] at hanswers
  obtain ⟨hunanswered, hnew⟩ := hanswers
  simp only [needsDouble, decide_eq_true_eq] at hneeds
  refine hnew (mem_missing_iff.mpr ⟨earlier, param, later, hsplit, ?_, rfl⟩)
  simp [needsDouble, hneeds.1, hneeds.2.1, hunanswered]

/-- The first parameter that needs a double for its key gets the next object. -/
theorem findIdx?_missing {earlier later : List Param} {param : Param}
    (hneeds : needsDouble entries (explicit.argumentFor earlier param) param)
    (hfirst : param.key ∉ missing entries explicit earlier) :
    ((missing entries explicit (earlier ++ param :: later)).findIdx? fun k => k = param.key) =
      some (missing entries explicit earlier).length := by
  have hconcat := World.missing_concat entries explicit earlier param
  rw [if_pos ⟨hneeds, hfirst⟩] at hconcat
  have hprefix := missing_isPrefix entries explicit (earlier ++ [param]) later
  rw [List.append_assoc, List.singleton_append, hconcat] at hprefix
  obtain ⟨rest, hrest⟩ := hprefix
  rw [← hrest, List.findIdx?_append, List.findIdx?_append, findIdx?_eq_none hfirst]
  simp

/-- A request creates a double, or changes nothing. -/
theorem Requested.unchanged_or_grows {mockOf : TypeId → TypeId} {r : Registry} {fresh : Ref}
    {capability : TypeId} {name : Option String} {outcome : Outcome Mock}
    (h : Requested mockOf r fresh capability name outcome) :
    outcome.registry = r ∨ r.size < outcome.registry.size := by
  cases h with
  | nameless _ => exact .inl rfl
  | found _ _ => exact .inl rfl
  | created _ hnone =>
    right
    rw [insert_of_position? mockOf (by exact hnone)]
    simp [size]

end Doubles

end Registry

/-- All parameters for which no explicit argument is meant could be filled if there were doubles for
some keys. -/
def Fixture.CouldFillWith (f : Fixture) (keys : List Key) (explicit : Arguments)
    (params : List Param) : Prop :=
  ∀ earlier param later, params = earlier ++ param :: later →
    explicit.argumentFor earlier param = none → f.canFill param ∨ param.key ∈ keys

namespace World

open Registry

variable {E : Type}

section Again

variable {catalog : Catalog E} {w w' : World E} {explicit : Arguments} {params : List Param}

/-- For a parameter for which there is neither an argument nor an entry, the same is available again unless
it is a default that a double stands in for. -/
theorem firstAvailable_again_of_unanswered (catalog : Catalog E) {entries : List Entry} (next : Nat)
    {earlier later : List Param} {param : Param} (hsplit : params = earlier ++ param :: later)
    (hargument : explicit.argumentFor earlier param = none)
    (hold : answer? entries param.key = none) (fresh : Ref) :
    firstAvailable catalog
        (entries ++ freshDoubles catalog.mockOf next (missing entries explicit params)) fresh none
        param =
      firstAvailable catalog
        (entries ++ freshDoubles catalog.mockOf next (missing entries explicit earlier))
        ⟨next + (missing entries explicit earlier).length⟩ none param ↔
      ¬Overtaken entries explicit params earlier param := by
  unfold firstAvailable
  rw [answer?_append_missing, answer?_append_missing, hold]
  by_cases hearly : param.key ∈ missing entries explicit earlier
  · -- A double has been created for an earlier parameter.
    have hkept : ¬Overtaken entries explicit params earlier param := fun h => h.early hearly
    obtain ⟨i, hi⟩ := exists_findIdx? hearly
    obtain ⟨rest, hrest⟩ := missing_isPrefix entries explicit earlier (param :: later)
    rw [hsplit, ← hrest, List.findIdx?_append, hi, ← hsplit]
    simp [hkept]
  rw [findIdx?_eq_none hearly]
  by_cases hkind : param.kind = .capability
  · -- The double was created for this parameter.
    have hown : ¬Overtaken entries explicit params earlier param := fun h => h.plain hkind
    have hneeds : needsDouble entries (explicit.argumentFor earlier param) param := by
      simp [needsDouble, hkind, hargument, answer?_eq_none_iff.mp hold]
    rw [hsplit, findIdx?_missing hneeds hearly, ← hsplit]
    simp [hkind, hown, Source.ofOrigin]
  · -- The first time it was a default, which is no double.
    have hovertaken : Overtaken entries explicit params earlier param ↔
        param.key ∈ missing entries explicit params :=
      ⟨fun h => h.doubled, fun h => ⟨hkind, hargument, hearly, h⟩⟩
    rw [hovertaken]
    by_cases hdoubled : param.key ∈ missing entries explicit params
    · obtain ⟨i, hi⟩ := exists_findIdx? hdoubled
      rw [hi]
      cases hplain : param.kind <;> simp_all
    · rw [findIdx?_eq_none hdoubled]
      cases hplain : param.kind <;> simp_all

/-- **What is available again**: the same as the first time, unless the parameter has been overtaken. -/
theorem firstAvailable_again (catalog : Catalog E) {entries : List Entry} (next : Nat)
    {earlier later : List Param} {param : Param} (hsplit : params = earlier ++ param :: later)
    (fresh : Ref) :
    firstAvailable catalog
        (entries ++ freshDoubles catalog.mockOf next (missing entries explicit params)) fresh
        (explicit.argumentFor earlier param) param =
      firstAvailable catalog
        (entries ++ freshDoubles catalog.mockOf next (missing entries explicit earlier))
        ⟨next + (missing entries explicit earlier).length⟩ (explicit.argumentFor earlier param) param ↔
      ¬Overtaken entries explicit params earlier param := by
  cases hargument : explicit.argumentFor earlier param with
  | some value =>
    have hsupplied : ¬Overtaken entries explicit params earlier param := fun h => by
      rw [h.unsupplied] at hargument
      cases hargument
    simp [firstAvailable, hsupplied]
  | none =>
    cases hold : answer? entries param.key with
    | none => exact firstAvailable_again_of_unanswered catalog next hsplit hargument hold fresh
    | some found =>
      -- An entry answers, so no double has been created for the key.
      have hanswered : ¬Overtaken entries explicit params earlier param := fun h => by
        rw [answer?_eq_none_iff.mpr (answers_of_mem_missing h.doubled)] at hold
        cases hold
      unfold firstAvailable
      rw [answer?_append_missing, answer?_append_missing, hold]
      simp [hanswered]

/-- **What a parameter receives again.** -/
theorem injectionAfter_again
    (hentries : w'.fixture.registry.entries = w.fixture.registry.entries ++
      freshDoubles catalog.mockOf w.allocated (missing w.fixture.registry.entries explicit params))
    {earlier later : List Param} {param : Param} (hsplit : params = earlier ++ param :: later) :
    w'.injectionAfter catalog explicit earlier param = w.injectionAfter catalog explicit earlier param ↔
      ¬Overtaken w.fixture.registry.entries explicit params earlier param := by
  -- No double is missing the second time.
  have hmissing : missing w'.fixture.registry.entries explicit earlier = [] := by
    have hprefix := missing_isPrefix w'.fixture.registry.entries explicit earlier (param :: later)
    rw [← hsplit, hentries, missing_again] at hprefix
    rw [hentries]
    exact List.prefix_nil.mp hprefix
  rw [← firstAvailable_again catalog w.allocated hsplit ⟨w'.allocated⟩, Prod.ext_iff]
  unfold injectionAfter
  dsimp only
  rw [hmissing, freshDoubles_nil, hentries, List.append_nil, List.length_nil, Nat.add_zero]
  simp

/-- The function of the constructor is called with the same exactly if no parameter has been overtaken. -/
theorem intakeOf_again (target : TypeId)
    (hentries : w'.fixture.registry.entries = w.fixture.registry.entries ++
      freshDoubles catalog.mockOf w.allocated (missing w.fixture.registry.entries explicit params)) :
    w'.intakeOf catalog target explicit params = w.intakeOf catalog target explicit params ↔
      ∀ earlier param later, params = earlier ++ param :: later →
        ¬Overtaken w.fixture.registry.entries explicit params earlier param := by
  unfold intakeOf
  rw [Intake.mk.injEq, List.mapIdx_eq_mapIdx_iff]
  constructor
  · rintro ⟨-, hsame⟩ earlier param later hsplit
    refine (injectionAfter_again hentries hsplit).mp ?_
    have hat := hsame earlier.length (by simp [hsplit])
    simpa [hsplit] using hat
  · intro hkept
    refine ⟨rfl, fun i hi => ?_⟩
    have hsplit : params = params.take i ++ params[i] :: params.drop (i + 1) := by simp
    exact (injectionAfter_again hentries hsplit).mpr (hkept _ _ _ hsplit)

end Again

/-! ## The world after a creation -/

/-- What creating a type with a constructor leaves, apart from what is outside the fixture. -/
structure Leaves (catalog : Catalog E) (target : TypeId) (explicit : Arguments)
    (constructor : Constructor E) (w w' : World E) : Prop where
  indexed : w'.fixture.registry.Indexed
  entries : w'.fixture.registry.entries = w.fixture.registry.entries ++
    freshDoubles catalog.mockOf w.allocated
      (missing w.fixture.registry.entries explicit constructor.params)
  -- If no double was missing, not even the index has changed.
  unchanged : missing w.fixture.registry.entries explicit constructor.params = [] →
    w'.fixture.registry = w.fixture.registry
  options : w'.fixture.options = w.fixture.options
  recipes : ∀ key, (w'.fixture.recipes.find? key).map Recipe.thawed =
    (w.fixture.recipes.find? key).map Recipe.thawed
  inProgress : w'.fixture.inProgress = w.fixture.inProgress
  history : w'.fixture.history = w.fixture.history.record (.of target)
    ⟨constructor.toDeclaration, (w.intakeOf catalog target explicit constructor.params).injections⟩

section Leaving

variable {catalog : Catalog E} {run : Runner E} {target : TypeId} {explicit : Arguments}
  {w w' : World E}

/-- Filling parameters without factories leaves the registry as it is, or it grows; by induction on the
parameters. -/
theorem registry_resolveParams {params : List Param} {used used' : List Bool}
    {injections : List Injection} (hindexed : w.fixture.registry.Indexed)
    (hfactory : ∀ param ∈ params, w.fixture.hasFactory param.key.unnamed = false)
    (h : w.resolveParams catalog run target explicit params used = (.ok (injections, used'), w')) :
    w'.fixture.registry = w.fixture.registry ∨
      w.fixture.registry.size < w'.fixture.registry.size := by
  induction params generalizing used w injections with
  | nil =>
    obtain ⟨-, rfl⟩ := Prod.mk.inj h
    exact .inl rfl
  | cons param params ih =>
    obtain ⟨hparam, hrest⟩ := List.forall_mem_cons.mp hfactory
    obtain ⟨injection, used₁, w₁, later, hfirst, hlater, -⟩ := resolveParams_cons_eq_ok h
    have hstep : w₁.fixture.registry.Indexed ∧
        (∀ key, w₁.fixture.hasFactory key = w.fixture.hasFactory key) ∧
        (w₁.fixture.registry = w.fixture.registry ∨
          w.fixture.registry.size < w₁.fixture.registry.size) := by
      rcases unchanged_or_mocked hparam hfirst with ⟨rfl, -⟩ | ⟨mock, hcreate⟩
      · exact ⟨hindexed, fun _ => rfl, .inl rfl⟩
      · obtain ⟨-, rfl⟩ := Prod.mk.inj hcreate
        have hrequested := requested catalog.mockOf hindexed ⟨w.allocated⟩ param.key.type param.key.name
        exact ⟨hrequested.indexed hindexed, fun _ => rfl, hrequested.unchanged_or_grows⟩
    obtain ⟨hindexed₁, hfactories, hchange⟩ := hstep
    have hthen := ih (w := w₁.emit [.resolvedArgument injection.parameter injection.source]) hindexed₁
      (fun p hp => (hfactories p.key.unnamed).trans (hrest p hp)) hlater
    rcases hchange with hsame | hgrows
    · rcases hthen with hunchanged | hgrows
      · exact .inl (hunchanged.trans hsame)
      · exact .inr (hsame ▸ hgrows)
    · right
      rcases hthen with hunchanged | hgrows'
      · rw [hunchanged]
        exact hgrows
      · exact Nat.lt_trans hgrows hgrows'

/-- Once the parameters are filled, the construction is recorded and the type is left. -/
theorem Leaves.of_filled {constructor : Constructor E} {entered filled done : World E}
    {used : List Bool} (henter : w.enter (.of target) = .ok entered)
    (hfilled : Filled catalog entered explicit constructor.params used filled)
    (hregistry : filled.fixture.registry = w.fixture.registry ∨
      w.fixture.registry.size < filled.fixture.registry.size)
    (hdone : done.fixture =
      { filled.fixture with
        history := filled.fixture.history.record (.of target) ⟨constructor.toDeclaration,
          (w.intakeOf catalog target explicit constructor.params).injections⟩ }) :
    Leaves catalog target explicit constructor w
      (done.leave.mapFixture fun f => (f.freeze (.of target)).built) := by
  obtain ⟨-, rfl⟩ := enter_eq_ok_iff.mp henter
  have hentries : filled.fixture.registry.entries = w.fixture.registry.entries ++
      freshDoubles catalog.mockOf w.allocated
        (missing w.fixture.registry.entries explicit constructor.params) := hfilled.entries
  have hfixture := hfilled.fixture
  refine ⟨?_, ?_, fun hnone => ?_, ?_, fun key => ?_, ?_, ?_⟩
  · rw [registry_created, hdone]
    exact hfilled.indexed
  · rw [registry_created, hdone]
    exact hentries
  · rw [registry_created, hdone]
    refine hregistry.resolve_right fun hgrows => ?_
    rw [hnone, freshDoubles_nil, List.append_nil] at hentries
    exact Nat.ne_of_lt hgrows (congrArg List.length hentries).symm
  · rw [options_created, hdone, hfixture]
    rfl
  · rw [thawed_created, hdone, hfixture]
    rfl
  · rw [inProgress_created, hdone, hfixture]
    exact List.dropLast_concat
  · rw [history_created, hdone, hfixture]
    rfl

/-- **What creating leaves**: the constructor that is selected is called as foreseen, and the fixture is
left with the doubles that were missing. -/
theorem leaves_of_create (hindexed : w.fixture.registry.Indexed)
    (hfree : FactoryFree catalog target w.fixture) {arguments : Option Arguments} {datum : Datum}
    (hexplicit : explicit =
      (arguments.or ((w.fixture.recipes.find? (.of target)).bind Recipe.arguments)).getD {})
    (hcreate : w.create catalog run target none arguments = (.ok datum, w')) :
    .of target ∉ w.fixture.inProgress ∧
    ∃ constructor position,
      w.fixture.selectGreedy target (w.fixture.visible (catalog.constructors target)) explicit =
        .ok (constructor, position) ∧
      (constructor.build (w.intakeOf catalog target explicit constructor.params) w.surroundings).1 =
        .ok datum ∧
      Leaves catalog target explicit constructor w w' := by
  have hcreated := created catalog run target none arguments w
  rw [hcreate] at hcreated
  obtain ⟨entered, construction, done, henter, hbuilt, rfl⟩ := hcreated.exists_built catalog run hfree.own
  rw [← hexplicit] at hbuilt
  cases hbuilt with
  | @built constructor position events _ injections used filled s hselect hparams hbuild =>
    have hgreedy : entered.fixture.selectGreedy target
        (entered.fixture.visible (catalog.constructors target)) explicit = .ok (constructor, position) :=
      (Prod.mk.inj hselect).1
    rw [selectGreedy_enter henter] at hgreedy
    obtain ⟨hprogress, hentered⟩ := enter_eq_ok_iff.mp henter
    have hindexed' : entered.fixture.registry.Indexed := hentered ▸ hindexed
    have hfactory : ∀ param ∈ constructor.params, entered.fixture.hasFactory param.key.unnamed = false :=
      hentered ▸ hfree.params constructor (Fixture.mem_of_select hselect)
    have hstart := FilledQuietly.start catalog explicit hindexed' events constructor
    have hquietly := hstart.resolveParams hfactory hparams
    obtain ⟨rfl, hfilled⟩ := hstart.filled.resolveParams hfactory hparams
    have hregistry := registry_resolveParams (by exact hindexed') (by exact hfactory) hparams
    subst hentered
    refine ⟨hprogress, constructor, position, hgreedy, ?_, ?_⟩
    · rw [hquietly.surroundings] at hbuild
      exact congrArg Prod.fst hbuild
    · exact .of_filled henter hfilled hregistry rfl

namespace Leaves

variable {constructor : Constructor E} (h : Leaves catalog target explicit constructor w w')

include h

theorem hasFactory_eq (key : Key) : w'.fixture.hasFactory key = w.fixture.hasFactory key := by
  unfold Fixture.hasFactory
  rw [← Recipe.any_thawed (fun _ => rfl), h.recipes, Recipe.any_thawed fun _ => rfl]

theorem factoryFree (hfree : FactoryFree catalog target w.fixture) :
    FactoryFree catalog target w'.fixture where
  own := (h.hasFactory_eq _).trans hfree.own
  params other hother param hparam :=
    (h.hasFactory_eq _).trans (hfree.params other hother param hparam)

/-- The stored arguments are the same. -/
theorem arguments_eq (key : Key) : (w'.fixture.recipes.find? key).bind Recipe.arguments =
    (w.fixture.recipes.find? key).bind Recipe.arguments := by
  have hthawed (recipe : Option Recipe) :
      recipe.bind Recipe.arguments = (recipe.map Recipe.thawed).bind Recipe.arguments := by
    cases recipe <;> rfl
  rw [hthawed, h.recipes, ← hthawed]

theorem visible_eq : w'.fixture.visible (catalog.constructors target) =
    w.fixture.visible (catalog.constructors target) := by
  unfold Fixture.visible
  rw [h.options]

/-- What can be filled now could be filled before, or a double is there for it now. -/
theorem canFill_iff (hindexed : w.fixture.registry.Indexed) (param : Param) :
    w'.fixture.canFill param ↔ w.fixture.canFill param ∨
      param.key ∈ missing w.fixture.registry.entries explicit constructor.params := by
  unfold Fixture.canFill
  rw [h.indexed.contains_eq_answers, h.entries, answers_append, answers_freshDoubles,
    ← hindexed.contains_eq_answers, h.hasFactory_eq, h.options]
  simp only [Bool.or_eq_true, decide_eq_true_eq]
  tauto

theorem isResolvable_iff (hindexed : w.fixture.registry.Indexed) (other : Declaration) :
    w'.fixture.isResolvable explicit other ↔ w.fixture.CouldFillWith
      (missing w.fixture.registry.entries explicit constructor.params) explicit other.params := by
  rw [Fixture.isResolvable_iff]
  simp only [h.canFill_iff hindexed]
  rfl

end Leaves

end Leaving

/-! ## Repeating a creation -/

/-- No constructor goes before a constructor that could be filled with the help of its doubles. -/
def Unrivalled (catalog : Catalog E) (target : TypeId) (explicit : Arguments) (w : World E)
    (constructor : Constructor E) (position : Nat) : Prop :=
  ∀ (j : Nat) (other : Constructor E),
    (w.fixture.visible (catalog.constructors target))[j]? = some other →
    Fixture.Outranks (other, j) (constructor, position) →
    ¬w.fixture.CouldFillWith (missing w.fixture.registry.entries explicit constructor.params) explicit
      other.params

/-- Creating a type with a constructor can be repeated: it stays the one to be called, and its
parameters receive the same. -/
structure Repeatable (catalog : Catalog E) (target : TypeId) (explicit : Arguments) (w : World E)
    (constructor : Constructor E) (position : Nat) : Prop where
  unrivalled : Unrivalled catalog target explicit w constructor position
  settled : ∀ earlier param later, constructor.params = earlier ++ param :: later →
    ¬Overtaken w.fixture.registry.entries explicit constructor.params earlier param

section Repeating

variable {catalog : Catalog E} {conduct : Conduct E} {run : Runner E} {target : TypeId}
  {explicit : Arguments} {w w' : World E} {constructor : Constructor E} {position : Nat}

/-- **The same constructor is selected again**, unless it has got a rival. -/
theorem Leaves.selectGreedy_eq_ok_iff (h : Leaves catalog target explicit constructor w w')
    (hindexed : w.fixture.registry.Indexed)
    (hselect : w.fixture.selectGreedy target (w.fixture.visible (catalog.constructors target))
      explicit = .ok (constructor, position)) :
    w'.fixture.selectGreedy target (w'.fixture.visible (catalog.constructors target)) explicit =
        .ok (constructor, position) ↔ Unrivalled catalog target explicit w constructor position := by
  obtain ⟨hcandidate, hresolvable, -⟩ := Fixture.selectGreedy_eq_ok_iff.mp hselect
  have hstill : w'.fixture.isResolvable explicit constructor.toDeclaration = true := by
    rw [h.isResolvable_iff hindexed]
    intro earlier param later hsplit hargument
    exact .inl (Fixture.isResolvable_iff.mp hresolvable earlier param later hsplit hargument)
  rw [Fixture.selectGreedy_eq_ok_iff, h.visible_eq]
  simp only [h.isResolvable_iff hindexed]
  constructor
  · rintro ⟨-, -, hothers⟩ j other hother houtranks hfilled
    exact hothers j other hother hfilled houtranks
  · intro hothers
    refine ⟨hcandidate, (h.isResolvable_iff hindexed _).mp hstill, ?_⟩
    exact fun j other hother hfilled houtranks => hothers j other hother houtranks hfilled

/-- **What can be repeated is repeated.** -/
theorem Leaves.create_again (h : Leaves catalog target explicit constructor w w')
    (hindexed : w.fixture.registry.Indexed) (hfree : FactoryFree catalog target w.fixture)
    (hprogress : .of target ∉ w.fixture.inProgress) {arguments : Option Arguments} {datum : Datum}
    (hexplicit : explicit =
      (arguments.or ((w.fixture.recipes.find? (.of target)).bind Recipe.arguments)).getD {})
    (hselect : w.fixture.selectGreedy target (w.fixture.visible (catalog.constructors target))
      explicit = .ok (constructor, position))
    (hbuild : ∀ s, (constructor.build (w.intakeOf catalog target explicit constructor.params) s).1 =
      .ok datum)
    (hrepeatable : Repeatable catalog target explicit w constructor position) :
    ∃ w'', w'.create catalog run target none arguments = (.ok datum, w'') ∧
      w''.fixture.history = w'.fixture.history.record (.of target) ⟨constructor.toDeclaration,
        (w.intakeOf catalog target explicit constructor.params).injections⟩ ∧
      w''.fixture.registry = w'.fixture.registry := by
  have hselect' := (h.selectGreedy_eq_ok_iff hindexed hselect).mpr hrepeatable.unrivalled
  have hintake := (intakeOf_again target h.entries).mpr hrepeatable.settled
  have hmissing : missing w'.fixture.registry.entries explicit constructor.params = [] := by
    rw [h.entries]
    exact missing_again _ _ _ _ _
  rw [← h.arguments_eq] at hexplicit
  have hanswer := create_eq_greedyAnswer h.indexed (h.factoryFree hfree) (h.inProgress ▸ hprogress) run
    arguments
  rw [← hexplicit] at hanswer
  have hgreedy : w'.greedyAnswer catalog target explicit = .ok datum := by
    simp [greedyAnswer, hselect', nameless?, hmissing, hintake, hbuild]
  rcases hcreate : w'.create catalog run target none arguments with ⟨answer, w''⟩
  rw [hcreate, hgreedy] at hanswer
  obtain rfl : answer = .ok datum := hanswer
  obtain ⟨-, again, position', hselected, -, hleaves⟩ :=
    leaves_of_create h.indexed (h.factoryFree hfree) hexplicit hcreate
  rw [hselect'] at hselected
  obtain ⟨rfl, rfl⟩ := Prod.mk.inj (Except.ok.inj hselected)
  refine ⟨w'', rfl, ?_, hleaves.unchanged hmissing⟩
  rw [hleaves.history, hintake]

/-- **What is repeated can be repeated.** -/
theorem Leaves.repeatable (h : Leaves catalog target explicit constructor w w')
    (hindexed : w.fixture.registry.Indexed)
    (hselect : w.fixture.selectGreedy target (w.fixture.visible (catalog.constructors target))
      explicit = .ok (constructor, position))
    {again : Constructor E} {position' : Nat}
    (hselect' : w'.fixture.selectGreedy target (w'.fixture.visible (catalog.constructors target))
      explicit = .ok (again, position'))
    (hsame : again.toDeclaration = constructor.toDeclaration)
    (hinjections : (w'.intakeOf catalog target explicit again.params).injections =
      (w.intakeOf catalog target explicit constructor.params).injections) :
    Repeatable catalog target explicit w constructor position := by
  have hparams : again.params = constructor.params := congrArg Declaration.params hsame
  rw [hparams] at hinjections
  refine ⟨?_, (intakeOf_again target h.entries).mp (congrArg (Intake.mk target) hinjections)⟩
  -- The constructor that is selected again could have been selected before, so it is not in front.
  obtain ⟨-, hresolvable, hbest⟩ := Fixture.selectGreedy_eq_ok_iff.mp hselect
  obtain ⟨hcandidate, -, hbest'⟩ := Fixture.selectGreedy_eq_ok_iff.mp hselect'
  rw [h.visible_eq] at hcandidate hbest'
  have hbehind := hbest position' again hcandidate (hsame ▸ hresolvable)
  intro j other hother houtranks hfilled
  have hbelow := hbest' j other hother ((h.isResolvable_iff hindexed _).mpr hfilled)
  unfold Fixture.Outranks at hbehind houtranks hbelow
  rw [hparams] at hbehind hbelow
  dsimp only at hbehind houtranks hbelow
  omega

/-- A creation can be repeated if its doubles are for keys under which no visible constructor has other
parameters than those of capabilities. -/
theorem Repeatable.of_apart
    (hselect : w.fixture.selectGreedy target (w.fixture.visible (catalog.constructors target))
      explicit = .ok (constructor, position))
    (hapart : ∀ other ∈ w.fixture.visible (catalog.constructors target), ∀ param ∈ other.params,
      param.key ∈ missing w.fixture.registry.entries explicit constructor.params →
        param.kind = .capability) :
    Repeatable catalog target explicit w constructor position := by
  obtain ⟨hcandidate, -, hbest⟩ := Fixture.selectGreedy_eq_ok_iff.mp hselect
  constructor
  · intro j other hother houtranks hfilled
    refine hbest j other hother (Fixture.isResolvable_iff.mpr ?_) houtranks
    intro earlier param later hsplit hargument
    rcases hfilled earlier param later hsplit hargument with hfill | hmissing
    · exact hfill
    · have hkind := hapart other (List.mem_of_getElem? hother) param (by simp [hsplit]) hmissing
      simp [Fixture.canFill, hkind]
  · intro earlier param later hsplit hovertaken
    refine hovertaken.plain (hapart constructor (List.mem_of_getElem? hcandidate) param ?_ ?_)
    · simp [hsplit]
    · exact hovertaken.doubled

/-- **Repeating a creation.** In every world that comes up, if a type has been created for which and for
whose parameters there are no factories, and its constructors depend on their arguments alone, then it
is created again by the same constructor, called with the same, and the registry stays as it is, if
the creation is repeatable; and otherwise no second creation is like the first. -/
theorem creation_repeats (hw : Reachable catalog conduct w)
    (hfree : FactoryFree catalog target w.fixture)
    (hpure : ∀ constructor ∈ catalog.constructors target, ∀ intake s s',
      (constructor.build intake s).1 = (constructor.build intake s').1)
    (run : Runner E) {arguments : Option Arguments} {datum : Datum}
    (hcreate : w.create catalog run target none arguments = (.ok datum, w')) :
    let explicit := (arguments.or
      ((w.fixture.recipes.find? (.of target)).bind Recipe.arguments)).getD {}
    ∃ constructor position,
      w.fixture.selectGreedy target (w.fixture.visible (catalog.constructors target)) explicit =
        .ok (constructor, position) ∧
      let construction : Construction := ⟨constructor.toDeclaration,
        (w.intakeOf catalog target explicit constructor.params).injections⟩
      w'.fixture.history = w.fixture.history.record (.of target) construction ∧
      (Repeatable catalog target explicit w constructor position →
        ∃ w'', w'.create catalog run target none arguments = (.ok datum, w'') ∧
          w''.fixture.history = w'.fixture.history.record (.of target) construction ∧
          w''.fixture.registry = w'.fixture.registry) ∧
      ∀ again w'', w'.create catalog run target none arguments = (.ok again, w'') →
        w''.fixture.history = w'.fixture.history.record (.of target) construction →
          Repeatable catalog target explicit w constructor position := by
  intro explicit
  have hindexed := hw.registry.indexed
  obtain ⟨hprogress, constructor, position, hselect, hbuild, hleaves⟩ :=
    leaves_of_create hindexed hfree rfl hcreate
  obtain ⟨hcandidate, -, -⟩ := Fixture.selectGreedy_eq_ok_iff.mp hselect
  have hdeclared := (List.mem_filter.mp (List.mem_of_getElem? hcandidate)).1
  refine ⟨constructor, position, hselect, hleaves.history, ?_, ?_⟩
  · exact hleaves.create_again hindexed hfree hprogress rfl hselect fun s =>
      (hpure constructor hdeclared _ _ _).trans hbuild
  · intro again w'' hagain hhistory
    have hexplicit : explicit = (arguments.or
        ((w'.fixture.recipes.find? (.of target)).bind Recipe.arguments)).getD {} := by
      rw [hleaves.arguments_eq]
    obtain ⟨-, called, position', hselect', -, hleaves'⟩ :=
      leaves_of_create hleaves.indexed (hleaves.factoryFree hfree) hexplicit hagain
    have hsame := History.record_inj _ (hleaves'.history.symm.trans hhistory)
    obtain ⟨hdeclaration, hinjections⟩ := Construction.mk.inj hsame
    exact hleaves.repeatable hindexed hselect hselect' hdeclaration hinjections

/-- A service that takes a store, a spare one and a size: its two doubles are created once, and passed
again. -/
theorem creation_repeats_stores :
    let store : TypeId := ⟨"Store"⟩
    let service : TypeId := ⟨"Service"⟩
    let params : List Param := [.capability "main" store, .capability "backup" store (some "spare"),
      .concrete "size" ⟨"Size"⟩]
    let new : Constructor Unit := .ofFunction { name := "new", params := params } fun intake =>
      (intake.object store 1).map fun ref => .int ref.index
    let catalog : Catalog Unit := ⟨id, fun _ => .null, fun _ => [new]⟩
    let run : Runner Unit := idle
    let w : World Unit := { surroundings := () }
    Reachable catalog {} w ∧ FactoryFree catalog service w.fixture ∧
      (∀ constructor ∈ catalog.constructors service, ∀ intake s s',
        (constructor.build intake s).1 = (constructor.build intake s').1) ∧
      ∃ datum w' w'', w.create catalog run service none none = (.ok datum, w') ∧
        w'.fixture.registry.size = 2 ∧ w'.create catalog run service none none = (.ok datum, w'') ∧
        w''.fixture.registry = w'.fixture.registry := by
  intro store service params new catalog run w
  have hw : Reachable catalog {} w := Fresh.reachable ⟨⟨{}, rfl⟩, trivial⟩
  have hfree : FactoryFree catalog service w.fixture := ⟨rfl, fun _ _ _ _ => rfl⟩
  have hpure : ∀ constructor ∈ catalog.constructors service, ∀ intake s s',
      (constructor.build intake s).1 = (constructor.build intake s').1 := fun _ _ _ _ _ => rfl
  have hok : (w.create catalog run service none none).1.isOk ∧
      (w.create catalog run service none none).2.fixture.registry.size = 2 := by decide +kernel
  rcases hcreate : w.create catalog run service none none with ⟨e | datum, w'⟩
  · rw [hcreate] at hok
    cases hok.1
  · rw [hcreate] at hok
    obtain ⟨constructor, position, hselect, -, hagain, -⟩ :=
      creation_repeats hw hfree hpure run hcreate
    obtain ⟨hcandidate, -, -⟩ := Fixture.selectGreedy_eq_ok_iff.mp hselect
    obtain rfl : constructor = new := List.mem_singleton.mp (List.mem_of_getElem? hcandidate)
    have hapart : ∀ param ∈ params, param.key ∈ missing [] {} params → param.kind = .capability := by
      decide
    obtain ⟨w'', hrepeated, -, hregistry⟩ := hagain (.of_apart hselect fun other hother => by
      obtain rfl : other = new := List.mem_singleton.mp hother
      exact hapart)
    exact ⟨hw, hfree, hpure, datum, w', w'', rfl, hok.2, hrepeated, hregistry⟩

/-- A double that is created for the shorter constructor makes the longer one go before it, which cannot
do with a double; and a double that is created for one parameter is passed for the one before it the
next time. -/
theorem creation_not_repeated :
    let gadget : TypeId := ⟨"Gadget"⟩
    let service : TypeId := ⟨"Service"⟩
    let long : Constructor Unit :=
      .ofFunction { name := "long", params := [.value "first" gadget, .value "second" gadget] }
        fun intake => intake.value gadget 0
    let short : Constructor Unit :=
      .ofFunction { name := "short", params := [.capability "gadget" gadget] } fun _ => .ok .null
    let both : Constructor Unit :=
      .ofFunction { name := "both", params := [.concrete "plain" gadget, .capability "gadget" gadget] }
        fun _ => .ok .null
    let catalog (constructors : List (Constructor Unit)) : Catalog Unit :=
      ⟨id, fun _ => .null, fun _ => constructors⟩
    let run : Runner Unit := idle
    let w : World Unit := { surroundings := () }
    let once (constructors : List (Constructor Unit)) :=
      w.create (catalog constructors) run service none none
    let twice (constructors : List (Constructor Unit)) :=
      (once constructors).2.create (catalog constructors) run service none none
    let sources (w : World Unit) := w.fixture.history.constructions.map fun construction =>
      (construction.constructor.name, construction.injections.map Injection.source)
    (∀ constructors ∈ [[long, short], [both]],
      Reachable (catalog constructors) {} w ∧ FactoryFree (catalog constructors) service w.fixture ∧
        (∀ constructor ∈ constructors, ∀ intake s s',
          (constructor.build intake s).1 = (constructor.build intake s').1) ∧
        (once constructors).1 = .ok .null) ∧
      sources (once [long, short]).2 = [("short", [.autoMock])] ∧
      (twice [long, short]).1 = .error (.constructionFailed service (.wrongArgument 0 gadget)) ∧
      (twice [both]).1 = .ok .null ∧
      sources (twice [both]).2 =
        [("both", [.constructed, .autoMock]), ("both", [.autoMock, .autoMock])] := by
  intro gadget service long short both catalog run w once twice sources
  refine ⟨?_, by decide +kernel, rfl, rfl, by decide +kernel⟩
  intro constructors hmem
  have hw : Reachable (catalog constructors) {} w := Fresh.reachable ⟨⟨{}, rfl⟩, trivial⟩
  have hfree : FactoryFree (catalog constructors) service w.fixture := ⟨rfl, fun _ _ _ _ => rfl⟩
  simp only [List.mem_cons, List.not_mem_nil, or_false] at hmem
  rcases hmem with rfl | rfl
  · refine ⟨hw, hfree, fun constructor hconstructor _ _ _ => ?_, rfl⟩
    obtain rfl | rfl : constructor = long ∨ constructor = short := by simpa using hconstructor
    · rfl
    · rfl
  · refine ⟨hw, hfree, fun constructor hconstructor _ _ _ => ?_, rfl⟩
    obtain rfl : constructor = both := List.mem_singleton.mp hconstructor
    rfl

end Repeating

end World

end TestDoubles
