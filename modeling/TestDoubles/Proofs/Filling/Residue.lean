import TestDoubles.Proofs.Filling.Greedy
import TestDoubles.Proofs.Registry.OnDemand

/-!
# What a failed construction leaves behind

A construction can fail when no constructor is selected, at any of the parameters of the one that is, and
last in its function. Nothing is undone then: the doubles that have been created for the parameters in
front stay in the registry. Here it is said which these are, without following the construction, and
that nothing else of the fixture has changed.

- `World.Unmet` says from the start why a parameter cannot be filled: `FilledQuietly.unmet_of_error`
  shows that filling it fails for these reasons only, and `FilledQuietly.not_unmet_of_ok` that it does.
- `World.Residue` lists the ways to fail, with what each of them leaves in the registry.
- `World.failed_construction` shows that constructions without factories fail in no other way.
-/

namespace TestDoubles

namespace World

open Registry

variable {E : Type}

/-! ## Ways to fail -/

/-- Why a parameter cannot be filled without a factory, seen from the start: there is no argument for it,
and neither an entry nor a default, nor can a double be created. -/
inductive Unmet (target : TypeId) (explicit : Arguments) (w : World E) (earlier : List Param)
    (param : Param) : Error → Prop where
  -- A double is to be created under the empty name.
  | nameless (hargument : explicit.argumentFor earlier param = none)
      (hkind : param.kind = .capability) (hname : param.key.name = some "") :
      Unmet target explicit w earlier param (.invalidArgument (.emptyMockName param.key.type))
  -- It is a plain value, which no entry answers for, and the options allow no default.
  | missing (hargument : explicit.argumentFor earlier param = none) (hkind : param.kind = .value)
      (hanswers : answers w.fixture.registry.entries param.key = false)
      (hcreated : param.key ∉ missing w.fixture.registry.entries explicit earlier)
      (hdefaults : w.fixture.options.defaultValues = false) :
      Unmet target explicit w earlier param (.unresolvableParameter target param.name param.key)

/-- All of these parameters can be filled, one after the other. -/
def Met (target : TypeId) (explicit : Arguments) (w : World E) (params : List Param) : Prop :=
  ∀ earlier param later e, params = earlier ++ param :: later →
    ¬ Unmet target explicit w earlier param e

/-- The entries of a registry afterwards: those at the start, and those of the doubles that were missing
for some parameters. -/
def Doubled (catalog : Catalog E) (explicit : Arguments) (w : World E) (params : List Param)
    (r : Registry) : Prop :=
  r.entries = w.fixture.registry.entries ++
    freshDoubles catalog.mockOf w.allocated (missing w.fixture.registry.entries explicit params)

/-- How a construction fails, and with which registry. -/
inductive Residue (catalog : Catalog E) (target : TypeId) (signature : Option Signature)
    (explicit : Arguments) (w : World E) : Error → Registry → Prop where
  -- No constructor is selected, and nothing has been created.
  | unselected {e : Error}
      (hselect : (w.fixture.select target (w.fixture.visible (catalog.constructors target)) signature
        explicit).1 = .error e)
      (hreason : (∃ blocked, e = .noResolvableConstructor target blocked) ∨
        ∃ ambiguity, e = .ambiguousConstructor target ambiguity) :
      Residue catalog target signature explicit w e w.fixture.registry
  -- A parameter cannot be filled, after those in front of it have been.
  | unfilled {constructor : Constructor E} {position : Nat} {earlier later : List Param}
      {param : Param} {e : Error} {r : Registry}
      (hselect : (w.fixture.select target (w.fixture.visible (catalog.constructors target)) signature
        explicit).1 = .ok (constructor, position))
      (hsplit : constructor.params = earlier ++ param :: later) (hmet : Met target explicit w earlier)
      (hunmet : Unmet target explicit w earlier param e)
      (hdoubled : Doubled catalog explicit w earlier r) :
      Residue catalog target signature explicit w e r
  -- All parameters have been filled, and the function of the constructor fails.
  | unbuilt {constructor : Constructor E} {position : Nat} {e : Error} {r : Registry}
      (hselect : (w.fixture.select target (w.fixture.visible (catalog.constructors target)) signature
        explicit).1 = .ok (constructor, position))
      (hmet : Met target explicit w constructor.params)
      (hbuild : (constructor.build (w.intakeOf catalog target explicit constructor.params)
        w.surroundings).1 = .error e)
      (hdoubled : Doubled catalog explicit w constructor.params r) :
      Residue catalog target signature explicit w e r

/-- A construction fails in one of these ways, and leaves everything but the registry as it was. -/
structure FailsWith (catalog : Catalog E) (target : TypeId) (signature : Option Signature)
    (explicit : Arguments) (w : World E) (e : Error) (w' : World E) : Prop where
  fixture : w'.fixture = { w.fixture with registry := w'.fixture.registry }
  indexed : w'.fixture.registry.Indexed
  residue : Residue catalog target signature explicit w e w'.fixture.registry

/-! ## Parameters that cannot be filled -/

section Parameters

variable {catalog : Catalog E} {run : Runner E} {target : TypeId} {w₀ w w' : World E}
  {explicit : Arguments} {earlier : List Param} {used used' : List Bool} {param : Param}
  {injection : Injection} {e : Error} {n : Nat}

/-- The reasons are found in the registry and in the options. -/
theorem Unmet.of_eq (h : Unmet target explicit w earlier param e)
    (hregistry : w'.fixture.registry = w.fixture.registry)
    (hoptions : w'.fixture.options = w.fixture.options) : Unmet target explicit w' earlier param e := by
  cases h with
  | nameless hargument hkind hname => exact .nameless hargument hkind hname
  | missing hargument hkind hanswers hcreated hdefaults =>
    rw [← hregistry] at hanswers hcreated
    rw [← hoptions] at hdefaults
    exact .missing hargument hkind hanswers hcreated hdefaults

/-- A parameter that cannot be filled leaves the fixture as it is. -/
theorem fixture_of_error (hindexed : w.fixture.registry.Indexed)
    (hfactory : w.fixture.hasFactory param.key.unnamed = false)
    (h : w.resolveArgument catalog run target explicit param used = (.error e, w')) :
    w'.fixture = w.fixture := by
  have hresolved := resolved catalog run target explicit param used w
  rw [h] at hresolved
  cases hresolved with
  | failed _ hprovided =>
    cases hprovided with
    | failed _ hproduced => cases hproduced.eq_of_hasFactory catalog run hfactory
    | fellBack _ _ hfellBack =>
      cases hfellBack with
      | refused _ hcreate =>
        obtain ⟨herror, rfl⟩ := Prod.mk.inj hcreate
        have hrequested := requested catalog.mockOf hindexed ⟨w.allocated⟩ param.key.type param.key.name
        have hsame := congrArg Outcome.registry (hrequested.eq_of_error herror)
        exact congrArg (fun r : Registry => { w.fixture with registry := r }) hsame
      | unresolvable _ _ => rfl

namespace FilledQuietly

/-- What is not filled has a reason, seen from the start. -/
theorem unmet_of_error (h : FilledQuietly catalog w₀ explicit earlier used w)
    (hfactory : w₀.fixture.hasFactory param.key.unnamed = false)
    (hresolve : w.resolveArgument catalog run target explicit param used = (.error e, w')) :
    Unmet target explicit w₀ earlier param e := by
  have hnone : w.fixture.hasFactory param.key.unnamed = false :=
    (h.filled.hasFactory_eq _).trans hfactory
  obtain ⟨hexplicit, hlookup, hunfillable⟩ := unfillable h.filled.indexed hresolve
  obtain ⟨hanswers, hcreated⟩ := (h.filled.lookup_eq_none_iff param.key).mp hlookup
  have hargument := h.filled.covers.argumentFor_eq_none hexplicit
  cases hunfillable with
  | nameless hkind hname => exact .nameless hargument hkind hname
  | missing hkind _ hdefaults =>
    rw [h.filled.fixture] at hdefaults
    exact .missing hargument hkind hanswers hcreated hdefaults
  | cyclic hhas _ => cases hnone.symm.trans hhas
  | failed hstarts _ => cases hnone.symm.trans hstarts.hasFactory

/-- What has a reason not to be filled is not filled. -/
theorem not_unmet_of_ok (h : FilledQuietly catalog w₀ explicit earlier used w)
    (hcoherent : w₀.fixture.registry.Coherent catalog.mockOf n)
    (hfactory : w₀.fixture.hasFactory param.key.unnamed = false)
    (hresolve : w.resolveArgument catalog run target explicit param used =
      (.ok (injection, used'), w')) : ¬ Unmet target explicit w₀ earlier param e := by
  intro hunmet
  have hargument : explicit.argumentFor earlier param = none := by
    cases hunmet with
    | nameless hargument _ _ => exact hargument
    | missing hargument _ _ _ _ => exact hargument
  have hlookup : w.fixture.registry.lookup param.key = none := by
    rw [h.filled.lookup_eq_none_iff]
    cases hunmet with
    | nameless _ _ hname =>
      -- No entry has the empty name, and no double has been created under it for those in front.
      refine ⟨(hcoherent.indexed.lookup_eq_none_iff _).mp (hcoherent.lookup_nameless hname), ?_⟩
      intro hmem
      have hnamed := List.find?_eq_none.mp h.named _ hmem
      exact hnamed (by simpa using hname)
    | missing _ _ hanswers hcreated _ => exact ⟨hanswers, hcreated⟩
  have hnone : w.fixture.hasFactory param.key.unnamed = false :=
    (h.filled.hasFactory_eq _).trans hfactory
  have hresolved := resolved catalog run target explicit param used w
  rw [hresolve] at hresolved
  cases hresolved with
  | explicit hfind => cases (h.filled.covers.argumentFor_eq_some hfind).symm.trans hargument
  | provided _ hprovided =>
    cases hprovided with
    | registered hfound => cases hlookup.symm.trans hfound
    | made _ hproduced => cases hproduced.eq_of_hasFactory catalog run hnone
    | fellBack _ _ hfellBack =>
      cases hfellBack with
      | mocked hkind hcreate =>
        cases hunmet with
        | nameless _ _ hname => exact nameless_of_getOrCreateMock (Prod.mk.inj hcreate).1 hname
        | missing _ hkind' _ _ _ => cases hkind.symm.trans hkind'
      | defaultValue hkind hdefaults =>
        cases hunmet with
        | nameless _ hkind' _ => cases hkind.symm.trans hkind'
        | missing _ _ _ _ hdefaults' =>
          rw [h.filled.fixture] at hdefaults
          cases hdefaults.symm.trans hdefaults'
      | constructed hkind =>
        cases hunmet with
        | nameless _ hkind' _ => cases hkind.symm.trans hkind'
        | missing _ hkind' _ _ _ => cases hkind.symm.trans hkind'

end FilledQuietly

/-- Parameters that are filled could be, seen from the start. -/
theorem met_of_ok {constructor : Constructor E} {events : List Event} {params : List Param}
    {injections : List Injection} {used' : List Bool}
    (hcoherent : w.fixture.registry.Coherent catalog.mockOf n)
    (hfactory : ∀ param ∈ params, w.fixture.hasFactory param.key.unnamed = false)
    (hparams : (w.afterSelection events constructor).resolveParams catalog run target explicit params
      explicit.noneUsed = (.ok (injections, used'), w')) : Met target explicit w params := by
  rintro earlier param later e rfl
  obtain ⟨hbefore, hrest⟩ := List.forall_mem_append.mp hfactory
  obtain ⟨filled, used₁, w₁, rest, hearlier, hlater, -⟩ := resolveParams_append_eq_ok hparams
  obtain ⟨injection, used₂, w₂, _, hfirst, -⟩ := resolveParams_cons_eq_ok hlater
  have hstart := FilledQuietly.start catalog explicit hcoherent.indexed events constructor
  have hquietly := hstart.resolveParams hbefore hearlier
  exact hquietly.not_unmet_of_ok hcoherent (hrest param List.mem_cons_self) hfirst

end Parameters

/-! ## Constructions that fail -/

section Constructions

variable {catalog : Catalog E} {conduct : Conduct E} {run : Runner E} {target : TypeId}
  {signature : Option Signature} {explicit : Arguments} {w w' : World E} {e : Error} {n : Nat}

/-- That no constructor is selected has one of two reasons. -/
theorem select_eq_error {f : Fixture} {candidates : List (Constructor E)}
    (h : (f.select target candidates signature explicit).1 = .error e) :
    (∃ blocked, e = .noResolvableConstructor target blocked) ∨
      ∃ ambiguity, e = .ambiguousConstructor target ambiguity := by
  cases signature with
  | none =>
    have hgreedy : f.selectGreedy target candidates explicit = .error e := h
    unfold Fixture.selectGreedy at hgreedy
    split at hgreedy
    · cases hgreedy
    · exact .inl ⟨_, (Except.error.inj hgreedy).symm⟩
  | some signature =>
    have hexact : Fixture.selectExact target candidates signature = .error e := h
    unfold Fixture.selectExact at hexact
    split at hexact
    · cases hexact
    · exact .inr ⟨_, (Except.error.inj hexact).symm⟩
    · exact .inr ⟨_, (Except.error.inj hexact).symm⟩

/-- **Resolving a constructor without factories** fails in one of the ways that are listed. -/
theorem failsWith_of_built (hcoherent : w.fixture.registry.Coherent catalog.mockOf n)
    (hfree : FactoryFree catalog target w.fixture)
    (h : Built catalog run target signature explicit w (.error e, w')) :
    FailsWith catalog target signature explicit w e w' := by
  have hindexed := hcoherent.indexed
  cases h with
  | unselected hselect =>
    have hanswer := congrArg Prod.fst hselect
    exact ⟨rfl, hindexed, .unselected hanswer (select_eq_error hanswer)⟩
  | @unfilled constructor position events _ _ hselect hparams =>
    -- Those in front have been filled; the one that fails adds nothing to what they left.
    obtain ⟨earlier, param, later, injections, used, w₁, hsplit, hearlier, hfails⟩ :=
      resolveParams_eq_error hparams
    have hfactory := hfree.params constructor (Fixture.mem_of_select hselect)
    rw [hsplit] at hfactory
    obtain ⟨hbefore, hrest⟩ := List.forall_mem_append.mp hfactory
    have hown := hrest param List.mem_cons_self
    have hstart := FilledQuietly.start catalog explicit hindexed events constructor
    have hquietly := hstart.resolveParams hbefore hearlier
    rw [List.nil_append] at hquietly
    have hsame := fixture_of_error hquietly.filled.indexed
      ((hquietly.filled.hasFactory_eq _).trans hown) hfails
    refine ⟨?_, ?_, .unfilled (congrArg Prod.fst hselect) hsplit (met_of_ok hcoherent hbefore hearlier)
      (hquietly.unmet_of_error hown hfails) ?_⟩
    · rw [hsame]
      exact hquietly.filled.fixture
    · rw [hsame]
      exact hquietly.filled.indexed
    · rw [Doubled, hsame]
      exact hquietly.filled.entries
  | @failed constructor position events _ injections used filled s hselect hparams hbuild =>
    have hfactory := hfree.params constructor (Fixture.mem_of_select hselect)
    have hstart := FilledQuietly.start catalog explicit hindexed events constructor
    have hquietly := hstart.resolveParams hfactory hparams
    obtain ⟨rfl, -⟩ := hstart.filled.resolveParams hfactory hparams
    rw [List.nil_append] at hquietly
    refine ⟨hquietly.filled.fixture, hquietly.filled.indexed, .unbuilt (congrArg Prod.fst hselect)
      (met_of_ok hcoherent hfactory hparams) ?_ hquietly.filled.entries⟩
    rw [hquietly.surroundings] at hbuild
    simp only [List.nil_append] at hbuild
    exact congrArg Prod.fst hbuild

/-- That a type is in progress changes nothing about the selection. -/
theorem select_enter {key : Key} {entered : World E} (henter : w.enter key = .ok entered)
    (candidates : List (Constructor E)) :
    entered.fixture.select target candidates signature explicit =
      w.fixture.select target candidates signature explicit := by
  obtain ⟨-, rfl⟩ := enter_eq_ok_iff.mp henter
  refine Fixture.select_congr (fun param => ?_) target candidates signature explicit
  rfl

/-- Nor does it give a parameter a reason not to be filled, or take one from it. -/
theorem unmet_enter {key : Key} {entered : World E} (henter : w.enter key = .ok entered)
    {earlier : List Param} {param : Param} :
    Unmet target explicit entered earlier param e ↔ Unmet target explicit w earlier param e := by
  obtain ⟨-, rfl⟩ := enter_eq_ok_iff.mp henter
  exact ⟨fun h => h.of_eq rfl rfl, fun h => h.of_eq rfl rfl⟩

theorem met_enter {key : Key} {entered : World E} (henter : w.enter key = .ok entered)
    {params : List Param} : Met target explicit entered params ↔ Met target explicit w params := by
  simp only [Met, unmet_enter henter]

/-- A construction fails as it would if the type had not been put in progress before. -/
theorem Residue.of_enter {key : Key} {entered : World E} {r : Registry}
    (henter : w.enter key = .ok entered)
    (h : Residue catalog target signature explicit entered e r) :
    Residue catalog target signature explicit w e r := by
  have hanswer (candidates : List (Constructor E)) :
      (w.fixture.select target candidates signature explicit).1 =
        (entered.fixture.select target candidates signature explicit).1 := by
    rw [select_enter henter]
  have hmet {params : List Param} :
      Met target explicit entered params → Met target explicit w params :=
    (met_enter henter).mp
  have hunmet {earlier : List Param} {param : Param} :
      Unmet target explicit entered earlier param e → Unmet target explicit w earlier param e :=
    (unmet_enter henter).mp
  obtain ⟨-, rfl⟩ := enter_eq_ok_iff.mp henter
  cases h with
  | unselected hselect hreason => exact .unselected ((hanswer _).trans hselect) hreason
  | unfilled hselect hsplit hbefore hparam hdoubled =>
    exact .unfilled ((hanswer _).trans hselect) hsplit (hmet hbefore) (hunmet hparam) hdoubled
  | unbuilt hselect hparams hbuild hdoubled =>
    exact .unbuilt ((hanswer _).trans hselect) (hmet hparams) hbuild hdoubled

/-- When the type is not in progress any more, everything is as it was but the registry. -/
theorem FailsWith.leave {key : Key} {entered : World E} (henter : w.enter key = .ok entered)
    (h : FailsWith catalog target signature explicit entered e w') :
    FailsWith catalog target signature explicit w e w'.leave := by
  refine ⟨?_, h.indexed, h.residue.of_enter henter⟩
  obtain ⟨-, rfl⟩ := enter_eq_ok_iff.mp henter
  unfold World.leave mapFixture Fixture.leave
  dsimp only
  rw [h.fixture]
  simp [mapFixture]

/-- **Creating without factories** fails in the same ways as resolving the constructor does. -/
theorem failsWith_of_created (hcoherent : w.fixture.registry.Coherent catalog.mockOf n)
    (hfree : FactoryFree catalog target w.fixture) (hprogress : .of target ∉ w.fixture.inProgress)
    {arguments : Option Arguments}
    (h : Created catalog run target signature arguments w (.error e, w')) :
    FailsWith catalog target signature
      ((arguments.or ((w.fixture.recipes.find? (.of target)).bind Recipe.arguments)).getD {})
      w e w' := by
  cases h with
  | cyclic henter => exact absurd (enter_eq_error_iff.mp henter).1 hprogress
  | @failed entered w₁ _ henter hobtained =>
    have hentered := enter_eq_ok_iff.mp henter
    have hfree' : FactoryFree catalog target entered.fixture := by
      obtain ⟨-, rfl⟩ := hentered
      exact ⟨hfree.own, hfree.params⟩
    obtain ⟨resolved, w₂, hbuilt, hresult⟩ := hobtained.of_hasFactory catalog run hfree'.own
    obtain ⟨herror, rfl⟩ := Prod.mk.inj hresult
    rcases resolved with e' | ⟨construction, datum⟩
    · obtain rfl := Except.error.inj herror
      apply FailsWith.leave henter
      obtain ⟨-, rfl⟩ := hentered
      exact failsWith_of_built (by exact hcoherent) hfree' hbuilt
    · cases herror

/-- **What a failed construction leaves.** In every world that comes up, when a type for which and for
whose parameters there are no factories is resolved without success, or created while it is not being
created already, then nothing of the fixture has changed but its registry. That is as before if no
constructor was selected. Otherwise a parameter could not be filled, for a reason that is seen from the
start, or the function of the constructor failed, and what has been added is one double for each of the
capabilities that were missing for the parameters in front, in their order. -/
theorem failed_construction {w : World E} (hw : Reachable catalog conduct w)
    (hfree : FactoryFree catalog target w.fixture) (run : Runner E) :
    (∀ signature explicit e w',
      w.resolve catalog run target signature explicit = (.error e, w') →
      FailsWith catalog target signature explicit w e w') ∧
    (.of target ∉ w.fixture.inProgress → ∀ signature arguments e w',
      w.create catalog run target signature arguments = (.error e, w') →
      FailsWith catalog target signature
        ((arguments.or ((w.fixture.recipes.find? (.of target)).bind Recipe.arguments)).getD {})
        w e w') := by
  have hcoherent := hw.sound.registry.coherent
  constructor
  · intro signature explicit e w' hresolve
    have hbuilt := World.built catalog run target signature explicit w
    rw [hresolve] at hbuilt
    exact failsWith_of_built hcoherent hfree hbuilt
  · intro hprogress signature arguments e w' hcreate
    have hcreated := created catalog run target signature arguments w
    rw [hcreate] at hcreated
    exact failsWith_of_created hcoherent hfree hprogress hcreated

/-- A writer that takes two stores and a size, and complains of the size. It is not selected without a
size; asked for by its signature, it fails once both stores have their doubles; and with a size it fails
last. -/
theorem failed_construction_writer :
    let store : TypeId := ⟨"Store"⟩
    let size : TypeId := ⟨"Size"⟩
    let writer : TypeId := ⟨"Writer"⟩
    let params : List Param :=
      [.capability "main" store, .capability "spare" store (some "spare"), .value "size" size]
    let complaint : Error := .constructionFailed writer (.stated "no room")
    let new : Constructor Unit :=
      .ofFunction { name := "new", params := params } fun _ => .error complaint
    let catalog : Catalog Unit := ⟨id, fun _ => .null, fun _ => [new]⟩
    let run : Runner Unit := idle
    let w : World Unit := { fixture := { options := { defaultValues := false } }, surroundings := () }
    let signature : Signature := .ofTypes [store, store, size]
    let explicit : Arguments := ⟨[.value size (.int 3)]⟩
    let doubles : List Entry := freshDoubles id 0 [.of store, ⟨store, some "spare"⟩]
    Reachable catalog {} w ∧ FactoryFree catalog writer w.fixture ∧
      .of writer ∉ w.fixture.inProgress ∧
      (∃ e w', w.create catalog run writer none none = (.error e, w') ∧
        w'.fixture = w.fixture ∧ FailsWith catalog writer none {} w e w') ∧
      (∃ w', w.resolve catalog run writer (some signature) {} =
          (.error (.unresolvableParameter writer "size" (.of size)), w') ∧
        w'.fixture.registry.entries = doubles ∧
        FailsWith catalog writer (some signature) {} w
          (.unresolvableParameter writer "size" (.of size)) w') ∧
      ∃ w', w.create catalog run writer none (some explicit) = (.error complaint, w') ∧
        w'.fixture.registry.entries = doubles ∧
        FailsWith catalog writer none explicit w complaint w' := by
  intro store size writer params complaint new catalog run w signature explicit doubles
  have hw : Reachable catalog {} w := Fresh.reachable ⟨⟨_, rfl⟩, trivial⟩
  have hfree : FactoryFree catalog writer w.fixture := ⟨rfl, fun _ _ _ _ => rfl⟩
  obtain ⟨hresolve, hcreate⟩ := failed_construction hw hfree run
  refine ⟨hw, hfree, List.not_mem_nil, ⟨_, _, rfl, rfl, ?_⟩, ⟨_, rfl, rfl, ?_⟩, ⟨_, rfl, rfl, ?_⟩⟩
  · exact hcreate List.not_mem_nil none none _ _ rfl
  · exact hresolve (some signature) {} _ _ rfl
  · exact hcreate List.not_mem_nil none (some explicit) _ _ rfl

end Constructions

end World

end TestDoubles
