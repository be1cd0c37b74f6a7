import TestDoubles.Proofs.Filling.Explicit
import TestDoubles.Proofs.Registry.Answers

/-!
# The effect of a construction

What a construction without factories comes to, said without following it step by step: which doubles
are created and in which order, and for every parameter what fills it and where that comes from. The
statement refers to the parameters before a parameter only by what they are, never by what happened to
them.

- `Registry.missing` lists the keys for which doubles are created.
- `World.injectionAfter` is what fills a parameter, given the parameters before it.
- `World.Effect` puts both together, and `World.construction_effect` shows that every construction
  without factories has this effect.
-/

namespace TestDoubles

/-! ## What is to happen -/

namespace Registry

/-- Whether a double is created for a parameter: it is of a capability, no explicit argument is meant
for it, and no entry answers. -/
def needsDouble (entries : List Entry) (explicit : Option Stored) (param : Param) : Bool :=
  param.kind = .capability ∧ explicit = none ∧ answers entries param.key = false

/-- The keys of the parameters for which doubles are created, in order. -/
def wanting (entries : List Entry) (explicit : Arguments) (params : List Param) : List Key :=
  (params.zipIdx.filter fun (param, i) =>
    needsDouble entries (explicit.argumentFor (params.take i) param) param).map
      fun (param, _) => param.key

/-- The keys for which doubles are created, each once, in the order of the first such parameter. -/
def missing (entries : List Entry) (explicit : Arguments) (params : List Param) : List Key :=
  (wanting entries explicit params).eraseDups

end Registry

/-- Nothing is viewed that is not among the first `allocated` objects. -/
def Stored.Existed (allocated : Nat) : Stored → Prop
  | .object _ ref => ref.index < allocated
  | .value _ _ => True

namespace World

open Registry

variable {E : Type}

/-- The first of what is available for a parameter, and what kind of source that is: the explicit
argument meant for it, an entry, a fresh double or the default of its type. -/
def firstAvailable (catalog : Catalog E) (entries : List Entry) (fresh : Ref)
    (explicit : Option Stored) (param : Param) : Source × Stored :=
  match explicit with
  | some value => (.explicit, value)
  | none =>
    match answer? entries param.key with
    | some (value, origin) => (.ofOrigin origin, value)
    | none =>
      match param.kind with
      | .capability => (.autoMock, .object param.key.type fresh)
      | .value => (.defaultValue, .value param.key.type (catalog.defaultOf param.key.type))
      | .concrete => (.constructed, .value param.key.type (catalog.defaultOf param.key.type))

/-- What fills a parameter, given the parameters before it: the entries are those at the start and
those created for earlier parameters. -/
def injectionAfter (catalog : Catalog E) (explicit : Arguments) (earlier : List Param)
    (param : Param) (w : World E) : Injection :=
  let keys := missing w.fixture.registry.entries explicit earlier
  let doubles := freshDoubles catalog.mockOf w.allocated keys
  let filling := firstAvailable catalog (w.fixture.registry.entries ++ doubles)
    ⟨w.allocated + keys.length⟩ (explicit.argumentFor earlier param) param
  ⟨param.name, param.key, filling.1, filling.2⟩

/-- No factory is registered for a type or for the parameters of its constructors. -/
structure FactoryFree (catalog : Catalog E) (target : TypeId) (f : Fixture) : Prop where
  own : f.hasFactory (.of target) = false
  params : ∀ constructor ∈ catalog.constructors target, ∀ param ∈ constructor.params,
    f.hasFactory param.key.unnamed = false

/-- What a construction leaves behind. -/
structure Effect (catalog : Catalog E) (target : TypeId) (explicit : Arguments) (w : World E)
    (construction : Construction) (w' : World E) : Prop where
  constructor : ∃ constructor ∈ w.fixture.visible (catalog.constructors target),
    construction.constructor = constructor.toDeclaration
  -- The entries stay as they are, and those of the doubles that were missing follow.
  entries : w'.fixture.registry.entries = w.fixture.registry.entries ++
    freshDoubles catalog.mockOf w.allocated
      (missing w.fixture.registry.entries explicit construction.constructor.params)
  injections : construction.injections = construction.constructor.params.mapIdx fun i param =>
    w.injectionAfter catalog explicit (construction.constructor.params.take i) param
  recorded : w'.fixture.history = w.fixture.history.record (.of target) construction
  -- What is new in the registry did not exist before.
  created : ∀ entry ∈ w'.fixture.registry.entries.drop w.fixture.registry.size,
    ∃ ref : Ref, w.allocated ≤ ref.index ∧ entry.object = .object entry.key.type ref ∧
      entry.handle = some ⟨catalog.mockOf entry.key.type, ref⟩ ∧ entry.aliases = []
  -- So no explicit argument has entered the registry.
  unregistered : ∀ value ∈ explicit.values, value.Existed w.allocated →
    ∀ entry ∈ w'.fixture.registry.entries.drop w.fixture.registry.size, entry.object ≠ value

/-! ## One parameter after the other -/

theorem wanting_concat (entries : List Entry) (explicit : Arguments) (earlier : List Param)
    (param : Param) :
    wanting entries explicit (earlier ++ [param]) = wanting entries explicit earlier ++
      if needsDouble entries (explicit.argumentFor earlier param) param then [param.key] else [] := by
  have hearlier : (earlier.zipIdx.filter fun (p, i) =>
      needsDouble entries (explicit.argumentFor ((earlier ++ [param]).take i) p) p) =
      earlier.zipIdx.filter fun (p, i) =>
        needsDouble entries (explicit.argumentFor (earlier.take i) p) p := by
    refine List.filter_congr ?_
    rintro ⟨p, i⟩ hp
    have hlt : i < earlier.length := by
      have := (List.mem_zipIdx hp).2.1
      omega
    dsimp only
    rw [List.take_append_of_le_length (Nat.le_of_lt hlt)]
  unfold wanting
  rw [List.zipIdx_append, List.filter_append, List.map_append, hearlier, Nat.zero_add]
  by_cases hneeds : needsDouble entries (explicit.argumentFor earlier param) param <;>
    simp [hneeds]

/-- One more parameter adds its key, if a double is to be created for it and none is yet. -/
theorem missing_concat (entries : List Entry) (explicit : Arguments) (earlier : List Param)
    (param : Param) :
    missing entries explicit (earlier ++ [param]) =
      if needsDouble entries (explicit.argumentFor earlier param) param ∧
          param.key ∉ missing entries explicit earlier then
        missing entries explicit earlier ++ [param.key]
      else
        missing entries explicit earlier := by
  unfold missing
  rw [wanting_concat]
  by_cases hneeds : needsDouble entries (explicit.argumentFor earlier param) param
  · rw [if_pos hneeds, Key.eraseDups_concat]
    by_cases hkey : param.key ∈ (wanting entries explicit earlier).eraseDups <;>
      simp [hneeds, hkey]
  · simp [hneeds]

/-- What holds after the parameters `earlier` have been filled, starting in `w₀`. -/
structure Filled (catalog : Catalog E) (w₀ : World E) (explicit : Arguments)
    (earlier : List Param) (used : List Bool) (w : World E) : Prop where
  covers : explicit.Covers earlier used
  indexed : w.fixture.registry.Indexed
  entries : w.fixture.registry.entries = w₀.fixture.registry.entries ++
    freshDoubles catalog.mockOf w₀.allocated
      (missing w₀.fixture.registry.entries explicit earlier)
  allocated : w.allocated =
    w₀.allocated + (missing w₀.fixture.registry.entries explicit earlier).length
  -- Nothing but the registry of the fixture has changed.
  fixture : w.fixture = { w₀.fixture with registry := w.fixture.registry }

namespace Filled

variable {catalog : Catalog E} {w₀ w w' : World E} {explicit : Arguments} {earlier : List Param}
  {used used' : List Bool} {param : Param}

theorem start (catalog : Catalog E) (explicit : Arguments) (h : w.fixture.registry.Indexed) :
    Filled catalog w explicit [] explicit.noneUsed w :=
  ⟨Arguments.covers_nil explicit, h, (List.append_nil _).symm, rfl, rfl⟩

theorem of_fixture_eq (h : Filled catalog w₀ explicit earlier used w)
    (hfixture : w'.fixture = w.fixture) (hallocated : w'.allocated = w.allocated) :
    Filled catalog w₀ explicit earlier used w' where
  covers := h.covers
  indexed := hfixture ▸ h.indexed
  entries := hfixture ▸ h.entries
  allocated := hallocated ▸ h.allocated
  fixture := hfixture ▸ h.fixture

theorem hasFactory_eq (h : Filled catalog w₀ explicit earlier used w) (key : Key) :
    w.fixture.hasFactory key = w₀.fixture.hasFactory key := by
  rw [h.fixture]
  rfl

/-- A key is answered if it was at the start, or a double has been created for it since. -/
theorem lookup_eq_none_iff (h : Filled catalog w₀ explicit earlier used w) (key : Key) :
    w.fixture.registry.lookup key = none ↔
      answers w₀.fixture.registry.entries key = false ∧
        key ∉ missing w₀.fixture.registry.entries explicit earlier := by
  rw [h.indexed.lookup_eq_none_iff, h.entries, answers_append, answers_freshDoubles]
  simp

/-- The parameter needed no double, or there was one already. -/
theorem keep (h : Filled catalog w₀ explicit earlier used w)
    (hcovers : explicit.Covers (earlier ++ [param]) used')
    (hkeep : ¬(needsDouble w₀.fixture.registry.entries (explicit.argumentFor earlier param) param ∧
      param.key ∉ missing w₀.fixture.registry.entries explicit earlier)) :
    Filled catalog w₀ explicit (earlier ++ [param]) used' w := by
  have hmissing := missing_concat w₀.fixture.registry.entries explicit earlier param
  rw [if_neg hkeep] at hmissing
  exact ⟨hcovers, h.indexed, hmissing ▸ h.entries, hmissing ▸ h.allocated, h.fixture⟩

/-- An entry answered for the parameter. -/
theorem registered (h : Filled catalog w₀ explicit earlier used w) {value : Stored} {origin : Origin}
    (hcovers : explicit.Covers (earlier ++ [param]) used')
    (hlookup : w.fixture.registry.lookup param.key = some (value, origin)) :
    Filled catalog w₀ explicit (earlier ++ [param]) used' w := by
  refine h.keep hcovers ?_
  rintro ⟨hneeds, hmissing⟩
  simp only [needsDouble, decide_eq_true_eq] at hneeds
  have hnone := (h.lookup_eq_none_iff param.key).mpr ⟨hneeds.2.2, hmissing⟩
  rw [hlookup] at hnone
  cases hnone

/-- A double was created for the parameter, the first one for its key. -/
theorem mocked (h : Filled catalog w₀ explicit earlier used w) {mock : Mock}
    (hcovers : explicit.Covers (earlier ++ [param]) used') (hkind : param.kind = .capability)
    (hargument : explicit.argumentFor earlier param = none)
    (hlookup : w.fixture.registry.lookup param.key = none)
    (hcreate : (w.onRegistry fun r fresh =>
      r.getOrCreateMock catalog.mockOf fresh param.key.type param.key.name) = (.ok mock, w')) :
    mock = ⟨param.key, ⟨w.allocated⟩, ⟨w.allocated⟩⟩ ∧
      Filled catalog w₀ explicit (earlier ++ [param]) used' w' := by
  obtain ⟨hok, rfl⟩ := Prod.mk.inj hcreate
  obtain ⟨hmock, hentries⟩ := getOrCreateMock_of_lookup catalog.mockOf h.indexed hlookup hok
  obtain ⟨hanswers, hfirst⟩ := (h.lookup_eq_none_iff param.key).mp hlookup
  have hneeds : needsDouble w₀.fixture.registry.entries
      (explicit.argumentFor earlier param) param := by
    simp [needsDouble, hkind, hargument, hanswers]
  have hmissing := missing_concat w₀.fixture.registry.entries explicit earlier param
  rw [if_pos ⟨hneeds, hfirst⟩] at hmissing
  refine ⟨hmock, hcovers, ?_, ?_, ?_, ?_⟩
  · exact (extends_getOrCreateMock catalog.mockOf h.indexed _ _ _).indexed
  · rw [hmissing, freshDoubles_concat, ← List.append_assoc, ← h.entries, ← h.allocated]
    exact hentries
  · rw [hmissing, List.length_append, ← Nat.add_assoc, ← h.allocated]
    rfl
  · exact congrArg (fun f : Fixture => { f with registry := (w.onRegistry fun r fresh =>
      r.getOrCreateMock catalog.mockOf fresh param.key.type param.key.name).2.fixture.registry })
      h.fixture

theorem injectionAfter_eq (h : Filled catalog w₀ explicit earlier used w) {source : Source}
    {value : Stored}
    (hfirst : firstAvailable catalog w.fixture.registry.entries ⟨w.allocated⟩
      (explicit.argumentFor earlier param) param = (source, value)) :
    w₀.injectionAfter catalog explicit earlier param = ⟨param.name, param.key, source, value⟩ := by
  rw [h.entries, h.allocated] at hfirst
  unfold injectionAfter
  dsimp only
  rw [hfirst]

/-- **Filling one parameter**: what is injected is the first of what is available. -/
theorem resolveArgument (h : Filled catalog w₀ explicit earlier used w) {run : Runner E}
    {target : TypeId} {injection : Injection}
    (hfactory : w₀.fixture.hasFactory param.key.unnamed = false)
    (hresolve : w.resolveArgument catalog run target explicit param used =
      (.ok (injection, used'), w')) :
    injection = w₀.injectionAfter catalog explicit earlier param ∧
      Filled catalog w₀ explicit (earlier ++ [param]) used' w' := by
  have hfactory' : w.fixture.hasFactory param.key.unnamed = false := by
    rw [h.fixture]
    exact hfactory
  have hresolved := resolved catalog run target explicit param used w
  rw [hresolve] at hresolved
  cases hresolved with
  | @explicit index value hfind =>
    have hargument := h.covers.argumentFor_eq_some hfind
    refine ⟨(h.injectionAfter_eq (by rw [hargument]; rfl)).symm, ?_⟩
    refine h.keep (h.covers.take hfind) ?_
    simp [needsDouble, hargument]
  | @provided source value _ hfind hprovided =>
    have hargument := h.covers.argumentFor_eq_none hfind
    have hcovers := h.covers.skip hfind
    cases hprovided with
    | @registered _ origin hlookup =>
      have hanswer := h.indexed.lookup_eq_answer? param.key
      rw [hlookup] at hanswer
      constructor
      · refine (h.injectionAfter_eq ?_).symm
        rw [hargument, firstAvailable, ← hanswer]
      · exact h.registered hcovers hlookup
    | made _ hproduced => cases hproduced.eq_of_hasFactory catalog run hfactory'
    | fellBack hlookup _ hfellBack =>
      have hanswer := h.indexed.lookup_eq_answer? param.key
      rw [hlookup] at hanswer
      -- A parameter that is not of a capability is filled with a default, and nothing is created.
      have hplain (hkind : param.kind ≠ .capability) :
          Filled catalog w₀ explicit (earlier ++ [param]) used w := by
        refine h.keep hcovers ?_
        simp [needsDouble, hkind]
      cases hfellBack with
      | defaultValue hkind _ =>
        refine ⟨(h.injectionAfter_eq ?_).symm, hplain (by simp [hkind])⟩
        rw [hargument, firstAvailable, ← hanswer, hkind]
      | constructed hkind =>
        refine ⟨(h.injectionAfter_eq ?_).symm, hplain (by simp [hkind])⟩
        rw [hargument, firstAvailable, ← hanswer, hkind]
      | @mocked mock _ hkind hcreate =>
        obtain ⟨rfl, hfilled⟩ := h.mocked hcovers hkind hargument hlookup hcreate
        refine ⟨(h.injectionAfter_eq ?_).symm, hfilled⟩
        rw [hargument, firstAvailable, ← hanswer, hkind]
        rfl

/-- **Filling all parameters**, by induction on those that are left. -/
theorem resolveParams {params : List Param} (h : Filled catalog w₀ explicit earlier used w)
    {run : Runner E} {target : TypeId} {injections : List Injection}
    (hfactory : ∀ param ∈ params, w₀.fixture.hasFactory param.key.unnamed = false)
    (hresolve : w.resolveParams catalog run target explicit params used =
      (.ok (injections, used'), w')) :
    (injections = params.mapIdx fun i param =>
      w₀.injectionAfter catalog explicit (earlier ++ params.take i) param) ∧
      Filled catalog w₀ explicit (earlier ++ params) used' w' := by
  induction params generalizing earlier used w injections with
  | nil =>
    obtain ⟨hok, rfl⟩ := Prod.mk.inj hresolve
    obtain ⟨rfl, rfl⟩ := Prod.mk.inj (Except.ok.inj hok)
    exact ⟨rfl, by rwa [List.append_nil]⟩
  | cons param params ih =>
    obtain ⟨hparam, hrest⟩ := List.forall_mem_cons.mp hfactory
    obtain ⟨injection, used₁, w₁, later, hfirst, hlater, rfl⟩ := resolveParams_cons_eq_ok hresolve
    obtain ⟨hinjection, hfilled⟩ := h.resolveArgument hparam hfirst
    have hreported : Filled catalog w₀ explicit (earlier ++ [param]) used₁
        (w₁.emit [.resolvedArgument injection.parameter injection.source]) :=
      hfilled.of_fixture_eq rfl rfl
    obtain ⟨hinjections, hdone⟩ := ih hreported hrest hlater
    rw [List.append_assoc, List.singleton_append] at hdone
    refine ⟨?_, hdone⟩
    rw [List.mapIdx_cons, hinjections, hinjection]
    simp

end Filled

/-! ## Constructions -/

section Constructions

variable {catalog : Catalog E} {conduct : Conduct E} {run : Runner E} {target : TypeId}

/-- What is appended to the entries is made of objects that did not exist before. -/
theorem created_freshDoubles (mockOf : TypeId → TypeId) (next : Nat) (keys : List Key)
    {entry : Entry} (h : entry ∈ freshDoubles mockOf next keys) :
    ∃ ref : Ref, next ≤ ref.index ∧ entry.object = .object entry.key.type ref ∧
      entry.handle = some ⟨mockOf entry.key.type, ref⟩ ∧ entry.aliases = [] := by
  obtain ⟨i, hi, rfl⟩ := List.mem_mapIdx.mp h
  exact ⟨⟨next + i⟩, Nat.le_add_right next i, rfl, rfl, rfl⟩

/-- Resolving a constructor in a world without factories for it. -/
theorem effect_resolve {w w' : World E} (hindexed : w.fixture.registry.Indexed)
    (hfree : FactoryFree catalog target w.fixture) {signature : Option Signature}
    {explicit : Arguments} {construction : Construction} {datum : Datum}
    (h : Built catalog run target signature explicit w (.ok (construction, datum), w')) :
    Effect catalog target explicit w construction w' := by
  cases h with
  | @built constructor position events _ injections used filled s hselect hparams hbuild =>
    have hstart : Filled catalog w explicit [] explicit.noneUsed
        (w.afterSelection events constructor) :=
      (Filled.start catalog explicit hindexed).of_fixture_eq rfl rfl
    have hconstructor := Fixture.getElem?_of_select hselect
    have hmem := List.mem_of_getElem? hconstructor
    obtain ⟨hinjections, hfilled⟩ :=
      hstart.resolveParams (hfree.params constructor (List.mem_filter.mp hmem).1) hparams
    rw [List.nil_append] at hfilled
    have hhistory : filled.fixture.history = w.fixture.history := by rw [hfilled.fixture]
    have hnew : filled.fixture.registry.entries.drop w.fixture.registry.size =
        freshDoubles catalog.mockOf w.allocated
          (missing w.fixture.registry.entries explicit constructor.params) := by
      rw [hfilled.entries]
      exact List.drop_left
    refine ⟨⟨constructor, hmem, rfl⟩, hfilled.entries, ?_, ?_, ?_, ?_⟩
    · simpa using hinjections
    · exact congrArg (fun history : History => history.record _ _) hhistory
    · intro entry hentry
      exact created_freshDoubles _ _ _ (hnew ▸ hentry)
    · rintro value - hexisted entry hentry rfl
      obtain ⟨ref, hfresh, hobject, -⟩ := created_freshDoubles _ _ _ (hnew ▸ hentry)
      rw [hobject, Stored.Existed] at hexisted
      omega

/-- Creating an instance of a type without a factory has the effect of resolving a constructor, with
the stored arguments if none are passed. -/
theorem effect_create {w w' : World E} (hindexed : w.fixture.registry.Indexed)
    (hfree : FactoryFree catalog target w.fixture) {signature : Option Signature}
    {arguments : Option Arguments} {datum : Datum}
    (h : Created catalog run target signature arguments w (.ok datum, w')) :
    ∃ construction, Effect catalog target
      ((arguments.or ((w.fixture.recipes.find? (.of target)).bind Recipe.arguments)).getD {})
      w construction w' := by
  obtain ⟨entered, construction, done, henter, hbuilt, rfl⟩ := h.exists_built catalog run hfree.own
  obtain ⟨-, rfl⟩ := enter_eq_ok_iff.mp henter
  have hfree' : FactoryFree catalog target (w.mapFixture fun f =>
      { f with inProgress := f.inProgress ++ [.of target] }).fixture :=
    ⟨hfree.own, hfree.params⟩
  have heffect := effect_resolve (by exact hindexed) hfree' hbuilt
  refine ⟨construction, heffect.constructor, ?_, heffect.injections, ?_, ?_, ?_⟩
  · rw [registry_created]
    exact heffect.entries
  · rw [history_created]
    exact heffect.recorded
  · rw [registry_created]
    exact heffect.created
  · rw [registry_created]
    exact heffect.unregistered

/-- **The effect of a construction.** Whenever a constructor is resolved in a reachable world without
factories for its type and its parameters, directly or by creating the type, the registry gains the
doubles that were missing and nothing else, every parameter is filled from the first source that has
something for it, and the sources are on record. -/
theorem construction_effect {w : World E} (hw : Reachable catalog conduct w)
    (hfree : FactoryFree catalog target w.fixture) (run : Runner E) :
    (∀ signature explicit construction datum w',
      w.resolve catalog run target signature explicit = (.ok (construction, datum), w') →
      Effect catalog target explicit w construction w') ∧
    (∀ signature arguments datum w',
      w.create catalog run target signature arguments = (.ok datum, w') →
      ∃ construction, Effect catalog target
        ((arguments.or ((w.fixture.recipes.find? (.of target)).bind Recipe.arguments)).getD {})
        w construction w') := by
  have hindexed := hw.registry.indexed
  constructor
  · intro signature explicit construction datum w' hresolve
    have hbuilt := World.built catalog run target signature explicit w
    rw [hresolve] at hbuilt
    exact effect_resolve hindexed hfree hbuilt
  · intro signature arguments datum w' hcreate
    have hcreated := created catalog run target signature arguments w
    rw [hcreate] at hcreated
    exact effect_create hindexed hfree hcreated

/-- One capability three times, once by name: the first time it is passed, the other times doubles are
created. -/
theorem construction_effect_mixed :
    let store : TypeId := ⟨"Store"⟩
    let params : List Param :=
      [.capability "main" store, .capability "backup" store (some "backup"),
        .capability "spare" store, .concrete "size" ⟨"Size"⟩]
    let catalog : Catalog Unit :=
      ⟨fun _ => ⟨"MockStore"⟩, fun _ => .null,
        fun _ => [.ofFunction { name := "new", params := params } fun _ => .ok .null]⟩
    let w : World Unit := { allocated := 1, surroundings := () }
    let explicit : Arguments := ⟨[.object store ⟨0⟩]⟩
    let run : Runner Unit := idle
    missing [] explicit params = [⟨store, some "backup"⟩, .of store] ∧
      (∃ construction w', w.resolve catalog run ⟨"Service"⟩ none explicit =
        (.ok (construction, .null), w') ∧
          construction.injections.map Injection.source =
            [.explicit, .autoMock, .autoMock, .constructed] ∧
          Effect catalog ⟨"Service"⟩ explicit w construction w') ∧
      ∃ construction w', (w.create catalog run ⟨"Service"⟩ none (some explicit)) =
        (.ok .null, w') ∧ Effect catalog ⟨"Service"⟩ explicit w construction w' := by
  intro store params catalog w explicit run
  have hw : Reachable catalog {} w := Fresh.reachable ⟨⟨{}, rfl⟩, trivial⟩
  have hfree : FactoryFree catalog ⟨"Service"⟩ w.fixture := ⟨rfl, fun _ _ _ _ => rfl⟩
  obtain ⟨hresolve, hcreate⟩ := construction_effect hw hfree run
  refine ⟨by decide, ⟨_, _, rfl, rfl, hresolve none explicit _ _ _ rfl⟩, ?_⟩
  obtain ⟨construction, heffect⟩ := hcreate none (some explicit) _ _ rfl
  exact ⟨construction, _, rfl, heffect⟩

end Constructions

end World

end TestDoubles
