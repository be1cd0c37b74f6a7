import TestDoubles.Proofs.Filling.Effect
import TestDoubles.Proofs.Filling.Resolvable

/-!
# Creating with the longest constructor

Without a signature, a type is created with the longest constructor whose parameters could all be
filled, and there is no way back to a shorter one. Without factories this judgement holds good, except
for one thing that it takes for granted: that a double can be created for every capability. None is
created under the empty name.

- `Registry.nameless?` is the first double that is missing and would have the empty name.
- `World.greedyAnswer` is the answer to creating a type, said without creating anything.
- `World.greedy_creation` shows that this is the answer, and what errors it can be.
-/

namespace TestDoubles

/-! ## Doubles under the empty name -/

/-- Some parameter is of a capability under the empty name, and no argument is meant for it. -/
def Arguments.LeavesNameless (args : Arguments) (params : List Param) : Prop :=
  ∃ earlier param later, params = earlier ++ param :: later ∧ param.kind = .capability ∧
    param.key.name = some "" ∧ args.argumentFor earlier param = none

namespace Registry

/-- The first of the keys for which doubles are to be created that has the empty name. -/
def nameless? (entries : List Entry) (explicit : Arguments) (params : List Param) : Option Key :=
  (missing entries explicit params).find? fun key => key.name = some ""

section Missing

variable {entries : List Entry} {explicit : Arguments} {earlier : List Param} {param : Param}

/-- Later parameters come after the doubles that earlier ones need. -/
theorem missing_isPrefix (entries : List Entry) (explicit : Arguments) (earlier later : List Param) :
    missing entries explicit earlier <+: missing entries explicit (earlier ++ later) := by
  induction later generalizing earlier with
  | nil => simp
  | cons param later ih =>
    have hone : missing entries explicit earlier <+: missing entries explicit (earlier ++ [param]) := by
      rw [World.missing_concat]
      split
      · exact List.prefix_append _ _
      · exact List.prefix_rfl
    have hrest := ih (earlier ++ [param])
    rw [List.append_assoc, List.singleton_append] at hrest
    exact hone.trans hrest

/-- The parameter needs a double, the first one for its key, and is the first without a name for it. -/
theorem nameless?_of_first (hearlier : nameless? entries explicit earlier = none)
    (hneeds : needsDouble entries (explicit.argumentFor earlier param) param)
    (hfirst : param.key ∉ missing entries explicit earlier) (hname : param.key.name = some "")
    (later : List Param) : nameless? entries explicit (earlier ++ param :: later) = some param.key := by
  have hconcat := World.missing_concat entries explicit earlier param
  rw [if_pos ⟨hneeds, hfirst⟩] at hconcat
  have hfound : nameless? entries explicit (earlier ++ [param]) = some param.key := by
    unfold nameless? at hearlier ⊢
    rw [hconcat, List.find?_append, hearlier]
    simp [hname]
  have hprefix := missing_isPrefix entries explicit (earlier ++ [param]) later
  rw [List.append_assoc, List.singleton_append] at hprefix
  exact hprefix.find?_eq_some hfound

/-- One more parameter needs no double under the empty name. -/
theorem nameless?_concat (hearlier : nameless? entries explicit earlier = none)
    (hnamed : needsDouble entries (explicit.argumentFor earlier param) param →
      param.key ∉ missing entries explicit earlier → param.key.name ≠ some "") :
    nameless? entries explicit (earlier ++ [param]) = none := by
  unfold nameless? at hearlier ⊢
  rw [World.missing_concat]
  split
  next hneeds =>
    rw [List.find?_append, hearlier]
    simp [hnamed hneeds.1 hneeds.2]
  next => exact hearlier

/-- A double is to be created under a key if one of the parameters under that key needs one. -/
theorem mem_missing_iff {params : List Param} {key : Key} :
    key ∈ missing entries explicit params ↔
      ∃ earlier param later, params = earlier ++ param :: later ∧
        needsDouble entries (explicit.argumentFor earlier param) param ∧ param.key = key := by
  unfold missing wanting
  rw [List.mem_eraseDups, List.mem_map]
  constructor
  · rintro ⟨⟨param, i⟩, hmem, hkey⟩
    obtain ⟨hzip, hneeds⟩ := List.mem_filter.mp hmem
    obtain ⟨hi, hget⟩ := List.getElem?_eq_some_iff.mp (List.mem_zipIdx_iff_getElem?.mp hzip)
    refine ⟨params.take i, param, params.drop (i + 1), ?_, hneeds, hkey⟩
    dsimp only at hi hget
    rw [← hget, ← List.drop_eq_getElem_cons hi, List.take_append_drop]
  · rintro ⟨earlier, param, later, rfl, hneeds, hkey⟩
    refine ⟨(param, earlier.length), List.mem_filter.mpr ⟨?_, ?_⟩, hkey⟩
    · exact List.mem_zipIdx_iff_getElem?.mpr (by simp)
    · simpa using hneeds

/-- Nothing is found under the empty name, so it depends on the arguments alone whether a double is to
be created under it. -/
theorem Coherent.nameless?_isSome_iff {mockOf : TypeId → TypeId} {n : Nat} {r : Registry}
    (h : r.Coherent mockOf n) (explicit : Arguments) (params : List Param) :
    (nameless? r.entries explicit params).isSome ↔ explicit.LeavesNameless params := by
  unfold nameless?
  rw [List.find?_isSome]
  constructor
  · rintro ⟨key, hmissing, hname⟩
    obtain ⟨earlier, param, later, hsplit, hneeds, rfl⟩ := mem_missing_iff.mp hmissing
    simp only [needsDouble, decide_eq_true_eq] at hneeds
    exact ⟨earlier, param, later, hsplit, hneeds.1, of_decide_eq_true hname, hneeds.2.1⟩
  · rintro ⟨earlier, param, later, hsplit, hkind, hname, hargument⟩
    have hanswers := h.indexed.lookup_eq_none_iff param.key |>.mp (h.lookup_nameless hname)
    refine ⟨param.key, mem_missing_iff.mpr ⟨earlier, param, later, hsplit, ?_, rfl⟩, ?_⟩
    · simp [needsDouble, hkind, hargument, hanswers]
    · simpa using hname

end Missing

/-- Under the empty name nothing is created. -/
theorem nameless_of_getOrCreateMock {mockOf : TypeId → TypeId} {r : Registry} {fresh : Ref}
    {capability : TypeId} {name : Option String} {mock : Mock}
    (h : (r.getOrCreateMock mockOf fresh capability name).result = .ok mock) : name ≠ some "" := by
  rcases capabilityKey_cases capability name with ⟨-, hkey⟩ | ⟨hname, -⟩
  · unfold getOrCreateMock at h
    rw [hkey] at h
    cases h
  · exact hname

end Registry

namespace World

open Registry

variable {E : Type}

/-! ## The answer -/

/-- What the function of a constructor is called with, if doubles are created where they are missing. -/
def intakeOf (catalog : Catalog E) (target : TypeId) (explicit : Arguments) (params : List Param)
    (w : World E) : Intake :=
  ⟨target, params.mapIdx fun i param => w.injectionAfter catalog explicit (params.take i) param⟩

/-- The answer to creating a type with its longest constructor that could be filled. -/
def greedyAnswer (catalog : Catalog E) (target : TypeId) (explicit : Arguments) (w : World E) :
    Except Error Datum :=
  match w.fixture.selectGreedy target (w.fixture.visible (catalog.constructors target)) explicit with
  | .error e => .error e
  | .ok (constructor, _) =>
    match nameless? w.fixture.registry.entries explicit constructor.params with
    | some key => .error (.invalidArgument (.emptyMockName key.type))
    | none =>
      (constructor.build (w.intakeOf catalog target explicit constructor.params) w.surroundings).1

/-! ## Filling without factories -/

/-- What holds after the parameters `earlier` have been filled without running anything, starting in
`w₀`: doubles were created where they were missing, none of them under the empty name. -/
structure FilledQuietly (catalog : Catalog E) (w₀ : World E) (explicit : Arguments)
    (earlier : List Param) (used : List Bool) (w : World E) : Prop where
  filled : Filled catalog w₀ explicit earlier used w
  surroundings : w.surroundings = w₀.surroundings
  named : nameless? w₀.fixture.registry.entries explicit earlier = none

section Quietly

variable {catalog : Catalog E} {run : Runner E} {target : TypeId} {w₀ w w' : World E}
  {explicit : Arguments} {earlier : List Param} {used used' : List Bool} {param : Param}

/-- Without a factory, filling a parameter changes nothing, or a double is created for it, as it is for
a capability with neither an argument nor an entry. -/
theorem unchanged_or_mocked {injection : Injection}
    (hfactory : w.fixture.hasFactory param.key.unnamed = false)
    (hresolve : w.resolveArgument catalog run target explicit param used =
      (.ok (injection, used'), w')) :
    (w' = w ∧ (param.kind = .capability → explicit.find? param.key.type used = none →
      w.fixture.registry.lookup param.key ≠ none)) ∨
    ∃ mock, (w.onRegistry fun r fresh =>
      r.getOrCreateMock catalog.mockOf fresh param.key.type param.key.name) = (.ok mock, w') := by
  have hresolved := resolved catalog run target explicit param used w
  rw [hresolve] at hresolved
  cases hresolved with
  | explicit hfind => exact .inl ⟨rfl, by simp [hfind]⟩
  | provided _ hprovided =>
    cases hprovided with
    | registered hfound => exact .inl ⟨rfl, by simp [hfound]⟩
    | made _ hproduced => cases hproduced.eq_of_hasFactory catalog run hfactory
    | fellBack _ _ hfellBack =>
      cases hfellBack with
      | mocked _ hcreate => exact .inr ⟨_, hcreate⟩
      | defaultValue hkind _ => exact .inl ⟨rfl, by simp [hkind]⟩
      | constructed hkind => exact .inl ⟨rfl, by simp [hkind]⟩

namespace FilledQuietly

/-- **Filling one parameter quietly.** -/
theorem resolveArgument (h : FilledQuietly catalog w₀ explicit earlier used w)
    {injection : Injection} (hfactory : w₀.fixture.hasFactory param.key.unnamed = false)
    (hresolve : w.resolveArgument catalog run target explicit param used =
      (.ok (injection, used'), w')) :
    FilledQuietly catalog w₀ explicit (earlier ++ [param]) used' w' := by
  have hchange := unchanged_or_mocked (h.filled.hasFactory_eq _ ▸ hfactory) hresolve
  refine ⟨(h.filled.resolveArgument hfactory hresolve).2, ?_, ?_⟩
  · rcases hchange with ⟨rfl, -⟩ | ⟨mock, hcreate⟩
    · exact h.surroundings
    · obtain ⟨-, rfl⟩ := Prod.mk.inj hcreate
      exact h.surroundings
  · refine nameless?_concat h.named fun hneeds hfirst => ?_
    simp only [needsDouble, decide_eq_true_eq] at hneeds
    obtain ⟨hkind, hargument, hanswers⟩ := hneeds
    rcases hchange with ⟨-, hlookup⟩ | ⟨mock, hcreate⟩
    · have hexplicit : explicit.find? param.key.type used = none := by
        rwa [← h.filled.covers.map_snd_find?, Option.map_eq_none_iff] at hargument
      exact absurd ((h.filled.lookup_eq_none_iff param.key).mpr ⟨hanswers, hfirst⟩)
        (hlookup hkind hexplicit)
    · exact nameless_of_getOrCreateMock (Prod.mk.inj hcreate).1

/-- **Filling parameters quietly**, by induction on those that are left. -/
theorem resolveParams {params : List Param} (h : FilledQuietly catalog w₀ explicit earlier used w)
    {injections : List Injection}
    (hfactory : ∀ param ∈ params, w₀.fixture.hasFactory param.key.unnamed = false)
    (hresolve : w.resolveParams catalog run target explicit params used =
      (.ok (injections, used'), w')) :
    FilledQuietly catalog w₀ explicit (earlier ++ params) used' w' := by
  induction params generalizing earlier used w injections with
  | nil =>
    obtain ⟨hok, rfl⟩ := Prod.mk.inj hresolve
    obtain ⟨-, rfl⟩ := Prod.mk.inj (Except.ok.inj hok)
    rwa [List.append_nil]
  | cons param params ih =>
    obtain ⟨hparam, hrest⟩ := List.forall_mem_cons.mp hfactory
    obtain ⟨injection, used₁, w₁, later, hfirst, hlater, -⟩ := resolveParams_cons_eq_ok hresolve
    obtain ⟨hfilled, hsurroundings, hnamed⟩ := h.resolveArgument hparam hfirst
    have hreported : FilledQuietly catalog w₀ explicit (earlier ++ [param]) used₁
        (w₁.emit [.resolvedArgument injection.parameter injection.source]) :=
      ⟨hfilled.of_fixture_eq rfl rfl, hsurroundings, hnamed⟩
    have hdone := ih hreported hrest hlater
    rwa [List.append_assoc, List.singleton_append] at hdone

/-- A parameter that cannot be filled, although it could have been at the start, needs a double under
the empty name. -/
theorem nameless_of_error (h : FilledQuietly catalog w₀ explicit earlier used w) {e : Error}
    (hindexed : w₀.fixture.registry.Indexed)
    (hfactory : w₀.fixture.hasFactory param.key.unnamed = false)
    (hfill : explicit.find? param.key.type used = none → w₀.fixture.canFill param)
    (hresolve : w.resolveArgument catalog run target explicit param used = (.error e, w'))
    (later : List Param) :
    nameless? w₀.fixture.registry.entries explicit (earlier ++ param :: later) = some param.key ∧
      e = .invalidArgument (.emptyMockName param.key.type) := by
  have hfactory' : w.fixture.hasFactory param.key.unnamed = false :=
    h.filled.hasFactory_eq _ ▸ hfactory
  obtain ⟨hexplicit, hlookup, hunfillable⟩ := unfillable h.filled.indexed hresolve
  obtain ⟨hanswers, hfirst⟩ := (h.filled.lookup_eq_none_iff param.key).mp hlookup
  cases hunfillable with
  | nameless hkind hname =>
    have hargument := h.filled.covers.argumentFor_eq_none hexplicit
    have hneeds : needsDouble w₀.fixture.registry.entries (explicit.argumentFor earlier param)
        param := by
      simp [needsDouble, hkind, hargument, hanswers]
    exact ⟨nameless?_of_first h.named hneeds hfirst hname later, rfl⟩
  | missing hkind _ hdefaults =>
    have hdefault := Fixture.defaultValues_of_canFill hindexed (hfill hexplicit) hkind
      (hindexed.lookup_eq_none_iff param.key |>.mpr hanswers) hfactory
    rw [h.filled.fixture, hdefault] at hdefaults
    cases hdefaults
  | cyclic hhas _ =>
    rw [hfactory'] at hhas
    cases hhas
  | failed hstarts _ =>
    obtain ⟨hrecipe, hhas, -⟩ := hstarts
    rw [hasFactory_of_recipe hrecipe hhas] at hfactory'
    cases hfactory'

end FilledQuietly

end Quietly

/-! ## Creating -/

section Creating

variable {catalog : Catalog E} {conduct : Conduct E} {run : Runner E} {target : TypeId}
  {w w' : World E} {explicit : Arguments}

/-- Before any parameter has been filled. -/
theorem FilledQuietly.start (catalog : Catalog E) (explicit : Arguments)
    (hindexed : w.fixture.registry.Indexed) (events : List Event) (constructor : Constructor E) :
    FilledQuietly catalog w explicit [] explicit.noneUsed (w.afterSelection events constructor) :=
  ⟨(Filled.start catalog explicit hindexed).of_fixture_eq rfl rfl, rfl, rfl⟩

/-- If all parameters of a constructor have been filled, its function is called as foreseen. -/
theorem greedyAnswer_of_filled (hindexed : w.fixture.registry.Indexed)
    (hfree : FactoryFree catalog target w.fixture) {constructor : Constructor E} {position : Nat}
    {events : List Event} {injections : List Injection} {used : List Bool}
    (hselect : w.fixture.select target (w.fixture.visible (catalog.constructors target)) none
      explicit = (.ok (constructor, position), events))
    (hparams : (w.afterSelection events constructor).resolveParams catalog run target explicit
      constructor.params explicit.noneUsed = (.ok (injections, used), w')) :
    w.greedyAnswer catalog target explicit =
      (constructor.build ⟨target, injections⟩ w'.surroundings).1 := by
  have hfactory := hfree.params constructor (Fixture.mem_of_select hselect)
  have hstart := FilledQuietly.start catalog explicit hindexed events constructor
  obtain ⟨-, hsurroundings, hnamed⟩ := hstart.resolveParams hfactory hparams
  obtain ⟨rfl, -⟩ := hstart.filled.resolveParams hfactory hparams
  have hgreedy : w.fixture.selectGreedy target _ explicit = _ := (Prod.mk.inj hselect).1
  rw [List.nil_append] at hnamed
  simp [greedyAnswer, hgreedy, hnamed, hsurroundings, intakeOf]

/-- If one of them cannot be filled, that is as foreseen. -/
theorem greedyAnswer_of_unfilled (hindexed : w.fixture.registry.Indexed)
    (hfree : FactoryFree catalog target w.fixture) {constructor : Constructor E} {position : Nat}
    {events : List Event} {e : Error}
    (hselect : w.fixture.select target (w.fixture.visible (catalog.constructors target)) none
      explicit = (.ok (constructor, position), events))
    (hparams : (w.afterSelection events constructor).resolveParams catalog run target explicit
      constructor.params explicit.noneUsed = (.error e, w')) :
    w.greedyAnswer catalog target explicit = .error e := by
  obtain ⟨earlier, param, later, injections, used, w₁, hsplit, hearlier, hfails⟩ :=
    resolveParams_eq_error hparams
  have hfactory := hfree.params constructor (Fixture.mem_of_select hselect)
  have hunfilled := Fixture.firstUnfilled_of_select hselect
  rw [hsplit, List.forall_mem_append, List.forall_mem_cons] at hfactory
  rw [hsplit] at hunfilled
  obtain ⟨hbefore, hown, -⟩ := hfactory
  have hstart := FilledQuietly.start catalog explicit hindexed events constructor
  have hquietly := hstart.resolveParams hbefore hearlier
  have hfill (hexplicit : explicit.find? param.key.type used = none) :
      w.fixture.canFill param := by
    rw [mask_resolveParams hearlier] at hexplicit
    exact Fixture.canFill_of_firstUnfilled hunfilled hexplicit
  obtain ⟨hnameless, rfl⟩ := hquietly.nameless_of_error hindexed hown hfill hfails later
  have hgreedy : w.fixture.selectGreedy target _ explicit = _ := (Prod.mk.inj hselect).1
  rw [List.nil_append, ← hsplit] at hnameless
  simp [greedyAnswer, hgreedy, hnameless]

/-- **Resolving a constructor without factories** is answered as foreseen. -/
theorem greedyAnswer_of_built (hindexed : w.fixture.registry.Indexed)
    (hfree : FactoryFree catalog target w.fixture) {answer : Except Error (Construction × Datum)}
    (h : Built catalog run target none explicit w (answer, w')) :
    answer.map Prod.snd = w.greedyAnswer catalog target explicit := by
  cases h with
  | unselected hselect =>
    have hgreedy : w.fixture.selectGreedy target _ explicit = _ := (Prod.mk.inj hselect).1
    simp [greedyAnswer, hgreedy, Except.map]
  | unfilled hselect hparams =>
    rw [greedyAnswer_of_unfilled hindexed hfree hselect hparams]
    rfl
  | failed hselect hparams hbuild =>
    rw [greedyAnswer_of_filled hindexed hfree hselect hparams, hbuild]
    rfl
  | built hselect hparams hbuild =>
    rw [greedyAnswer_of_filled hindexed hfree hselect hparams, hbuild]
    rfl

theorem selectGreedy_enter {entered : World E} {key : Key} (henter : w.enter key = .ok entered)
    (candidates : List (Constructor E)) :
    entered.fixture.selectGreedy target candidates explicit =
      w.fixture.selectGreedy target candidates explicit := by
  obtain ⟨-, rfl⟩ := enter_eq_ok_iff.mp henter
  refine Fixture.selectGreedy_congr (fun param => ?_) target candidates explicit
  rfl

/-- That the type is in progress changes nothing about the answer. -/
theorem greedyAnswer_enter {entered : World E} {key : Key} (henter : w.enter key = .ok entered) :
    entered.greedyAnswer catalog target explicit = w.greedyAnswer catalog target explicit := by
  unfold greedyAnswer
  rw [selectGreedy_enter henter]
  obtain ⟨-, rfl⟩ := enter_eq_ok_iff.mp henter
  rfl

/-- What is obtained when the type has been entered is the answer. -/
theorem greedyAnswer_of_obtained (hindexed : w.fixture.registry.Indexed)
    (hfree : FactoryFree catalog target w.fixture) {entered : World E}
    {arguments : Option Arguments} {answer : Except Error Datum}
    (henter : w.enter (.of target) = .ok entered)
    (h : Obtained catalog run target (.of target) none arguments entered (answer, w')) :
    answer = w.greedyAnswer catalog target
      ((arguments.or ((w.fixture.recipes.find? (.of target)).bind Recipe.arguments)).getD {}) := by
  rw [← greedyAnswer_enter henter]
  obtain ⟨-, rfl⟩ := enter_eq_ok_iff.mp henter
  have hfree' : FactoryFree catalog target (w.mapFixture fun f =>
      { f with inProgress := f.inProgress ++ [.of target] }).fixture :=
    ⟨hfree.own, hfree.params⟩
  obtain ⟨resolved, w₁, hbuilt, hresult⟩ := h.of_hasFactory catalog run hfree'.own
  obtain ⟨rfl, rfl⟩ := Prod.mk.inj hresult
  exact greedyAnswer_of_built (by exact hindexed) hfree' hbuilt

/-- The errors among the answers that are foreseen. -/
theorem greedyAnswer_eq_error {e : Error} (h : w.greedyAnswer catalog target explicit = .error e) :
    (∃ blocked, e = .noResolvableConstructor target blocked) ∨
    ∃ constructor position,
      w.fixture.selectGreedy target (w.fixture.visible (catalog.constructors target)) explicit =
        .ok (constructor, position) ∧
      ((constructor.build (w.intakeOf catalog target explicit constructor.params)
          w.surroundings).1 = .error e ∨
        ∃ key, nameless? w.fixture.registry.entries explicit constructor.params = some key ∧
          e = .invalidArgument (.emptyMockName key.type)) := by
  unfold greedyAnswer at h
  split at h
  next e' hgreedy =>
    left
    obtain rfl := Except.error.inj h
    unfold Fixture.selectGreedy at hgreedy
    split at hgreedy
    · cases hgreedy
    · exact ⟨_, (Except.error.inj hgreedy).symm⟩
  next constructor position hgreedy =>
    refine .inr ⟨constructor, position, hgreedy, ?_⟩
    split at h
    next key hnameless => exact .inr ⟨key, hnameless, (Except.error.inj h).symm⟩
    next => exact .inl h

/-- Creating without factories is answered as foreseen. -/
theorem create_eq_greedyAnswer (hindexed : w.fixture.registry.Indexed)
    (hfree : FactoryFree catalog target w.fixture) (hprogress : .of target ∉ w.fixture.inProgress)
    (run : Runner E) (arguments : Option Arguments) :
    (w.create catalog run target none arguments).1 = w.greedyAnswer catalog target
      ((arguments.or ((w.fixture.recipes.find? (.of target)).bind Recipe.arguments)).getD {}) := by
  have hcreated := created catalog run target none arguments w
  generalize w.create catalog run target none arguments = result at hcreated
  cases hcreated with
  | cyclic henter => exact absurd (enter_eq_error_iff.mp henter).1 hprogress
  | failed henter h => exact greedyAnswer_of_obtained hindexed hfree henter h
  | built henter h => exact greedyAnswer_of_obtained hindexed hfree henter h

/-- **Creating without factories.** In every world that comes up, a type is answered that is not being
created already, and for which and for whose parameters there are no factories, as `greedyAnswer`
foresees: an error means that none of its constructors could be filled, or it is the error of the
function of the selected constructor, unless that constructor is left to ask for a double under the
empty name. -/
theorem greedy_creation (hw : Reachable catalog conduct w)
    (hfree : FactoryFree catalog target w.fixture) (hprogress : .of target ∉ w.fixture.inProgress)
    (run : Runner E) (arguments : Option Arguments) :
    let explicit := (arguments.or
      ((w.fixture.recipes.find? (.of target)).bind Recipe.arguments)).getD {}
    (w.create catalog run target none arguments).1 = w.greedyAnswer catalog target explicit ∧
    (∀ e, (w.create catalog run target none arguments).1 = .error e →
      (∃ blocked, e = .noResolvableConstructor target blocked) ∨
      ∃ constructor position,
        w.fixture.selectGreedy target (w.fixture.visible (catalog.constructors target)) explicit =
          .ok (constructor, position) ∧
        ((constructor.build (w.intakeOf catalog target explicit constructor.params)
            w.surroundings).1 = .error e ∨
          ∃ key, nameless? w.fixture.registry.entries explicit constructor.params = some key ∧
            e = .invalidArgument (.emptyMockName key.type))) ∧
    ∀ params, (nameless? w.fixture.registry.entries explicit params).isSome ↔
      explicit.LeavesNameless params := by
  intro explicit
  have hanswer : (w.create catalog run target none arguments).1 =
      w.greedyAnswer catalog target explicit :=
    create_eq_greedyAnswer hw.registry.indexed hfree hprogress run arguments
  refine ⟨hanswer, ?_, hw.sound.registry.coherent.nameless?_isSome_iff explicit⟩
  exact fun e herror => greedyAnswer_eq_error (hanswer.symm.trans herror)

/-- A writer that takes a spare store and a size, and complains of the size, or nothing at all: without
a size it is created with nothing. -/
theorem greedy_creation_spare :
    let store : TypeId := ⟨"Store"⟩
    let size : TypeId := ⟨"Size"⟩
    let writer : TypeId := ⟨"Writer"⟩
    let params : List Param := [.capability "spare" store (some "spare"), .value "size" size]
    let complaint : Error := .constructionFailed writer (.stated "no room")
    let catalog : Catalog Unit := ⟨id, fun _ => .null, fun _ =>
      [.ofFunction { name := "new", params := params } fun _ => .error complaint,
        .ofFunction { name := "empty" } fun _ => .ok (.int 0)]⟩
    let run : Runner Unit := idle
    let w : World Unit := { surroundings := () }
    let explicit : Arguments := ⟨[.value size (.int 3)]⟩
    FactoryFree catalog writer w.fixture ∧
      w.greedyAnswer catalog writer {} = .ok (.int 0) ∧
      (w.create catalog run writer none none).1 = .ok (.int 0) ∧
      w.greedyAnswer catalog writer explicit = .error complaint ∧
      (w.create catalog run writer none (some explicit)).1 = .error complaint := by
  intro store size writer params complaint catalog run w explicit
  have hw : Reachable catalog {} w := Fresh.reachable ⟨⟨{}, rfl⟩, trivial⟩
  have hfree : FactoryFree catalog writer w.fixture := ⟨rfl, fun _ _ _ _ => rfl⟩
  obtain ⟨hempty, -⟩ := greedy_creation hw hfree List.not_mem_nil run none
  obtain ⟨hnew, -⟩ := greedy_creation hw hfree List.not_mem_nil run (some explicit)
  exact ⟨hfree, rfl, hempty.trans rfl, rfl, hnew.trans rfl⟩

/-- A type of which the longer constructor takes a double under the empty name is not created, although
none of its constructors fails and the shorter one takes nothing. -/
theorem greedy_creation_nameless :
    let store : TypeId := ⟨"Store"⟩
    let writer : TypeId := ⟨"Writer"⟩
    let named : Constructor Unit :=
      .ofFunction { name := "named", params := [.capability "store" store (some "")] } fun _ => .ok .null
    let plain : Constructor Unit := .ofFunction { name := "plain" } fun _ => .ok .null
    let catalog : Catalog Unit := ⟨id, fun _ => .null, fun _ => [named, plain]⟩
    let run : Runner Unit := idle
    let w : World Unit := { surroundings := () }
    Reachable catalog {} w ∧ FactoryFree catalog writer w.fixture ∧
      .of writer ∉ w.fixture.inProgress ∧ w.fixture.isResolvable {} plain.toDeclaration ∧
      (∀ intake s, (named.build intake s).1 = .ok .null ∧ (plain.build intake s).1 = .ok .null) ∧
      (w.create catalog run writer none none).1 = .error (.invalidArgument (.emptyMockName store)) := by
  intro store writer named plain catalog run w
  have hw : Reachable catalog {} w := Fresh.reachable ⟨⟨{}, rfl⟩, trivial⟩
  exact ⟨hw, ⟨rfl, fun _ _ _ _ => rfl⟩, List.not_mem_nil, rfl, fun _ _ => ⟨rfl, rfl⟩, rfl⟩

end Creating

end World

end TestDoubles
