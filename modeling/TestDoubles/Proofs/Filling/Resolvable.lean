import TestDoubles.Proofs.Filling.Marks
import TestDoubles.Proofs.Run.Failure
import TestDoubles.Proofs.Run.Retained

/-!
# Selected constructors can be filled

A constructor is selected because all its parameters could be filled at that time. When it is called,
doubles are created for some of them and factories run for others, and these may do anything to the
fixture before the next parameter has its turn. Here it is shown that a parameter that could be filled
still can be, unless the fixture was torn down or an alias was dropped meanwhile, and that explicit
arguments go to the parameters for which they were counted.
-/

namespace TestDoubles

/-- A plain value that could be filled, though neither an entry nor a factory is there for it, has a
default. -/
theorem Fixture.defaultValues_of_canFill {f : Fixture} (h : f.registry.Indexed) {param : Param}
    (hfill : f.canFill param) (hkind : param.kind = .value)
    (hlookup : f.registry.lookup param.key = none)
    (hfactory : f.hasFactory param.key.unnamed = false) : f.options.defaultValues = true := by
  have hcontains : f.registry.contains param.key = false := by
    rw [← h.agreesWithScan.lookup_isSome, hlookup]
    rfl
  simpa [canFill, hcontains, hfactory, hkind] using hfill

namespace World

variable {E : Type} {catalog : Catalog E} {conduct : Conduct E} {run : Runner E} {w w' : World E}
  {target : TypeId} {explicit : Arguments} {constructor : Constructor E} {position : Nat}
  {events : List Event}

/-- A parameter of a selected constructor is not missing: if it cannot be filled, its factory failed or
could not be run, or a double was to be created under the empty name. -/
theorem unfilled_of_select (hindexed : w.fixture.registry.Indexed)
    (hrun : Scripted catalog conduct run)
    (hselect : w.fixture.select target (w.fixture.visible (catalog.constructors target)) none
      explicit = (.ok (constructor, position), events)) {e : Error}
    (hparams : (w.afterSelection events constructor).resolveParams catalog run target explicit
      constructor.params explicit.noneUsed = (.error e, w')) (hlossless : Lossless w w') :
    (∃ id started, ParamsStart catalog run target explicit constructor.params explicit.noneUsed
      (w.afterSelection events constructor) id started ∧ (run id started).1 = .error e) ∨
    (∃ capability, e = .invalidArgument (.emptyMockName capability)) ∨
    ∃ keys, e = .circularDependency (.through keys) := by
  have hkept := Retained.kept catalog conduct
  obtain ⟨earlier, param, later, injections, used, w₁, hsplit, hearlier, hfails, hreached, hfailed⟩ :=
    hkept.unfilled (hkept.ends hrun) hselect hparams
  -- Nothing has been lost when the parameter has its turn.
  have hretains : w.fixture.Retains w₁.fixture := hreached.retains hfailed hindexed hlossless
  obtain ⟨hindexed₁, -⟩ := hreached hindexed
  obtain ⟨hexplicit, hlookup, hunfillable⟩ := unfillable hindexed₁ hfails
  cases hunfillable with
  | nameless _ _ => exact .inr (.inl ⟨_, rfl⟩)
  | cyclic _ _ => exact .inr (.inr ⟨_, rfl⟩)
  | @failed id started _ hstarts herror =>
    refine .inl ⟨id, started, ?_, herror⟩
    rw [hsplit]
    exact .append hearlier (.here hexplicit hlookup hstarts)
  | missing hkind hfactory hdefaults =>
    -- It could be filled when the constructor was selected, and so it could be now.
    have hunfilled := Fixture.firstUnfilled_of_select hselect
    rw [hsplit] at hunfilled
    rw [mask_resolveParams hearlier] at hexplicit
    have hfill := Fixture.canFill_of_firstUnfilled hunfilled hexplicit
    have hdefault := Fixture.defaultValues_of_canFill hindexed₁ (hretains.canFill hfill) hkind
      hlookup hfactory
    rw [hdefaults] at hdefault
    cases hdefault

/-- **A selected constructor can be filled.** If nothing is lost meanwhile, its parameters are never the
reason for an unresolvable parameter: such an error comes from a factory, or from the function of the
constructor itself. And its parameters receive the explicit arguments that were counted for them when
it was selected, as far as they are filled. -/
theorem selected_can_be_filled (hw : Reachable catalog conduct w) (hrun : Scripted catalog conduct run)
    (hselect : w.fixture.select target (w.fixture.visible (catalog.constructors target)) none
      explicit = (.ok (constructor, position), events)) :
    (∀ type parameter key w',
      w.resolve catalog run target none explicit =
        (.error (.unresolvableParameter type parameter key), w') → Lossless w w' →
      (∃ id started, ResolveStarts catalog run target none explicit w id started ∧
        (run id started).1 = .error (.unresolvableParameter type parameter key)) ∨
      (∃ intake s, ResolveInvokes catalog run target none explicit w constructor intake s ∧
        (constructor.build intake s).1 =
          .error (.unresolvableParameter type parameter key))) ∧
    (∀ i injections used w',
      (w.afterSelection events constructor).resolveParams catalog run target explicit
        (constructor.params.take i) explicit.noneUsed = (.ok (injections, used), w') →
      ∀ j, Fills catalog run target explicit constructor.params explicit.noneUsed
          (w.afterSelection events constructor) i j ↔
        w.fixture.Marks explicit constructor.params explicit.noneUsed i j) ∧
    (∀ injections used w',
      (w.afterSelection events constructor).resolveParams catalog run target explicit
        constructor.params explicit.noneUsed = (.ok (injections, used), w') →
      ∀ i injection, injections[i]? = some injection →
        (injection.source = .explicit ↔
          ∃ j, w.fixture.Marks explicit constructor.params explicit.noneUsed i j) ∧
        ∀ j, w.fixture.Marks explicit constructor.params explicit.noneUsed i j →
          explicit.values[j]? = some injection.value) := by
  have hindexed := hw.registry.indexed
  have hunfilled := Fixture.firstUnfilled_of_select hselect
  refine ⟨?_, ?_, ?_⟩
  · intro type parameter key w' hresolve hlossless
    have hbuilt := built catalog run target none explicit w
    rw [hresolve] at hbuilt
    cases hbuilt with
    | unselected hnone =>
      rw [hselect] at hnone
      cases hnone
    | unfilled hselect' hparams =>
      rw [hselect] at hselect'
      cases hselect'
      rcases unfilled_of_select hindexed hrun hselect hparams hlossless with
        ⟨id, started, hstarts, hfails⟩ | ⟨_, hnameless⟩ | ⟨_, hcyclic⟩
      · exact .inl ⟨id, started, ⟨hselect, hstarts⟩, hfails⟩
      · cases hnameless
      · cases hcyclic
    | failed hselect' hparams hbuild =>
      rw [hselect] at hselect'
      cases hselect'
      exact .inr ⟨_, _, ⟨hselect, hparams⟩, by rw [hbuild]⟩
  · intro i injections used w' hparams j
    exact fills_iff_marks hunfilled hparams j
  · intro injections used w' hparams i injection hi
    obtain ⟨hsource, hvalue⟩ := source_eq_explicit_iff hparams hi
    -- All parameters have been filled, those before this one among them.
    rw [← List.take_append_drop i constructor.params] at hparams
    obtain ⟨filled, used₁, w₁, later, hearlier, -, -⟩ := resolveParams_append_eq_ok hparams
    simp only [fills_iff_marks hunfilled hearlier] at hsource hvalue
    exact ⟨hsource, hvalue⟩

/-- A writer that takes a size and a gadget, of which the factory complains of a parameter of its own. -/
theorem selected_can_be_filled_gadget :
    let gadget : TypeId := ⟨"Gadget"⟩
    let size : TypeId := ⟨"Size"⟩
    let writer : TypeId := ⟨"Writer"⟩
    let params : List Param := [.value "size" size, .concrete "gadget" gadget]
    let catalog : Catalog Unit := ⟨id, fun _ => .null, fun _ =>
      [.ofFunction { name := "new", params := params } fun _ => .ok .null]⟩
    let complaint : Error := .unresolvableParameter gadget "weight" (.of size)
    let run : Runner Unit := fun _ w => (.error complaint, w)
    let start : World Unit := { surroundings := () }
    let registered := start.performAll catalog run [.addType gadget .transient ⟨0⟩]
    let explicit : Arguments := ⟨[.value size (.int 3)]⟩
    let answered := registered.resolve catalog run writer none explicit
    ∃ (constructor : Constructor Unit) (events : List Event), constructor.params = params ∧
      registered.fixture.select writer (registered.fixture.visible (catalog.constructors writer))
        none explicit = (.ok (constructor, 0), events) ∧
      answered.1 = .error complaint ∧ Lossless registered answered.2 ∧
      ((∃ id started, ResolveStarts catalog run writer none explicit registered id started ∧
          (run id started).1 = .error complaint) ∨
        (∃ intake s, ResolveInvokes catalog run writer none explicit registered constructor intake s ∧
          (constructor.build intake s).1 = .error complaint)) ∧
      registered.fixture.Marks explicit constructor.params explicit.noneUsed 0 0 ∧
      Fills catalog run writer explicit constructor.params explicit.noneUsed
        (registered.afterSelection events constructor) 0 0 := by
  intro gadget size writer params catalog complaint run start registered explicit answered
  have hrun : Scripted catalog {} run := scripted_const catalog complaint fun _ _ => trivial
  have hstart : Reachable catalog {} start := Fresh.reachable ⟨⟨{}, rfl⟩, trivial⟩
  have hregistered : Reachable catalog {} registered :=
    hstart.performAll hrun (fun _ _ _ => trivial) fun _ _ _ => trivial
  have hselect : registered.fixture.select writer
      (registered.fixture.visible (catalog.constructors writer)) none explicit =
        (.ok (.ofFunction { name := "new", params := params } fun _ => .ok .null, 0), []) := rfl
  obtain ⟨hfails, hpasses, -⟩ := selected_can_be_filled hregistered hrun hselect
  have hlossless : Lossless registered answered.2 := by
    unfold Lossless
    decide
  have hmarks : registered.fixture.Marks explicit params explicit.noneUsed 0 0 := .here rfl
  refine ⟨_, _, rfl, hselect, rfl, hlossless, hfails _ _ _ answered.2 rfl hlossless, hmarks, ?_⟩
  exact (hpasses 0 [] explicit.noneUsed _ rfl 0).mpr hmarks

/-- Two ways in which a selected constructor is not what it seemed: its function complains of a
parameter, and a factory fails before an argument comes to its parameter. -/
theorem selected_but_not_filled :
    let gadget : TypeId := ⟨"Gadget"⟩
    let size : TypeId := ⟨"Size"⟩
    let writer : TypeId := ⟨"Writer"⟩
    let complaint : Error := .unresolvableParameter writer "size" (.of size)
    let run : Runner Unit := idle
    let start : World Unit := { surroundings := () }
    let params : List Param := [.concrete "gadget" gadget, .value "size" size]
    let complaining : Catalog Unit := ⟨id, fun _ => .null, fun _ =>
      [.ofFunction { name := "new" } fun _ => .error complaint]⟩
    let building : Catalog Unit := ⟨id, fun _ => .null, fun _ =>
      [.ofFunction { name := "new", params := params } fun _ => .ok .null]⟩
    let registered := start.performAll building run [.addType gadget .transient ⟨0⟩]
    let explicit : Arguments := ⟨[.value size (.int 3)]⟩
    (Reachable complaining {} start ∧ Scripted complaining {} run ∧
      (∃ choice, start.fixture.select writer
        (start.fixture.visible (complaining.constructors writer)) none {} = (.ok choice, [])) ∧
      (start.resolve complaining run writer none {}).1 = .error complaint ∧
      Lossless start (start.resolve complaining run writer none {}).2 ∧
      ∀ id started, ¬ResolveStarts complaining run writer none {} start id started) ∧
    (Reachable building {} registered ∧ Scripted building {} run ∧
      ∃ constructor events, registered.fixture.select writer
          (registered.fixture.visible (building.constructors writer)) none explicit =
            (.ok (constructor, 0), events) ∧
        registered.fixture.Marks explicit constructor.params explicit.noneUsed 1 0 ∧
        ¬Fills building run writer explicit constructor.params explicit.noneUsed
          (registered.afterSelection events constructor) 1 0) := by
  intro gadget size writer complaint run start params complaining building registered explicit
  have hrun (catalog : Catalog Unit) : Scripted catalog {} run :=
    scripted_idle catalog fun _ _ => trivial
  have hstart (catalog : Catalog Unit) : Reachable catalog {} start :=
    Fresh.reachable ⟨⟨{}, rfl⟩, trivial⟩
  have hregistered : Reachable building {} registered :=
    (hstart building).performAll (hrun building) (fun _ _ _ => trivial) fun _ _ _ => trivial
  refine ⟨⟨hstart complaining, hrun complaining, ⟨_, rfl⟩, rfl, ?_, ?_⟩,
    hregistered, hrun building, _, _, rfl, ?_, ?_⟩
  · unfold Lossless
    decide
  · rintro id started ⟨hselect, hstarts⟩
    cases hselect
    cases hstarts
  · exact .filled rfl rfl (.here rfl)
  · intro hfills
    cases hfills with
    | there hfirst _ => cases hfirst

end World

end TestDoubles
