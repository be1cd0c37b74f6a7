import TestDoubles.Proofs.Filling.SideBySide
import TestDoubles.Proofs.Selection.BySignature

/-!
# The ways to ask for an instance

A type can be created with explicit arguments, by a signature or with neither, and one of its constructors
can be resolved directly. Here it is said how these ways are related. A factory is asked in the same way by
all of them. Without one, creating is resolving with the arguments that are passed or else stored, while
the type is in progress; when it is done, only the stage and the recipe of the type show a difference. And
resolving without a signature is resolving with the signature of the constructor that wins, if no other one
looks the same.

- `World.create_of_hasFactory` and `World.create_eq_resolve` are about creating with and without a factory.
- `World.resolve_signature` compares the two ways to select a constructor.
- `World.entry_points_agree` puts them together.
-/

namespace TestDoubles

namespace World

variable {E : Type}

/-! ## What is to be compared -/

/-- The arguments that are stored for a type; none, if nothing is stored. -/
def storedFor (target : TypeId) (w : World E) : Arguments :=
  ((w.fixture.recipes.find? (.of target)).bind Recipe.arguments).getD {}

/-- An instance of a type has been built, and nothing else has happened: the stage says so, and the recipe
for the type is fixed, if there is one. -/
structure Sealed (target : TypeId) (w after : World E) : Prop where
  options : after.fixture.options = w.fixture.options
  registry : after.fixture.registry = w.fixture.registry
  recipes (key : Key) : after.fixture.recipes.find? key =
    if key = .of target then
      (w.fixture.recipes.find? key).map fun recipe => { recipe with frozen := true }
    else
      w.fixture.recipes.find? key
  history : after.fixture.history = w.fixture.history
  stage : after.fixture.stage = .constructed
  inProgress : after.fixture.inProgress = w.fixture.inProgress
  allocated : after.allocated = w.allocated
  events : after.events = w.events
  surroundings : after.surroundings = w.surroundings

/-- Creating a type comes to what resolving a constructor of it comes to. -/
inductive CreatedAs (target : TypeId) :
    Except Error (Construction × Datum) × World E → Except Error Datum × World E → Prop where
  | built {construction : Construction} {datum : Datum} {resolved created : World E}
      (h : Sealed target resolved created) :
      CreatedAs target (.ok (construction, datum), resolved) (.ok datum, created)
  | failed {e : Error} {after : World E} : CreatedAs target (.error e, after) (.error e, after)

theorem sealed_created (target : TypeId) (w : World E) :
    Sealed target w (w.mapFixture fun f => (f.freeze (.of target)).built) where
  options := w.fixture.options_freeze _
  registry := w.fixture.registry_freeze _
  recipes key := by
    refine (w.fixture.find?_freeze (.of target) key).trans ?_
    by_cases hkey : key = .of target
    · simp only [hkey, if_true]
    · simp only [hkey, Ne.symm hkey, if_false, Option.map_id']
  history := w.fixture.history_freeze _
  stage := rfl
  inProgress := w.fixture.inProgress_freeze _
  allocated := rfl
  events := rfl
  surroundings := rfl

/-! ## While a type is in progress -/

/-- A key is in progress, too. -/
def entering (key : Key) (w : World E) : World E :=
  w.mapFixture fun f => { f with inProgress := f.inProgress ++ [key] }

theorem leave_entering (key : Key) (w : World E) : (w.entering key).leave = w := by
  simp [leave, entering, mapFixture, Fixture.leave]

section

variable {catalog : Catalog E} {run : Runner E} {target : TypeId} {w : World E}

/-- Without factories, nothing that is filled depends on what is in progress. -/
theorem corresponds_entering (catalog : Catalog E) (run : Runner E) (target : TypeId) (key : Key) :
    Corresponds catalog run (catalog.Declares target)
      fun w w' => FactoryFree catalog target w.fixture ∧ w' = w.entering key where
  options := by
    rintro w _ ⟨-, rfl⟩
    rfl
  surroundings := by
    rintro w _ ⟨-, rfl⟩
    rfl
  lookup := by
    rintro w _ ⟨-, rfl⟩ key
    rfl
  emit events := by
    rintro ⟨hfree, rfl⟩
    exact ⟨hfree, rfl⟩
  changed s := by
    rintro ⟨hfree, rfl⟩
    exact ⟨hfree, rfl⟩
  recorded target construction := by
    rintro ⟨hfree, rfl⟩
    exact ⟨⟨hfree.own, hfree.params⟩, rfl⟩
  mocked := by
    rintro w _ key ⟨hfree, rfl⟩ -
    exact ⟨rfl, ⟨hfree.own, hfree.params⟩, rfl⟩
  produced := by
    rintro w _ param ⟨constructor, hconstructor, hparam⟩ ⟨hfree, rfl⟩ -
    have hnone := hfree.params constructor hconstructor param hparam
    rw [(produced catalog run param.key.unnamed w).eq_of_hasFactory catalog run hnone,
      (produced catalog run param.key.unnamed (w.entering key)).eq_of_hasFactory catalog run hnone]
    exact ⟨rfl, hfree, rfl⟩

/-- **Without factories, a constructor is resolved in the same way while its type is in progress.** -/
theorem resolve_entering (hfree : FactoryFree catalog target w.fixture) (key : Key)
    (signature : Option Signature) (explicit : Arguments) :
    (w.entering key).resolve catalog run target signature explicit =
      ((w.resolve catalog run target signature explicit).1,
        (w.resolve catalog run target signature explicit).2.entering key) := by
  rcases hselect : w.fixture.select target (w.fixture.visible (catalog.constructors target)) signature
    explicit with ⟨choice, events⟩
  have hsame : (w.entering key).fixture.select target
      (w.fixture.visible (catalog.constructors target)) signature explicit =
        w.fixture.select target (w.fixture.visible (catalog.constructors target)) signature explicit := by
    apply Fixture.select_congr
    exact fun param => rfl
  have hdeclared : ∀ constructor position, choice = .ok (constructor, position) →
      ∀ param ∈ constructor.params, catalog.Declares target param := by
    rintro constructor position rfl param hparam
    exact ⟨constructor, Fixture.mem_of_select hselect, hparam⟩
  obtain ⟨hanswer, -, hworlds⟩ := (corresponds_entering catalog run target key).resolve hdeclared
    hselect (hsame.trans hselect) ⟨hfree, rfl⟩
  exact Prod.ext hanswer.symm hworlds

/-! ## Creating -/

/-- A factory is asked in the same way, whatever signature or arguments are passed. -/
theorem create_of_hasFactory (hfactory : w.fixture.hasFactory (.of target) = true)
    (signature signature' : Option Signature) (arguments arguments' : Option Arguments) :
    w.create catalog run target signature arguments =
      w.create catalog run target signature' arguments' := by
  have hentered (entered : World E) (henter : w.enter (.of target) = .ok entered) :
      entered.createEntered catalog run target (.of target) signature arguments =
        entered.createEntered catalog run target (.of target) signature' arguments' := by
    obtain ⟨-, rfl⟩ := enter_eq_ok_iff.mp henter
    unfold createEntered
    dsimp only
    split
    · rfl
    next hfilter =>
      have hnone : w.fixture.hasFactory (.of target) = false := hasFactory_of_filter hfilter
      rw [hfactory] at hnone
      cases hnone
  unfold create
  dsimp only
  split
  · rfl
  next entered henter => rw [hentered entered henter]

/-- Without explicit arguments the stored ones are passed. -/
theorem create_stored (catalog : Catalog E) (run : Runner E) (target : TypeId) (w : World E)
    (signature : Option Signature) :
    w.create catalog run target signature none =
      w.create catalog run target signature (some (w.storedFor target)) := by
  have hentered (entered : World E) (henter : w.enter (.of target) = .ok entered) :
      entered.createEntered catalog run target (.of target) signature none =
        entered.createEntered catalog run target (.of target) signature
          (some (w.storedFor target)) := by
    obtain ⟨-, rfl⟩ := enter_eq_ok_iff.mp henter
    rfl
  unfold create
  dsimp only
  split
  · rfl
  next entered henter => rw [hentered entered henter]

/-- **Without factories, creating a type is resolving one of its constructors**, and then its recipe is
fixed. -/
theorem create_eq_resolve (hfree : FactoryFree catalog target w.fixture)
    (hidle : Key.of target ∉ w.fixture.inProgress) (signature : Option Signature)
    (explicit : Arguments) :
    w.create catalog run target signature (some explicit) =
      match w.resolve catalog run target signature explicit with
      | (.ok (_, datum), after) =>
        (.ok datum, after.mapFixture fun f => (f.freeze (.of target)).built)
      | (.error e, after) => (.error e, after) := by
  have henter : w.enter (.of target) = .ok (w.entering (.of target)) :=
    enter_eq_ok_iff.mpr ⟨hidle, rfl⟩
  have hnone : ((w.entering (.of target)).fixture.recipes.find? (.of target)).filter
      Recipe.hasFactory = none := by
    have hown : (w.fixture.recipes.find? (.of target)).any Recipe.hasFactory = false := hfree.own
    change (w.fixture.recipes.find? (.of target)).filter Recipe.hasFactory = none
    cases hrecipe : w.fixture.recipes.find? (.of target) with
    | none => rfl
    | some recipe => simpa [hrecipe, Option.filter] using hown
  simp only [create, henter, createEntered, hnone, Option.some_or, Option.getD_some,
    resolve_entering hfree]
  rcases w.resolve catalog run target signature explicit with ⟨e | ⟨construction, datum⟩, after⟩ <;>
    simp only [leave_entering]

theorem createdAs_resolve (hfree : FactoryFree catalog target w.fixture)
    (hidle : Key.of target ∉ w.fixture.inProgress) (signature : Option Signature)
    (explicit : Arguments) :
    CreatedAs target (w.resolve catalog run target signature explicit)
      (w.create catalog run target signature (some explicit)) := by
  rw [create_eq_resolve hfree hidle]
  rcases w.resolve catalog run target signature explicit with ⟨e | ⟨construction, datum⟩, after⟩
  · exact .failed
  · exact .built (sealed_created target after)

/-! ## Selecting -/

/-- **The winner is found by its signature, too**, if no other candidate has its parameter types. While it
was looked for, other events were reported; factories that look at these could tell the difference. -/
theorem resolve_signature {explicit : Arguments} {constructor : Constructor E} {position : Nat}
    (hrun : FactoryFree catalog target w.fixture ∨ Blind run)
    (hgreedy : w.fixture.selectGreedy target (w.fixture.visible (catalog.constructors target))
      explicit = .ok (constructor, position))
    (hunique : ∀ (j : Nat) (other : Constructor E),
      (w.fixture.visible (catalog.constructors target))[j]? = some other →
        other.paramTypes = constructor.paramTypes → j = position) :
    Agree Silent (w.resolve catalog run target none explicit)
      (w.resolve catalog run target (some constructor.signature) explicit) := by
  have hcandidate := (Fixture.selectGreedy_eq_ok_iff.mp hgreedy).1
  have hexact : Fixture.selectExact target (w.fixture.visible (catalog.constructors target))
      constructor.signature = .ok (constructor, position) :=
    Fixture.selectExact_eq_ok_iff.mpr ((Fixture.onlyFit_signature_iff hcandidate).mpr hunique)
  -- Factories that are not started may be replaced by some that look at nothing.
  have hblind (blind : Runner E) (hblind : Blind blind) :
      Agree Silent (w.resolve catalog blind target none explicit)
        (w.resolve catalog blind target (some constructor.signature) explicit) :=
    (Silent.corresponds catalog hblind).resolve (fun _ _ _ _ _ => trivial)
      (Prod.ext hgreedy rfl) (Prod.ext hexact rfl) ⟨_, rfl⟩
  rcases hrun with hfree | hrun
  · have hidle (signature : Option Signature) : w.resolve catalog run target signature explicit =
        w.resolve catalog idle target signature explicit :=
      resolve_congr fun _ _ hstarts => absurd hstarts hfree.not_resolveStarts
    rw [hidle none, hidle (some constructor.signature)]
    exact hblind idle blind_idle
  · exact hblind run hrun

end

/-- **The ways to ask for an instance agree**, in every world in which the type is not in progress. If it
has a factory, all ways of creating it have the same outcome. Without factories, nothing that is passed is
the same as the stored arguments, and creating comes to what resolving comes to, for the same arguments
and with or without a signature. And a constructor that wins without a signature is resolved in the same way
by its own one, if no other candidate has its parameter types. -/
theorem entry_points_agree (catalog : Catalog E) (run : Runner E) (target : TypeId) (w : World E)
    (hidle : Key.of target ∉ w.fixture.inProgress) :
    (w.fixture.hasFactory (.of target) = true →
      ∀ signature signature' arguments arguments',
        w.create catalog run target signature arguments =
          w.create catalog run target signature' arguments') ∧
    (FactoryFree catalog target w.fixture →
      w.create catalog run target none none =
          w.create catalog run target none (some (w.storedFor target)) ∧
        (∀ explicit, CreatedAs target (w.resolve catalog run target none explicit)
          (w.create catalog run target none (some explicit))) ∧
        ∀ signature, CreatedAs target
          (w.resolve catalog run target (some signature) (w.storedFor target))
          (w.create catalog run target (some signature) none)) ∧
    (FactoryFree catalog target w.fixture ∨ Blind run →
      ∀ (explicit : Arguments) (constructor : Constructor E) (position : Nat),
        w.fixture.selectGreedy target (w.fixture.visible (catalog.constructors target)) explicit =
          .ok (constructor, position) →
        (∀ (j : Nat) (other : Constructor E),
          (w.fixture.visible (catalog.constructors target))[j]? = some other →
            other.paramTypes = constructor.paramTypes → j = position) →
        Agree Silent (w.resolve catalog run target none explicit)
          (w.resolve catalog run target (some constructor.signature) explicit)) := by
  refine ⟨create_of_hasFactory, fun hfree => ⟨create_stored catalog run target w none, ?_, ?_⟩,
    fun hrun explicit constructor position => resolve_signature hrun⟩
  · exact createdAs_resolve hfree hidle none
  · intro signature
    rw [create_stored catalog run target w (some signature)]
    exact createdAs_resolve hfree hidle (some signature) (w.storedFor target)

/-- A report that is made to the stored size, or without one if no arguments are passed on purpose; and a
gadget that is what its factory makes, whatever else is asked for. -/
theorem entry_points_agree_report :
    let size : TypeId := ⟨"Size"⟩
    let report : TypeId := ⟨"Report"⟩
    let gadget : TypeId := ⟨"Gadget"⟩
    let empty : Constructor Unit := .ofFunction { name := "empty" } fun _ => .ok (.int 0)
    let sized : Constructor Unit := .ofFunction { name := "sized", params := [.value "size" size] }
      fun intake => intake.value size 0
    let catalog : Catalog Unit :=
      ⟨id, fun _ => .null, fun type => if type = report then [empty, sized] else []⟩
    let run : Runner Unit := fun _ w => (.ok (.int 7), w)
    let start : World Unit := { surroundings := () }
    let three : Arguments := ⟨[.value size (.int 3)]⟩
    let w := start.performAll catalog run [.addType gadget .singleton ⟨0⟩, .setArguments report three]
    w.create catalog run gadget none none =
        w.create catalog run gadget (some sized.signature) (some three) ∧
      (w.create catalog run gadget (some sized.signature) (some three)).1 = .ok (.int 7) ∧
      w.create catalog run report none none = w.create catalog run report none (some three) ∧
      CreatedAs report (w.resolve catalog run report none three)
        (w.create catalog run report none (some three)) ∧
      (w.create catalog run report none none).1 = .ok (.int 3) ∧
      CreatedAs report (w.resolve catalog run report none {})
        (w.create catalog run report none (some {})) ∧
      (w.create catalog run report none (some {})).1 = .ok (.int 0) ∧
      Agree Silent (w.resolve catalog run report none three)
        (w.resolve catalog run report (some sized.signature) three) := by
  intro size report gadget empty sized catalog run start three w
  have hfree : FactoryFree catalog report w.fixture := by
    refine ⟨rfl, fun constructor hconstructor param hparam => ?_⟩
    simp only [catalog, if_true, List.mem_cons, List.not_mem_nil, or_false] at hconstructor
    rcases hconstructor with rfl | rfl
    · cases hparam
    · obtain rfl := List.mem_singleton.mp hparam
      rfl
  have hidle (type : TypeId) : Key.of type ∉ w.fixture.inProgress := List.not_mem_nil
  obtain ⟨hfactory, -, -⟩ := entry_points_agree catalog run gadget w (hidle gadget)
  obtain ⟨-, hcreate, hselect⟩ := entry_points_agree catalog run report w (hidle report)
  obtain ⟨hstored, hpassed, -⟩ := hcreate hfree
  refine ⟨hfactory rfl _ _ _ _, rfl, hstored, hpassed three, rfl, hpassed {}, rfl, ?_⟩
  refine hselect (.inl hfree) three sized 1 rfl ?_
  rintro (_ | _ | j) other hother htypes
  · obtain rfl := Option.some.inj hother
    cases htypes
  · rfl
  · cases hother

end World

end TestDoubles
