import Mathlib.Logic.Relation
import TestDoubles.Proofs.Run.Outcomes

/-!
# Runs

What can happen to a fixture over time. Code outside the library gives one command after the other,
and does what it likes to its own surroundings in between; a command may run factories, which are code
outside the library again and give commands of their own, on the same fixture, before the first
command is answered.

- `Conduct` says what the outside code is held to; by default, to nothing.
- `Catalog.beside` makes room in the surroundings for what the outside code writes down.
- `World.Step` is one command or one change of the surroundings, `World.Steps` a sequence of them.
- `World.Scripted` holds of the runners whose factories take such steps and then answer, nested in
  each other to any depth.
- `World.Starts` holds of the worlds in which a command starts factories.
- `World.Leads` goes from a world to any that comes up after it, also inside a running factory, and
  `World.Reachable` holds of all that come up in runs; `World.AtRest` only of those in which no command
  is being answered.
-/

namespace TestDoubles

/-- Whether the event reports that a fixture is torn down. -/
def Event.isTeardown : Event → Bool
  | .resetting _ _ => true
  | _ => false

/-- Something that code outside the library learns. -/
inductive Note where
  -- A command has been answered.
  | answered (command : Command) (answer : Except Error Reply)
  -- A factory has come to its end.
  | ended (id : FactoryId) (answer : Except Error Datum)

/-- What code outside the library is held to. -/
structure Conduct (E : Type) where
  -- The surroundings in which a run may begin.
  begins : E → Prop := fun _ => True
  -- The commands that it may give, in which surroundings.
  admits : E → Command → Prop := fun _ _ => True
  -- How it may change the surroundings between commands.
  wanders : E → E → Prop := fun _ _ => True
  -- How it may change the surroundings when it learns something.
  notes : Note → E → E → Prop := fun _ _ _ => True

/-- The same, without tearing the fixture down. -/
def Conduct.withoutReset {E : Type} (conduct : Conduct E) : Conduct E :=
  { conduct with admits := fun s command => conduct.admits s command ∧ command ≠ .reset }

variable {E : Type}

/-- The same catalog beside further surroundings, which its constructors leave alone. -/
def Catalog.beside (catalog : Catalog E) (G : Type) : Catalog (E × G) where
  mockOf := catalog.mockOf
  defaultOf := catalog.defaultOf
  constructors type := (catalog.constructors type).map fun constructor =>
    { constructor with
      build := fun intake s =>
        let (answer, surroundings) := constructor.build intake s.1
        (answer, surroundings, s.2) }

theorem Catalog.beside_build {catalog : Catalog E} {G : Type} {target : TypeId}
    {constructor : Constructor (E × G)} (h : constructor ∈ (catalog.beside G).constructors target)
    (intake : Intake) (s : E × G) : (constructor.build intake s).2.2 = s.2 := by
  obtain ⟨original, -, rfl⟩ := List.mem_map.mp h
  rfl

namespace World

/-! ## Steps -/

/-- Nothing happens to the fixture, though objects may be allocated and events reported. -/
structure Passes (w w' : World E) : Prop where
  fixture : w'.fixture = w.fixture
  allocated : w.allocated ≤ w'.allocated
  -- Nothing else reports that the fixture is torn down.
  events : ∃ new, w'.events = w.events ++ new ∧ ∀ event ∈ new, event.isTeardown = false

variable (catalog : Catalog E) (conduct : Conduct E)

/-- One step of code outside the library. -/
inductive Step (run : Runner E) : World E → World E → Prop where
  -- A command is given, and its answer noted.
  | perform {w w' : World E} {command : Command} {answer : Except Error Reply} {s : E}
      (hadmits : conduct.admits w.surroundings command)
      (hperform : w.perform catalog run command = (answer, w'))
      (hnote : conduct.notes (.answered command answer) w'.surroundings s) :
      Step run w (w'.mapSurroundings fun _ => s)
  -- Something happens in the surroundings.
  | outside {w w' : World E} (hpasses : w.Passes w')
      (hwanders : conduct.wanders w.surroundings w'.surroundings) :
      Step run w w'

/-- A sequence of steps. -/
abbrev Steps (run : Runner E) : World E → World E → Prop :=
  Relation.ReflTransGen (Step catalog conduct run)

/-- The factories of a runner do as `body` says, and note their end. -/
def Ends (body : World E → World E → Prop) (run : Runner E) : Prop :=
  ∀ id w, ∃ done s, body w done ∧ conduct.notes (.ended id (run id w).1) done.surroundings s ∧
    (run id w).2 = done.mapSurroundings fun _ => s

/-- The runners whose factories are sequences of steps, which run factories in their turn. -/
inductive Scripted : Runner E → Prop where
  -- Factories that give no commands.
  | idle {run : Runner E} (h : Ends conduct Eq run) : Scripted run
  -- Factories that give commands, with another runner for the factories that these start.
  | nest {inner run : Runner E} (hinner : Scripted inner)
      (h : Ends conduct (Steps catalog conduct inner) run) : Scripted run

/-! ## Where factories start -/

variable (run : Runner E)

/-- A factory starts while `key` is produced. -/
inductive ProduceStarts (key : Key) (w : World E) : FactoryId → World E → Prop where
  | intro {recipe : Recipe} {factory : Factory} {started : World E}
      (hrecipe : w.fixture.recipes.find? key = some recipe) (hfactory : recipe.factory = some factory)
      (henter : w.enter key = .ok started) :
      ProduceStarts key w factory.id started

theorem ProduceStarts.hasFactory {key : Key} {w started : World E} {id : FactoryId}
    (h : ProduceStarts key w id started) : w.fixture.hasFactory key = true := by
  obtain ⟨hrecipe, hfactory, -⟩ := h
  exact hasFactory_of_recipe hrecipe hfactory

/-- A factory starts while parameters are filled. -/
inductive ParamsStart (target : TypeId) (explicit : Arguments) :
    List Param → List Bool → World E → FactoryId → World E → Prop where
  -- It starts for the first parameter.
  | here {param : Param} {params : List Param} {used : List Bool} {w started : World E}
      {id : FactoryId} (hexplicit : explicit.find? param.key.type used = none)
      (hlookup : w.fixture.registry.lookup param.key = none)
      (h : ProduceStarts param.key.unnamed w id started) :
      ParamsStart target explicit (param :: params) used w id started
  -- It starts for a later one.
  | there {param : Param} {params : List Param} {used used' : List Bool} {w w' started : World E}
      {id : FactoryId} {injection : Injection}
      (hfirst : w.resolveArgument catalog run target explicit param used =
        (.ok (injection, used'), w'))
      (h : ParamsStart target explicit params used'
        (w'.emit [.resolvedArgument injection.parameter injection.source]) id started) :
      ParamsStart target explicit (param :: params) used w id started

/-- A factory starts while a constructor is resolved. -/
inductive ResolveStarts (target : TypeId) (signature : Option Signature) (explicit : Arguments)
    (w : World E) : FactoryId → World E → Prop where
  | intro {constructor : Constructor E} {position : Nat} {events : List Event} {id : FactoryId}
      {started : World E}
      (hselect : w.fixture.select target (w.fixture.visible (catalog.constructors target))
        signature explicit = (.ok (constructor, position), events))
      (h : ParamsStart catalog run target explicit constructor.params explicit.noneUsed
        (w.afterSelection events constructor) id started) :
      ResolveStarts target signature explicit w id started

/-- A factory starts while an instance is created. -/
inductive CreateStarts (target : TypeId) (signature : Option Signature)
    (arguments : Option Arguments) (w : World E) : FactoryId → World E → Prop where
  -- It is the factory of the type itself.
  | factory {recipe : Recipe} {factory : Factory} {entered : World E}
      (henter : w.enter (.of target) = .ok entered)
      (hrecipe : w.fixture.recipes.find? (.of target) = some recipe)
      (hfactory : recipe.factory = some factory)
      (hcached : w.cached? (.of target) recipe.sharedAs = none) :
      CreateStarts target signature arguments w factory.id (entered.emit [.fromFactory (.of target)])
  -- It is one for a parameter.
  | resolved {entered started : World E} {id : FactoryId}
      (henter : w.enter (.of target) = .ok entered)
      (hfactory : w.fixture.hasFactory (.of target) = false)
      (h : ResolveStarts catalog run target signature
        ((arguments.or ((w.fixture.recipes.find? (.of target)).bind Recipe.arguments)).getD {})
        entered id started) :
      CreateStarts target signature arguments w id started

/-- A factory starts while a command is answered, in the world `started`. -/
inductive Starts : Command → World E → FactoryId → World E → Prop where
  | create {w started : World E} {id : FactoryId} {type : TypeId} {arguments : Option Arguments}
      (h : CreateStarts catalog run type none arguments w id started) :
      Starts (.create type arguments) w id started
  | createBySignature {w started : World E} {id : FactoryId} {type : TypeId} {signature : Signature}
      (h : CreateStarts catalog run type (some signature) none w id started) :
      Starts (.createBySignature type signature) w id started
  | resolve {w started : World E} {id : FactoryId} {type : TypeId} {signature : Option Signature}
      {explicit : Arguments} (h : ResolveStarts catalog run type signature explicit w id started) :
      Starts (.resolve type signature explicit) w id started

/-! ## Factories start nowhere else

Two runners that agree wherever a command starts factories come to the same with it. So the worlds of
`Starts` are all the worlds in which the command starts a factory. -/

section Congruence

variable {catalog run} {run' : Runner E}

theorem produce_congr {key : Key} {w : World E}
    (h : ∀ id started, ProduceStarts key w id started → run id started = run' id started) :
    w.produce catalog run key = w.produce catalog run' key := by
  unfold produce
  split
  · rfl
  next recipe hrecipe =>
    split
    · rfl
    next factory hfactory =>
      split
      · rfl
      next started henter => rw [h _ _ ⟨hrecipe, hfactory, henter⟩]

theorem provide_congr {target : TypeId} {param : Param} {w : World E}
    (h : w.fixture.registry.lookup param.key = none → ∀ id started,
      ProduceStarts param.key.unnamed w id started → run id started = run' id started) :
    w.provide catalog run target param = w.provide catalog run' target param := by
  unfold provide
  split
  · rfl
  next hlookup => rw [produce_congr (h hlookup)]

theorem resolveArgument_congr {target : TypeId} {explicit : Arguments} {param : Param}
    {used : List Bool} {w : World E}
    (h : explicit.find? param.key.type used = none → w.fixture.registry.lookup param.key = none →
      ∀ id started, ProduceStarts param.key.unnamed w id started →
        run id started = run' id started) :
    w.resolveArgument catalog run target explicit param used =
      w.resolveArgument catalog run' target explicit param used := by
  unfold resolveArgument
  split
  · rfl
  next hexplicit => rw [provide_congr (h hexplicit)]

theorem resolveParams_congr {target : TypeId} {explicit : Arguments} {params : List Param}
    {used : List Bool} {w : World E}
    (h : ∀ id started, ParamsStart catalog run target explicit params used w id started →
      run id started = run' id started) :
    w.resolveParams catalog run target explicit params used =
      w.resolveParams catalog run' target explicit params used := by
  induction params generalizing used w with
  | nil => rfl
  | cons param params ih =>
    have hfirst : w.resolveArgument catalog run target explicit param used =
        w.resolveArgument catalog run' target explicit param used :=
      resolveArgument_congr fun hexplicit hlookup id started hstarts =>
        h id started (.here hexplicit hlookup hstarts)
    unfold resolveParams
    rw [← hfirst]
    split
    · rfl
    next injection used' w' hresolved =>
      dsimp only
      rw [ih fun id started hstarts => h id started (.there hresolved hstarts)]

theorem resolve_congr {target : TypeId} {signature : Option Signature} {explicit : Arguments}
    {w : World E}
    (h : ∀ id started, ResolveStarts catalog run target signature explicit w id started →
      run id started = run' id started) :
    w.resolve catalog run target signature explicit =
      w.resolve catalog run' target signature explicit := by
  unfold resolve
  rcases hselect : w.fixture.select target (w.fixture.visible (catalog.constructors target))
    signature explicit with ⟨e | ⟨constructor, position⟩, events⟩
  · simp only [hselect]
  · have hparams : (w.afterSelection events constructor).resolveParams catalog run target explicit
        constructor.params explicit.noneUsed =
      (w.afterSelection events constructor).resolveParams catalog run' target explicit
        constructor.params explicit.noneUsed :=
      resolveParams_congr fun id started hstarts => h id started ⟨hselect, hstarts⟩
    unfold afterSelection at hparams
    simp only [hselect, resolveArguments, hparams]

theorem createEntered_congr {target : TypeId} {key : Key} {signature : Option Signature}
    {arguments : Option Arguments} {w : World E}
    (hown : ∀ recipe factory, w.fixture.recipes.find? key = some recipe →
      recipe.factory = some factory → w.cached? key recipe.sharedAs = none →
      run factory.id (w.emit [.fromFactory key]) = run' factory.id (w.emit [.fromFactory key]))
    (hparams : w.fixture.hasFactory key = false → ∀ id started,
      ResolveStarts catalog run target signature
        ((arguments.or ((w.fixture.recipes.find? key).bind Recipe.arguments)).getD {}) w id started →
      run id started = run' id started) :
    w.createEntered catalog run target key signature arguments =
      w.createEntered catalog run' target key signature arguments := by
  unfold createEntered
  dsimp only
  split
  next recipe hfilter =>
    obtain ⟨hrecipe, -⟩ := Option.filter_eq_some_iff.mp hfilter
    rw [createFromFactory_eq, createFromFactory_eq]
    split
    · rfl
    next hcached =>
      split
      · rfl
      next factory hfactory =>
        unfold runFactory
        rw [hown recipe factory hrecipe hfactory hcached]
  next hfilter => rw [resolve_congr (hparams (hasFactory_of_filter hfilter))]

theorem create_congr {target : TypeId} {signature : Option Signature}
    {arguments : Option Arguments} {w : World E}
    (h : ∀ id started, CreateStarts catalog run target signature arguments w id started →
      run id started = run' id started) :
    w.create catalog run target signature arguments =
      w.create catalog run' target signature arguments := by
  unfold create
  dsimp only
  split
  · rfl
  next entered henter =>
    obtain ⟨-, hentered⟩ := enter_eq_ok_iff.mp henter
    rw [createEntered_congr]
    · intro recipe factory hrecipe hfactory hcached
      rw [hentered] at hrecipe hcached
      exact h _ _ (.factory henter hrecipe hfactory hcached)
    · intro hfactory id started hstarts
      refine h id started (.resolved henter ?_ ?_)
      · rwa [hentered] at hfactory
      · rw [hentered] at hstarts ⊢
        exact hstarts

/-- **A command depends on the factories only through the worlds in which it starts them.** -/
theorem perform_congr {command : Command} {w : World E}
    (h : ∀ id started, Starts catalog run command w id started →
      run id started = run' id started) :
    w.perform catalog run command = w.perform catalog run' command := by
  cases command with
  | create type arguments =>
    simp only [perform, create_congr fun id started hstarts => h id started (.create hstarts)]
  | createBySignature type signature =>
    simp only [perform,
      create_congr fun id started hstarts => h id started (.createBySignature hstarts)]
  | resolve type signature explicit =>
    simp only [perform, resolve_congr fun id started hstarts => h id started (.resolve hstarts)]
  | _ => rfl

/-- It is enough that the runners agree wherever both start factories. -/
theorem perform_eq_of_agree {command : Command} {w : World E}
    (h : ∀ id started, Starts catalog run command w id started →
      Starts catalog run' command w id started → run id started = run' id started) :
    w.perform catalog run command = w.perform catalog run' command := by
  classical
  -- A third runner agrees with each of the two wherever that one starts factories.
  let both : Runner E := fun id started =>
    if Starts catalog run' command w id started then run' id started else run id started
  have hleft : w.perform catalog run command = w.perform catalog both command := by
    refine perform_congr fun id started hstarts => ?_
    by_cases hstarts' : Starts catalog run' command w id started
    · rw [h id started hstarts hstarts']
      exact (if_pos hstarts').symm
    · exact (if_neg hstarts').symm
  have hright : w.perform catalog run' command = w.perform catalog both command :=
    perform_congr fun id started hstarts => (if_pos hstarts).symm
  exact hleft.trans hright.symm

end Congruence

/-! ## Reachable worlds -/

/-- From a world to one that comes up after it: a step is taken, at whatever depth, or a factory has
just been started. -/
inductive Moves : World E → World E → Prop where
  | step {run : Runner E} {w w' : World E} (hrun : Scripted catalog conduct run)
      (hstep : Step catalog conduct run w w') : Moves w w'
  | starts {run : Runner E} {w started : World E} {command : Command} {id : FactoryId}
      (hrun : Scripted catalog conduct run) (hadmits : conduct.admits w.surroundings command)
      (hstarts : Starts catalog run command w id started) : Moves w started

/-- From a world to any one that comes up after it, also inside factories. -/
abbrev Leads : World E → World E → Prop :=
  Relation.ReflTransGen (Moves catalog conduct)

/-- A new fixture, in surroundings in which a run may begin. -/
structure Fresh (w : World E) : Prop where
  fixture : ∃ options, w.fixture = .new options
  surroundings : conduct.begins w.surroundings

/-- The worlds that come up in runs, before and after commands and inside factories. -/
def Reachable (w : World E) : Prop :=
  ∃ start, Fresh conduct start ∧ Leads catalog conduct start w

/-- The world after some commands, given one after the other. -/
def performAll (commands : List Command) (w : World E) : World E :=
  commands.foldl (fun w command => (w.perform catalog run command).2) w

/-- The worlds that come up outside factories. -/
inductive AtRest : World E → Prop where
  | fresh {w : World E} (h : Fresh conduct w) : AtRest w
  | step {run : Runner E} {w w' : World E} (hrun : Scripted catalog conduct run)
      (hw : AtRest w) (hstep : Step catalog conduct run w w') : AtRest w'

variable {catalog conduct run}

/-- What idle factories fail with. -/
def idleFailure : Error := .constructionFailed ⟨"Product"⟩ .noFactory

/-- Factories that fail at once, and leave everything as it is. -/
def idle : Runner E := fun _ w => (.error idleFailure, w)

/-- Factories that only fail go through a run. -/
theorem scripted_const (catalog : Catalog E) (e : Error) (h : ∀ note s, conduct.notes note s s) :
    Scripted catalog conduct fun _ w => (.error e, w) :=
  .idle fun id w => ⟨w, w.surroundings, rfl, h (.ended id (.error e)) w.surroundings, rfl⟩

theorem scripted_idle (catalog : Catalog E) (h : ∀ note s, conduct.notes note s s) :
    Scripted catalog conduct idle :=
  scripted_const catalog idleFailure h

/-- A command, when nothing is noted of its answer. -/
theorem Step.command {w : World E} (command : Command)
    (hadmits : conduct.admits w.surroundings command)
    (h : ∀ answer s, conduct.notes (.answered command answer) s s) :
    Step catalog conduct run w (w.perform catalog run command).2 :=
  .perform hadmits rfl (h _ _)

theorem Fresh.reachable {w : World E} (h : Fresh conduct w) : Reachable catalog conduct w :=
  ⟨w, h, .refl⟩

theorem Reachable.leads {w w' : World E} (hw : Reachable catalog conduct w)
    (h : Leads catalog conduct w w') : Reachable catalog conduct w' := by
  obtain ⟨start, hfresh, hstart⟩ := hw
  exact ⟨start, hfresh, hstart.trans h⟩

/-- Commands given one after the other, when nothing is noted of their answers. -/
theorem steps_performAll {commands : List Command}
    (hadmits : ∀ command ∈ commands, ∀ s, conduct.admits s command)
    (hnotes : ∀ command answer s, conduct.notes (.answered command answer) s s) (w : World E) :
    Steps catalog conduct run w (w.performAll catalog run commands) := by
  induction commands generalizing w with
  | nil => exact .refl
  | cons command commands ih =>
    obtain ⟨hfirst, hrest⟩ := List.forall_mem_cons.mp hadmits
    refine .head ?_ (ih hrest (w.perform catalog run command).2)
    exact .command command (hfirst w.surroundings) (hnotes command)

/-- Commands lead to reachable worlds, when nothing is noted of their answers. -/
theorem Reachable.performAll (hrun : Scripted catalog conduct run) {commands : List Command}
    (hadmits : ∀ command ∈ commands, ∀ s, conduct.admits s command)
    (hnotes : ∀ command answer s, conduct.notes (.answered command answer) s s) {w : World E}
    (hw : Reachable catalog conduct w) :
    Reachable catalog conduct (w.performAll catalog run commands) := by
  induction commands generalizing w with
  | nil => exact hw
  | cons command commands ih =>
    obtain ⟨hfirst, hrest⟩ := List.forall_mem_cons.mp hadmits
    refine ih hrest (hw.leads (.single (.step hrun ?_)))
    exact .command command (hfirst w.surroundings) (hnotes command)

theorem AtRest.reachable {w : World E} (h : AtRest catalog conduct w) :
    Reachable catalog conduct w := by
  induction h with
  | fresh h => exact h.reachable
  | step hrun _ hstep ih => exact ih.leads (.single (.step hrun hstep))

end World

end TestDoubles
