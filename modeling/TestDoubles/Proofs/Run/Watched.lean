import TestDoubles.Proofs.Run.Kept

/-!
# Watched runs

What a fixture owes to its past can be said only of a past that is written down. Here it is: beside the
surroundings there is a log of everything that code outside the library has had done. A command is
entered when it is answered, with the fixture before it and after it, and a factory when it has come to
its end, so what happens inside a factory is entered before the command that started the factory. The
log is kept by the runs themselves; nobody else can write it.

- `Deed` is what is written down, and `Catalog.watched` and `World.Watched` are the runs that do so;
  `World.Watched.Reachable.reachable` says that they are runs like all others.
- `World.Watched.Observed` is what commands have to keep to if runs are to keep to it.
-/

namespace TestDoubles

variable {E : Type}

/-- Something that has been done. -/
inductive Deed where
  /-- A command has been answered. -/
  | answered (command : Command) (before : Fixture) (answer : Except Error Reply) (after : Fixture)
  /-- A factory has come to its end; if it ran for a parameter, that was a parameter for this key. -/
  | ran (parameter : Option Key) (answer : Except Error Datum)

/-- Whether the fixture has been torn down. -/
def Deed.isReset : Deed → Bool
  | .answered .reset _ _ _ => true
  | _ => false

/-- The same catalog beside a log, which its constructors leave alone. -/
def Catalog.watched (catalog : Catalog E) : Catalog (E × List Deed) where
  mockOf := catalog.mockOf
  defaultOf := catalog.defaultOf
  constructors type := (catalog.constructors type).map fun constructor =>
    { constructor with
      build := fun intake s =>
        let (answer, surroundings) := constructor.build intake s.1
        (answer, surroundings, s.2) }

theorem Catalog.watched_build {catalog : Catalog E} {target : TypeId}
    {constructor : Constructor (E × List Deed)}
    (h : constructor ∈ catalog.watched.constructors target) (intake : Intake)
    (s : E × List Deed) : (constructor.build intake s).2.2 = s.2 :=
  @Catalog.beside_build E catalog (List Deed) target constructor h intake s

namespace World

/-! ## What factories run for -/

/-- The type that is being created, as the last event tells, if it is its factory that starts. -/
def creates? (w : World E) : Option Key :=
  match w.events.getLast? with
  | some (.fromFactory key) => some key
  | _ => none

/-- The key for a parameter of which a factory starts. -/
def supplies? (w : World E) : Option Key :=
  match w.creates? with
  | some _ => none
  | none => w.fixture.inProgress.getLast?

section Supplying

variable {catalog : Catalog E} {run : Runner E} {w started : World E} {id : FactoryId}

theorem creates?_emit_concat (w : World E) (events : List Event) (event : Event) :
    (w.emit (events ++ [event])).creates? =
      match event with
      | .fromFactory key => some key
      | _ => none := by
  have hlast : (w.emit (events ++ [event])).events.getLast? = some event := by
    rw [emit, ← List.append_assoc]
    exact List.getLast?_concat
  unfold creates?
  rw [hlast]
  cases event <;> rfl

/-- A factory that starts for a parameter is not announced; by induction on the parameters before. -/
theorem ParamsStart.creates? {target : TypeId} {explicit : Arguments} {params : List Param}
    {used : List Bool} (h : ParamsStart catalog run target explicit params used w id started)
    (hw : w.creates? = none) : started.creates? = none := by
  induction h with
  | here _ _ hstarts =>
    obtain ⟨-, -, henter⟩ := hstarts
    obtain ⟨-, rfl⟩ := enter_eq_ok_iff.mp henter
    exact hw
  | there _ _ ih => exact ih (creates?_emit_concat _ [] _)

/-- A factory that starts while a constructor is resolved starts for a parameter. -/
theorem ResolveStarts.supplies? {target : TypeId} {signature : Option Signature}
    {explicit : Arguments}
    (h : ResolveStarts catalog run target signature explicit w id started) :
    started.supplies? = started.fixture.inProgress.getLast? := by
  obtain ⟨_, h⟩ := h
  have hnone := h.creates? (creates?_emit_concat _ [] _)
  unfold World.supplies?
  rw [hnone]

/-- A factory that starts for its own type does not. -/
theorem supplies?_fromFactory (w : World E) (key : Key) :
    (w.emit [.fromFactory key]).supplies? = none := by
  have hcreates : (w.emit [.fromFactory key]).creates? = some key := creates?_emit_concat w [] _
  unfold World.supplies?
  rw [hcreates]

end Supplying

/-! ## The log -/

/-- Everything that has been done so far, in order. -/
def deeds (w : World (E × List Deed)) : List Deed :=
  w.surroundings.2

/-- Write down a deed. -/
def note (deed : Deed) (w : World (E × List Deed)) : World (E × List Deed) :=
  w.mapSurroundings fun s => (s.1, s.2 ++ [deed])

@[simp] theorem deeds_note (deed : Deed) (w : World (E × List Deed)) :
    (w.note deed).deeds = w.deeds ++ [deed] :=
  rfl

@[simp] theorem fixture_note (deed : Deed) (w : World (E × List Deed)) :
    (w.note deed).fixture = w.fixture :=
  rfl

namespace Watched

/-! ## Runs that keep the log -/

/-- Nothing happens to the fixture, and nothing is written down. -/
def Outside (w w' : World (E × List Deed)) : Prop :=
  w.Passes w' ∧ w'.deeds = w.deeds

theorem Outside.refl (w : World (E × List Deed)) : Outside w w :=
  ⟨⟨rfl, Nat.le_refl _, [], (List.append_nil _).symm, by simp⟩, rfl⟩

/-- A factory that was started in `started` has done as `body` says, and its end is written down. -/
def Ended (body : World (E × List Deed) → World (E × List Deed) → Prop)
    (started : World (E × List Deed)) (result : Except Error Datum × World (E × List Deed)) : Prop :=
  ∃ done, body started done ∧ result.2 = done.note (.ran started.supplies? result.1)

theorem Ended.exists_done {body : World (E × List Deed) → World (E × List Deed) → Prop}
    {started ended : World (E × List Deed)} {answer : Except Error Datum}
    (h : Ended body started (answer, ended)) :
    ∃ done, body started done ∧ ended = done.note (.ran started.supplies? answer) :=
  h

/-- All factories of a runner do as `body` says. -/
def Ends (body : World (E × List Deed) → World (E × List Deed) → Prop)
    (run : Runner (E × List Deed)) : Prop :=
  ∀ id w, Ended body w (run id w)

section Runs

variable (catalog : Catalog E)

/-- One step of code outside the library. -/
inductive Step (run : Runner (E × List Deed)) :
    World (E × List Deed) → World (E × List Deed) → Prop where
  -- A command is given, and written down when it is answered.
  | perform {w w' : World (E × List Deed)} {command : Command} {answer : Except Error Reply}
      (hperform : w.perform catalog.watched run command = (answer, w')) :
      Step run w (w'.note (.answered command w.fixture answer w'.fixture))
  -- Something happens in the surroundings.
  | outside {w w' : World (E × List Deed)} (h : Outside w w') : Step run w w'

/-- A sequence of steps. -/
abbrev Steps (run : Runner (E × List Deed)) :
    World (E × List Deed) → World (E × List Deed) → Prop :=
  Relation.ReflTransGen (Step catalog run)

/-- The runners whose factories are sequences of steps, which run factories in their turn. -/
inductive Scripted : Runner (E × List Deed) → Prop where
  -- Factories that give no commands.
  | idle {run : Runner (E × List Deed)} (h : Ends Outside run) : Scripted run
  -- Factories that give commands, with another runner for the factories that these start.
  | nest {inner run : Runner (E × List Deed)} (hinner : Scripted inner)
      (h : Ends (Steps catalog inner) run) : Scripted run

/-- From a world to one that comes up after it: a step is taken, at whatever depth, or a factory has
just been started. -/
inductive Moves : World (E × List Deed) → World (E × List Deed) → Prop where
  | step {run : Runner (E × List Deed)} {w w' : World (E × List Deed)} (hrun : Scripted catalog run)
      (hstep : Step catalog run w w') : Moves w w'
  | starts {run : Runner (E × List Deed)} {w started : World (E × List Deed)} {command : Command}
      {id : FactoryId} (hrun : Scripted catalog run)
      (hstarts : Starts catalog.watched run command w id started) : Moves w started

/-- From a world to any one that comes up after it, also inside factories. -/
abbrev Leads : World (E × List Deed) → World (E × List Deed) → Prop :=
  Relation.ReflTransGen (Moves catalog)

/-- A new fixture, and nothing has been done yet. -/
structure Fresh (w : World (E × List Deed)) : Prop where
  fixture : ∃ options, w.fixture = .new options
  deeds : w.deeds = []

/-- The worlds that come up in watched runs, before and after commands and inside factories. -/
def Reachable (w : World (E × List Deed)) : Prop :=
  ∃ start, Fresh start ∧ Leads catalog start w

variable {catalog} {run : Runner (E × List Deed)} {w w' : World (E × List Deed)}

theorem Fresh.reachable (h : Fresh w) : Reachable catalog w :=
  ⟨w, h, .refl⟩

theorem Reachable.leads (hw : Reachable catalog w) (h : Leads catalog w w') :
    Reachable catalog w' := by
  obtain ⟨start, hfresh, hstart⟩ := hw
  exact ⟨start, hfresh, hstart.trans h⟩

/-! ### Watched runs are runs -/

theorem Step.step (h : Step catalog run w w') : World.Step catalog.watched {} run w w' := by
  cases h with
  | perform hperform => exact .perform trivial hperform trivial
  | outside h => exact .outside h.1 trivial

/-- By induction on how deep factories are nested. -/
theorem Scripted.scripted (h : Scripted catalog run) : World.Scripted catalog.watched {} run := by
  induction h with
  | idle h =>
    refine .nest (World.scripted_idle catalog.watched fun _ _ => trivial) fun id w => ?_
    obtain ⟨done, hdone, heq⟩ := h id w
    exact ⟨done, _, .single (.outside hdone.1 trivial), trivial, heq⟩
  | nest _ h ih =>
    refine .nest ih fun factory w => ?_
    obtain ⟨done, hdone, heq⟩ := h factory w
    exact ⟨done, _, hdone.lift id fun _ _ => Step.step, trivial, heq⟩

theorem Leads.leads (h : Leads catalog w w') : World.Leads catalog.watched {} w w' := by
  refine h.lift id fun _ _ hmove => ?_
  cases hmove with
  | step hrun hstep => exact .step hrun.scripted hstep.step
  | starts hrun hstarts => exact .starts hrun.scripted trivial hstarts

/-- **Watched runs are runs like all others.** -/
theorem Reachable.reachable (hw : Reachable catalog w) :
    World.Reachable catalog.watched {} w := by
  obtain ⟨start, hfresh, hleads⟩ := hw
  exact ⟨start, ⟨hfresh.fixture, trivial⟩, Leads.leads hleads⟩

end Runs

/-! ## Commands given one after the other -/

section Scripts

variable (catalog : Catalog E) (run : Runner (E × List Deed))

/-- The world in which a command has been answered and written down. -/
def after (w : World (E × List Deed)) (command : Command) : World (E × List Deed) :=
  (w.perform catalog.watched run command).2.note (.answered command w.fixture
    (w.perform catalog.watched run command).1 (w.perform catalog.watched run command).2.fixture)

/-- Factories that fail at once. -/
def idle : Runner (E × List Deed) := fun _ w =>
  (.error idleFailure, w.note (.ran w.supplies? (.error idleFailure)))

/-- Factories that give a list of commands each, whatever the answers are, and make a value. -/
def obeying (commands : FactoryId → List Command) (datum : Datum) : Runner (E × List Deed) :=
  fun id w =>
    (.ok datum, ((commands id).foldl (after catalog run) w).note (.ran w.supplies? (.ok datum)))

variable {catalog run}

theorem steps_after (commands : List Command) (w : World (E × List Deed)) :
    Steps catalog run w (commands.foldl (after catalog run) w) := by
  induction commands generalizing w with
  | nil => exact .refl
  | cons command commands ih => exact .head (.perform rfl) (ih (after catalog run w command))

theorem scripted_idle (catalog : Catalog E) : Scripted catalog idle :=
  .idle fun _ w => ⟨w, .refl w, rfl⟩

theorem Scripted.obeying (hrun : Scripted catalog run) (commands : FactoryId → List Command)
    (datum : Datum) : Scripted catalog (obeying catalog run commands datum) :=
  .nest hrun fun id w => ⟨_, steps_after (commands id) w, rfl⟩

theorem fixture_after (w : World (E × List Deed)) (command : Command) :
    (after catalog run w command).fixture = (w.perform catalog.watched run command).2.fixture :=
  rfl

theorem deeds_after (w : World (E × List Deed)) (command : Command) :
    (after catalog run w command).deeds = (w.perform catalog.watched run command).2.deeds ++
      [.answered command w.fixture (w.perform catalog.watched run command).1
        (after catalog run w command).fixture] :=
  rfl

/-- A command leads to the world in which it is written down. -/
theorem leads_after (hrun : Scripted catalog run) (w : World (E × List Deed)) (command : Command) :
    Leads catalog w (after catalog run w command) :=
  .single (.step hrun (.perform rfl))

theorem Reachable.after {w : World (E × List Deed)} (hw : Reachable catalog w)
    (hrun : Scripted catalog run) (command : Command) :
    Reachable catalog (after catalog run w command) :=
  hw.leads (leads_after hrun w command)

end Scripts

/-! ## From commands to runs -/

/-- A relation that commands keep to whenever the factories that they run do. -/
structure Observed (catalog : Catalog E)
    (R : World (E × List Deed) → World (E × List Deed) → Prop) : Prop where
  trans {w₁ w₂ w₃ : World (E × List Deed)} : R w₁ w₂ → R w₂ w₃ → R w₁ w₃
  -- Something happens in the surroundings.
  outside {w w' : World (E × List Deed)} : Outside w w' → R w w'
  -- A command has been answered.
  answered {run : Runner (E × List Deed)} {w w' : World (E × List Deed)} {command : Command}
      {answer : Except Error Reply} : Ends R run →
    w.perform catalog.watched run command = (answer, w') →
    R w (w'.note (.answered command w.fixture answer w'.fixture))
  -- A factory has been started.
  starts {run : Runner (E × List Deed)} {w started : World (E × List Deed)} {command : Command}
      {id : FactoryId} : Ends R run →
    Starts catalog.watched run command w id started → R w started

namespace Observed

variable {catalog : Catalog E} {R : World (E × List Deed) → World (E × List Deed) → Prop}
  {run : Runner (E × List Deed)} {w w' : World (E × List Deed)}

theorem steps_of_ends (hobserved : Observed catalog R) (hends : Ends R run)
    (h : Steps catalog run w w') : R w w' := by
  induction h with
  | refl => exact hobserved.outside (.refl w)
  | tail _ hstep ih =>
    refine hobserved.trans ih ?_
    cases hstep with
    | perform hperform => exact hobserved.answered hends hperform
    | outside h => exact hobserved.outside h

/-- **Factories keep to the relation**; by induction on how deep they are nested. -/
theorem ends (hobserved : Observed catalog R) (hrun : Scripted catalog run) : Ends R run := by
  induction hrun with
  | idle h =>
    intro id w
    obtain ⟨done, hdone, heq⟩ := h id w
    exact ⟨done, hobserved.outside hdone, heq⟩
  | nest _ h ih =>
    intro id w
    obtain ⟨done, hdone, heq⟩ := h id w
    exact ⟨done, hobserved.steps_of_ends ih hdone, heq⟩

/-- **Whatever comes up later, the relation leads there.** -/
theorem leads (hobserved : Observed catalog R) (h : Leads catalog w w') : R w w' := by
  induction h with
  | refl => exact hobserved.outside (.refl w)
  | tail _ hmove ih =>
    refine hobserved.trans ih ?_
    cases hmove with
    | step hrun hstep => exact hobserved.steps_of_ends (hobserved.ends hrun) (.single hstep)
    | starts hrun hstarts => exact hobserved.starts (hobserved.ends hrun) hstarts

end Observed

end Watched

end World

end TestDoubles
