import TestDoubles.Proofs.Filling.HandedOut
import TestDoubles.Proofs.Registry.Values
import TestDoubles.Proofs.Run.Recipes

/-!
# Values, as noted

The value that can be read for a type is the one that has been registered last under its key. To say
so, a run has to remember what has been registered, and it is enough that code outside the library
writes down what it learns anyway: the answers to its commands and the ends of its factories. A command
that registers something tells what; the product of a factory is registered if the factory is one for a
singleton, whether the type was created or a parameter of it filled.

- `Conduct.noting` lets everything be written down, in the order in which it becomes known.
- `Note.registered?` says what a note tells of the registrations for a type.
- `World.Told` compares the values of two worlds along the notes in between, and
  `World.Reachable.recounts` reads the value of a world off the notes.
-/

namespace TestDoubles

variable {E : Type}

/-! ## Notes -/

/-- What a factory is registered for. -/
structure Role where
  /-- The type of its products. -/
  type : TypeId
  /-- How long they are kept. -/
  lifetime : Lifetime
deriving DecidableEq

/-- Everything that becomes known is written down. A fixture takes over the factories that it is given,
so each has one role, in which it is registered; nothing else is demanded. -/
def Conduct.noting (role : FactoryId → Role) : Conduct (E × List Note) where
  begins s := s.2 = []
  admits _ command := ∀ type lifetime id,
    command = .addType type lifetime id → role id = ⟨type, lifetime⟩
  wanders s s' := s'.2 = s.2
  notes note s s' := s'.2 = s.2 ++ [note]

namespace Note

/-- What has been registered under the key of a type, if the note tells that something has: a value,
or something that is none. Tearing the fixture down leaves none either. -/
def registered? (role : FactoryId → Role) (type : TypeId) : Note → Option (Option Datum)
  | .answered .reset (.ok _) => some none
  | .answered (.useValue other datum) (.ok _) => if other = type then some (some datum) else none
  | .answered command (.ok _) => if command.registers? = some (.of type) then some none else none
  | .ended id (.ok datum) => if role id = ⟨type, .singleton⟩ then some (some datum) else none
  | _ => none

/-- The value that is registered for a type after something has been noted. -/
def valueAfter (role : FactoryId → Role) (type : TypeId) (value : Option Datum) (note : Note) :
    Option Datum :=
  (note.registered? role type).getD value

variable {role : FactoryId → Role} {type : TypeId} {command : Command}

theorem registered?_of_error {e : Error} :
    (Note.answered command (.error e)).registered? role type = none := by
  cases command <;> rfl

/-- A command under whose key nothing is registered leaves values alone. -/
theorem registered?_of_registers? (hreset : command ≠ .reset)
    (h : command.registers? = none) (answer : Except Error Reply) :
    (Note.answered command answer).registered? role type = none := by
  cases answer with
  | error e => exact registered?_of_error
  | ok reply =>
    cases command with
    | reset => exact absurd rfl hreset
    | useValue other datum => cases h
    | _ => simp only [registered?, h, reduceCtorEq, if_false]

/-- Notes that tell of no registration leave the value as it is. -/
theorem foldl_valueAfter_of_quiet {notes : List Note} (value : Option Datum)
    (h : ∀ note ∈ notes, note.registered? role type = none) :
    notes.foldl (valueAfter role type) value = value := by
  induction notes with
  | nil => rfl
  | cons note notes ih =>
    obtain ⟨hfirst, hrest⟩ := List.forall_mem_cons.mp h
    rw [List.foldl_cons, valueAfter, hfirst]
    exact ih hrest

end Note

/-- **What an operation does to the value of a type** is what the answer to its command tells. -/
theorem Command.Operates.held?_eq {mockOf : TypeId → TypeId} {command : Command} {r : Registry}
    {next allocated : Nat} {change : Registry × List Event}
    (h : command.Operates mockOf r next allocated change) (hr : r.Indexed)
    (role : FactoryId → Role) (type : TypeId) (reply : Reply) :
    change.1.held? type =
      (Note.answered command (.ok reply)).valueAfter role type (r.held? type) := by
  cases h with
  | getMock capability name => exact Registry.held?_getOrCreateMock mockOf hr
  | getObject capability => exact Registry.held?_getOrCreateMock mockOf hr
  | addCustomMock capability name =>
    refine (Registry.held?_addCustomMock mockOf hr).trans ?_
    simp only [Note.valueAfter, Note.registered?, Command.registers?, Option.some.injEq]
    split <;> rfl
  | useInstance capability ref =>
    refine (Registry.held?_insert mockOf hr (.ofReal capability ref)).trans ?_
    simp only [Note.valueAfter, Note.registered?, Command.registers?, Option.some.injEq]
    rw [show (Entry.ofReal capability ref).key = .of capability from rfl]
    split <;> rfl
  | useValue other datum =>
    refine (Registry.held?_insertValue mockOf hr other datum).trans ?_
    simp only [Note.valueAfter, Note.registered?]
    split <;> rfl
  | combine capability other => exact Registry.held?_combine mockOf hr

/-! ## Roles -/

/-- The factory of a recipe makes what the recipe is for, its role is that of the recipe, and the
products of a singleton are read back as what they are. -/
def Recipe.Plays (role : FactoryId → Role) (key : Key) (recipe : Recipe) : Prop :=
  ∀ factory, recipe.factory = some factory → key = .of factory.product ∧
    role factory.id = ⟨factory.product, recipe.lifetime⟩ ∧
    (recipe.lifetime = .singleton → recipe.share = some factory.product)

/-- Recipes are written with factories in their roles. -/
theorem Recipe.Plays.rewrites {role : FactoryId → Role} {command : Command} {key : Key}
    {recipe changed : Recipe} (h : recipe.Plays role key)
    (hrewrites : command.Rewrites key recipe changed)
    (hadmits : ∀ type lifetime id,
      command = .addType type lifetime id → role id = ⟨type, lifetime⟩) :
    changed.Plays role key := by
  cases hrewrites with
  | addType type lifetime id _ =>
    intro factory hfactory
    obtain rfl := Option.some.inj hfactory
    exact ⟨rfl, hadmits type lifetime id rfl, fun hlifetime => if_pos hlifetime⟩
  | setArguments type arguments _ => exact h

namespace World

/-- Everything that has been noted so far, in order. -/
def notes (w : World (E × List Note)) : List Note :=
  w.surroundings.2

/-- The registry is indexed, and all factories are registered in their roles. -/
structure Orderly (role : FactoryId → Role) (w : World E) : Prop where
  indexed : w.fixture.registry.Indexed
  plays : Recipes (fun key recipe => recipe.Plays role key) w

namespace Orderly

variable {role : FactoryId → Role} {w w' : World E}

theorem of_eq (h : Orderly role w) (hregistry : w'.fixture.registry = w.fixture.registry)
    (hrecipes : w'.fixture.recipes = w.fixture.recipes) : Orderly role w' where
  indexed := hregistry ▸ h.indexed
  plays := h.plays.of_eq hrecipes

/-- An operation on the registry. -/
theorem of_indexed (h : Orderly role w) (hindexed : w'.fixture.registry.Indexed)
    (hrecipes : w'.fixture.recipes = w.fixture.recipes) : Orderly role w' where
  indexed := hindexed
  plays := h.plays.of_eq hrecipes

/-- A recipe is written. -/
theorem insertRecipe (h : Orderly role w) {key : Key} {recipe : Recipe}
    (hplays : recipe.Plays role key) :
    Orderly role (w.mapFixture fun f => { f with recipes := f.recipes.insert key recipe }) where
  indexed := h.indexed
  plays := h.plays.insert hplays rfl

theorem freeze (h : Orderly role w) (key : Key) :
    Orderly role (w.mapFixture (Fixture.freeze · key)) where
  indexed := by
    rw [mapFixture, Fixture.registry_freeze]
    exact h.indexed
  plays := h.plays.freeze (fun hplays => hplays) key

/-- A recipe that is missing has no factory. -/
theorem plays_getD (h : Orderly role w) (key : Key) :
    ((w.fixture.recipes.find? key).getD { target := key }).Plays role key :=
  h.plays.getD (fun _ _ hfactory => nomatch hfactory) key

/-- The factory that is called is called in its role. -/
theorem of_called {catalog : Catalog E} {key : Key} {recipe : Recipe} {factory : Factory}
    (h : Orderly role w) (hcalled : Called catalog key recipe factory w w') :
    key = .of factory.product ∧ role factory.id = ⟨factory.product, recipe.lifetime⟩ ∧
      (recipe.lifetime = .singleton → recipe.share = some factory.product) :=
  h.plays key recipe hcalled.find_recipe factory hcalled.has_factory

end Orderly

/-! ## The value along the notes -/

/-- The value that is registered for the type in `w'` is the one of `w`, as the notes in between have
changed it. -/
def Told (role : FactoryId → Role) (type : TypeId) (w w' : World (E × List Note)) : Prop :=
  ∃ new, w'.notes = w.notes ++ new ∧ (Orderly role w → Orderly role w' ∧
    w'.fixture.registry.held? type =
      new.foldl (Note.valueAfter role type) (w.fixture.registry.held? type))

/-- The value that is registered for the type is the one that all notes together tell. -/
structure Recounts (role : FactoryId → Role) (type : TypeId) (w : World (E × List Note)) : Prop where
  orderly : Orderly role w
  held?_eq : w.fixture.registry.held? type = w.notes.foldl (Note.valueAfter role type) none

namespace Told

variable {role : FactoryId → Role} {type : TypeId} {w w' w'' : World (E × List Note)}
  {catalog : Catalog E}

/-- Nothing is noted, and nothing happens to the value. -/
theorem of_held? (hnotes : w'.notes = w.notes) (horderly : Orderly role w → Orderly role w')
    (hheld : Orderly role w →
      w'.fixture.registry.held? type = w.fixture.registry.held? type) : Told role type w w' :=
  ⟨[], by rw [hnotes, List.append_nil], fun h => ⟨horderly h, hheld h⟩⟩

theorem of_eq (hnotes : w'.notes = w.notes) (hregistry : w'.fixture.registry = w.fixture.registry)
    (hrecipes : w'.fixture.recipes = w.fixture.recipes) : Told role type w w' :=
  .of_held? hnotes (fun h => h.of_eq hregistry hrecipes) fun _ => by rw [hregistry]

theorem trans (h : Told role type w w') (h' : Told role type w' w'') : Told role type w w'' := by
  obtain ⟨new, hnotes, htold⟩ := h
  obtain ⟨new', hnotes', htold'⟩ := h'
  refine ⟨new ++ new', by rw [hnotes', hnotes, List.append_assoc], fun hw => ?_⟩
  obtain ⟨hw', hheld⟩ := htold hw
  obtain ⟨hw'', hheld'⟩ := htold' hw'
  exact ⟨hw'', by rw [hheld', hheld, List.foldl_append]⟩

theorem recounts (h : Told role type w w') (hw : Recounts role type w) : Recounts role type w' := by
  obtain ⟨new, hnotes, htold⟩ := h
  obtain ⟨horderly, hheld⟩ := htold hw.orderly
  exact ⟨horderly, by rw [hheld, hw.held?_eq, hnotes, List.foldl_append]⟩

/-- One thing is noted, and the value is what the note tells. -/
theorem note {note : Note} (hnotes : w'.notes = w.notes ++ [note])
    (h : Orderly role w → Orderly role w' ∧
      w'.fixture.registry.held? type =
        note.valueAfter role type (w.fixture.registry.held? type)) : Told role type w w' :=
  ⟨[note], hnotes, h⟩

/-- Something is noted that tells of no registration. -/
theorem quiet {note : Note} {s : E × List Note} (hnotes : s.2 = w.notes ++ [note])
    (h : note.registered? role type = none) :
    Told role type w (w.mapSurroundings fun _ => s) :=
  .note hnotes fun hw => ⟨hw.of_eq rfl rfl, by rw [Note.valueAfter, h]; rfl⟩

theorem enter {key : Key} (henter : w.enter key = .ok w') : Told role type w w' := by
  obtain ⟨-, rfl⟩ := enter_eq_ok_iff.mp henter
  exact of_eq rfl rfl rfl

theorem passes (hpasses : w.Passes w') (hnotes : w'.notes = w.notes) : Told role type w w' := by
  obtain ⟨hfixture, -, -⟩ := hpasses
  exact of_eq hnotes (by rw [hfixture]) (by rw [hfixture])

theorem frozen (w : World (E × List Note)) (key : Key) :
    Told role type w (w.mapFixture (Fixture.freeze · key)) := by
  refine of_held? rfl (fun h => h.freeze key) fun _ => ?_
  exact congrArg (Registry.held? type) (Fixture.registry_freeze w.fixture key)

/-- A factory whose product is not registered has come to its end. -/
theorem ended {done entered : World (E × List Note)} {key : Key} {id : FactoryId}
    {answer : Except Error Datum} {s : E × List Note} (henter : w.enter key = .ok entered)
    (hdone : Told role type entered done) (hnotes : s.2 = done.notes ++ [.ended id answer])
    (h : (Note.ended id answer).registered? role type = none) :
    Told role type w (done.mapSurroundings fun _ => s).leave :=
  (enter henter).trans (hdone.trans ((quiet hnotes h).trans (of_eq rfl rfl rfl)))

/-- A factory has come to its end, and its product is registered. -/
theorem registered {done entered : World (E × List Note)} {key : Key} {recipe : Recipe}
    {factory : Factory} {datum : Datum} {s : E × List Note}
    (hcalled : Called (catalog.beside (List Note)) key recipe factory w entered)
    (hlifetime : recipe.lifetime = .singleton) (hdone : Told role type entered done)
    (hnotes : s.2 = done.notes ++ [.ended factory.id (.ok datum)]) :
    Told role type w ((done.mapSurroundings fun _ => s).insertValue catalog.mockOf key
      (.value factory.product datum)).leave := by
  obtain ⟨new, hnew, htold⟩ := (enter hcalled.enters).trans hdone
  refine ⟨new ++ [.ended factory.id (.ok datum)], ?_, fun hw => ?_⟩
  · rw [← List.append_assoc, ← hnew]
    exact hnotes
  · obtain ⟨hended, hheld⟩ := htold hw
    -- The role of the factory is that of the recipe that was called, whatever has become of it.
    obtain ⟨rfl, hrole, -⟩ := hw.of_called hcalled
    rw [hlifetime] at hrole
    refine ⟨hended.of_indexed (Registry.extends_insert hended.indexed _).indexed rfl, ?_⟩
    refine (Registry.held?_insertValue catalog.mockOf hended.indexed factory.product datum).trans ?_
    rw [List.foldl_concat, ← hheld, Note.valueAfter, Note.registered?, hrole]
    simp only [Role.mk.injEq, and_true]
    split <;> rfl

end Told

/-! ## Commands -/

/-- The conduct while a single command is answered, with its factories: no further command is given. -/
def quietly (role : FactoryId → Role) : Conduct (E × List Note) :=
  { Conduct.noting role with admits := fun _ _ => False }

/-- **Creating and resolving keep to what the notes of factories tell.** -/
theorem kept_told (catalog : Catalog E) (role : FactoryId → Role) (type : TypeId) :
    Kept (catalog.beside (List Note)) (quietly role) (Told role type) where
  refl _ := .of_eq rfl rfl rfl
  trans := .trans
  reports hpasses hsame := .passes hpasses (congrArg Prod.snd hsame)
  outside hpasses hwanders := .passes hpasses hwanders
  answered _ hadmits _ _ _ := hadmits.elim
  operated hadmits _ := hadmits.elim
  rewritten hadmits _ := hadmits.elim
  configured _ := .of_eq rfl rfl rfl
  reset hadmits := hadmits.elim
  bracket henter hdone := (Told.enter henter).trans (hdone.trans (.of_eq rfl rfl rfl))
  failed hcalled hdone hnote := .ended hcalled.enters hdone hnote rfl
  unshared {w entered done key recipe factory datum s} hcalled hshare hdone hnote := by
    by_cases hw : Orderly role w
    · -- What is not shared is no singleton, so its product is not registered.
      obtain ⟨-, hrole, hshared⟩ := hw.of_called hcalled
      have hlifetime : recipe.lifetime = .transient := by
        cases hlifetime : recipe.lifetime with
        | transient => rfl
        | singleton => simp [Recipe.sharedAs, hlifetime, hshared hlifetime] at hshare
      refine .ended hcalled.enters hdone hnote ?_
      simp [Note.registered?, hrole, hlifetime]
    · obtain ⟨new, hnew, -⟩ := (Told.enter hcalled.enters).trans hdone
      refine ⟨new ++ [.ended factory.id (.ok datum)], ?_, fun h => absurd h hw⟩
      rw [← List.append_assoc, ← hnew]
      exact hnote
  shared hcalled hlifetime hdone hnote := .registered hcalled hlifetime hdone hnote
  mocked {w key} _ := by
    refine .of_held? rfl (fun h => h.of_indexed ?_ rfl) fun h => ?_
    · exact (Registry.extends_getOrCreateMock catalog.mockOf h.indexed _ key.type key.name).indexed
    · exact Registry.held?_getOrCreateMock catalog.mockOf h.indexed
  unbuilt {w _ _ intake _ _} hconstructor hbuild := by
    have hnotes := Catalog.beside_build hconstructor intake w.surroundings
    rw [hbuild] at hnotes
    exact .of_eq hnotes rfl rfl
  recorded {_ _ w target _ _ injections _ _} hconstructor _ hfilled hbuild := by
    have hnotes := Catalog.beside_build (Fixture.mem_of_visible hconstructor) ⟨target, injections⟩
      w.surroundings
    rw [hbuild] at hnotes
    exact hfilled.trans (.of_eq hnotes rfl rfl)
  frozen := .frozen
  built _ := .of_eq rfl rfl rfl

section Commands

variable {catalog : Catalog E} {role : FactoryId → Role} {type : TypeId}
  {run : Runner (E × List Note)} {w w' : World (E × List Note)} {command : Command}
  {answer : Except Error Reply}

/-- **A command that creates no instance does to the value what its answer tells.** -/
theorem Registered.told (hreset : command ≠ .reset)
    (hadmits : (Conduct.noting role).admits w.surroundings command)
    (h : Registered (catalog.beside (List Note)) command w (answer, w')) (hw : Orderly role w) :
    Orderly role w' ∧ w'.fixture.registry.held? type =
      (Note.answered command answer).valueAfter role type (w.fixture.registry.held? type) := by
  cases h with
  | found hfound =>
    refine ⟨hw, ?_⟩
    cases command <;> first | rfl | exact absurd rfl hreset | cases hfound
  | @operated allocated change reply _ hoperates =>
    have hindexed := (hoperates.step.extends hw.indexed).indexed
    refine ⟨hw.of_indexed ?_ (Fixture.recipes_configured _), ?_⟩
    · rw [registry_configured]
      exact hindexed
    · rw [registry_configured]
      exact hoperates.held?_eq hw.indexed role type reply
  | refused _ hsame =>
    refine ⟨hw.of_eq hsame rfl, ?_⟩
    rw [Note.valueAfter, Note.registered?_of_error]
    exact congrArg (Registry.held? type) hsame
  | rewritten _ hrewrites =>
    have hplays := (hw.plays_getD _).rewrites hrewrites hadmits
    refine ⟨(hw.insertRecipe hplays).of_eq (registry_configured _)
      (Fixture.recipes_configured _), ?_⟩
    rw [registry_configured]
    cases hrewrites <;> rfl
  | frozen => exact ⟨hw, by rw [Note.valueAfter, Note.registered?_of_error]; rfl⟩

/-- **Commands uphold what the notes tell.** -/
theorem upheld_told (catalog : Catalog E) (role : FactoryId → Role) (type : TypeId) :
    Upheld (catalog.beside (List Note)) (Conduct.noting role) (Told role type) where
  refl _ := .of_eq rfl rfl rfl
  trans := .trans
  outside hpasses hwanders := .passes hpasses hwanders
  answered {run w w' command answer s} _ hends hadmits hperform hnote := by
    have hkept := kept_told catalog role type
    -- Either the value is changed by the command itself, or only by factories on the way.
    by_cases hdirect : command.isDirect
    · by_cases hreset : command = .reset
      · subst hreset
        obtain ⟨rfl, rfl⟩ := Prod.mk.inj hperform
        exact .note hnote fun _ => ⟨⟨Registry.indexed_empty, .of_new rfl⟩, rfl⟩
      · have hregistered := registered (catalog.beside (List Note)) run hdirect hreset w
        rw [hperform] at hregistered
        have hnotes : w'.notes = w.notes := by cases hregistered <;> rfl
        have hnoted : s.2 = w.notes ++ [.answered command answer] := hnotes ▸ hnote
        refine .note hnoted fun hw => ?_
        obtain ⟨hw', hheld⟩ := hregistered.told hreset hadmits hw
        exact ⟨hw'.of_eq rfl rfl, hheld⟩
    · have hperformed : Told role type w w' := by
        have hcommand : Told role type w (w.perform (catalog.beside _) run command).2 := by
          cases command with
          | create target arguments => exact hkept.create hends target none arguments w
          | createBySignature target signature =>
            exact hkept.create hends target (some signature) none w
          | resolve target signature explicit =>
            exact hkept.resolve hends (built (catalog.beside _) run target signature explicit w)
          | _ => exact absurd rfl hdirect
        rwa [hperform] at hcommand
      refine hperformed.trans (.quiet hnote (Note.registered?_of_registers? ?_ ?_ answer))
      · rintro rfl
        exact hdirect rfl
      · cases command <;> first | rfl | exact absurd rfl hdirect

end Commands

/-! ## Runs -/

section Runs

variable {catalog : Catalog E} {role : FactoryId → Role} {w w' : World (E × List Note)}

/-- **Whatever comes up later, the notes in between tell the value.** -/
theorem Leads.told (h : Leads (catalog.beside (List Note)) (Conduct.noting role) w w')
    (type : TypeId) : Told role type w w' :=
  (upheld_told catalog role type).leads
    (fun hends hstarts => (kept_told catalog role type).starts .enter hends hstarts) h

theorem Fresh.orderly (h : Fresh (Conduct.noting role) w) : Orderly role w := by
  obtain ⟨⟨options, hoptions⟩, -⟩ := h
  refine ⟨?_, .of_new hoptions⟩
  rw [hoptions]
  exact Registry.indexed_empty

/-- **The value that is registered for a type can be read off the notes.** -/
theorem Reachable.recounts (hw : Reachable (catalog.beside (List Note)) (Conduct.noting role) w)
    (type : TypeId) : Recounts role type w := by
  obtain ⟨start, hfresh, hleads⟩ := hw
  refine (hleads.told type).recounts ⟨hfresh.orderly, ?_⟩
  obtain ⟨⟨options, hoptions⟩, hbegins⟩ := hfresh
  rw [show start.notes = [] from hbegins, hoptions]
  rfl

/-! ### Commands given one after the other -/

/-- Whatever becomes known is written down. -/
theorem notes_noting (role : FactoryId → Role) (note : Note) (s : E × List Note) :
    (Conduct.noting role).notes note s (s.1, s.2 ++ [note]) :=
  rfl

/-- The world in which a command has been answered, and its answer noted. -/
def noted (catalog : Catalog E) (run : Runner (E × List Note)) (w : World (E × List Note))
    (command : Command) : World (E × List Note) :=
  (w.perform (catalog.beside (List Note)) run command).2.mapSurroundings fun s =>
    (s.1, s.2 ++ [.answered command (w.perform (catalog.beside (List Note)) run command).1])

/-- Factories that give no commands. -/
def silent (answer : FactoryId → Except Error Datum) : Runner (E × List Note) := fun id w =>
  (answer id, w.mapSurroundings fun s => (s.1, s.2 ++ [.ended id (answer id)]))

/-- Factories that give a list of commands each, whatever the answers are, and then end. -/
def acting (catalog : Catalog E) (run : Runner (E × List Note))
    (commands : FactoryId → List Command) (answer : FactoryId → Except Error Datum) :
    Runner (E × List Note) := fun id w =>
  (answer id, ((commands id).foldl (noted catalog run) w).mapSurroundings fun s =>
    (s.1, s.2 ++ [.ended id (answer id)]))

variable {run : Runner (E × List Note)}

theorem step_noted {command : Command} (w : World (E × List Note))
    (hadmits : (Conduct.noting (E := E) role).admits w.surroundings command) :
    Step (catalog.beside (List Note)) (Conduct.noting role) run w (noted catalog run w command) := by
  unfold noted
  generalize hperform : w.perform (catalog.beside (List Note)) run command = result
  obtain ⟨answer, w'⟩ := result
  exact .perform hadmits hperform (notes_noting role _ _)

theorem steps_noted {commands : List Command}
    (hadmits : ∀ command ∈ commands, ∀ s, (Conduct.noting (E := E) role).admits s command)
    (w : World (E × List Note)) :
    Steps (catalog.beside (List Note)) (Conduct.noting role) run w
      (commands.foldl (noted catalog run) w) := by
  induction commands generalizing w with
  | nil => exact .refl
  | cons command commands ih =>
    obtain ⟨hfirst, hrest⟩ := List.forall_mem_cons.mp hadmits
    exact .head (step_noted w (hfirst _)) (ih hrest (noted catalog run w command))

theorem Scripted.acting (hrun : Scripted (catalog.beside (List Note)) (Conduct.noting role) run)
    {commands : FactoryId → List Command}
    (hadmits : ∀ id, ∀ command ∈ commands id, ∀ s,
      (Conduct.noting (E := E) role).admits s command) (answer : FactoryId → Except Error Datum) :
    Scripted (catalog.beside (List Note)) (Conduct.noting role)
      (acting catalog run commands answer) := by
  refine .nest hrun fun id w => ?_
  have hsteps : Steps (catalog.beside (List Note)) (Conduct.noting role) run w
      ((commands id).foldl (noted catalog run) w) := steps_noted (hadmits id) w
  exact ⟨_, _, hsteps, notes_noting role _ _, rfl⟩

theorem scripted_silent (catalog : Catalog E) (role : FactoryId → Role)
    (answer : FactoryId → Except Error Datum) :
    Scripted (catalog.beside (List Note)) (Conduct.noting role) (silent answer) :=
  .idle fun _ w => ⟨w, _, rfl, notes_noting role _ _, rfl⟩

theorem Reachable.noted
    (hw : Reachable (catalog.beside (List Note)) (Conduct.noting role) w)
    (hrun : Scripted (catalog.beside (List Note)) (Conduct.noting role) run) {command : Command}
    (hadmits : (Conduct.noting (E := E) role).admits w.surroundings command) :
    Reachable (catalog.beside (List Note)) (Conduct.noting role) (noted catalog run w command) :=
  hw.leads (.single (.step hrun (step_noted w hadmits)))

end Runs

end World

end TestDoubles
