import Mathlib.Data.Finset.Card
import TestDoubles.Proofs.Run.Bodies
import TestDoubles.Proofs.Run.InProgress

/-!
# Creation terminates

A factory may create any type, itself included, and register factories for others on the way; nothing
in the way of commands forbids it to go on for ever. But a key in progress is refused, only types that
are created or have a factory get in progress, and without a reset none leaves the stack before what it
was entered for is over. So over finitely many types factories are nested only finitely deep.

- `Command.Over` says that a command adds no type to the given ones.
- `World.Confined` is the invariant, and `World.Confined.length_inProgress_le` the bound for the stack.
- `World.Starts.longer`: where a factory starts, the stack is longer.
- `World.creation_terminates` puts this together, and `World.not_answers_restarting` shows what happens
  when a factory tears the fixture down.
-/

namespace TestDoubles

/-! ## Commands over some types -/

/-- The types that a command creates or registers a factory for are among these. -/
def Command.Over (types : Finset TypeId) : Command → Prop
  | .create type _ | .createBySignature type _ | .addType type _ _ => type ∈ types
  | _ => True

/-- Code outside the library creates and registers factories for no other types. -/
def Conduct.over {E : Type} (types : Finset TypeId) : Conduct E :=
  .only (Command.Over types)

/-- The keys of some types, none of which has a name. -/
def keysOf (types : Finset TypeId) : Finset Key :=
  types.image Key.of

section Keys

variable {types : Finset TypeId}

theorem of_mem_keysOf {type : TypeId} (h : type ∈ types) : .of type ∈ keysOf types :=
  Finset.mem_image_of_mem Key.of h

theorem card_keysOf (types : Finset TypeId) : (keysOf types).card = types.card :=
  Finset.card_image_of_injective types fun _ _ h => Key.of_inj.mp h

/-- A recipe that a command writes has no factory that was not there, unless it is for such a type. -/
theorem Command.Rewrites.of_hasFactory {command : Command} {key : Key} {recipe changed : Recipe}
    (h : command.Rewrites key recipe changed) (hover : command.Over types)
    (hchanged : changed.hasFactory) : recipe.hasFactory ∨ key ∈ keysOf types := by
  cases h with
  | addType type lifetime id _ => exact .inr (of_mem_keysOf hover)
  | setArguments type arguments _ => exact .inl hchanged

end Keys

/-! ## Factories for some types -/

/-- There are no factories for other keys. -/
def ProducesOnly (types : Finset TypeId) (f : Fixture) : Prop :=
  ∀ key, f.hasFactory key → key ∈ keysOf types

namespace ProducesOnly

variable {types : Finset TypeId} {f : Fixture}

theorem of_recipes {f' : Fixture} (h : ProducesOnly types f) (hrecipes : f'.recipes = f.recipes) :
    ProducesOnly types f' := by
  intro key hfactory
  unfold Fixture.hasFactory at hfactory
  rw [hrecipes] at hfactory
  exact h key hfactory

theorem insert (h : ProducesOnly types f) {key : Key} {recipe : Recipe}
    (hrecipe : recipe.hasFactory → key ∈ keysOf types) :
    ProducesOnly types { f with recipes := f.recipes.insert key recipe } := by
  intro other hfactory
  unfold Fixture.hasFactory at hfactory
  rw [Table.find?_insert] at hfactory
  split at hfactory
  next hkey => exact hkey ▸ hrecipe hfactory
  next hkey => exact h other hfactory

theorem freeze (h : ProducesOnly types f) (key : Key) : ProducesOnly types (f.freeze key) := by
  rcases f.freeze_cases key with heq | ⟨recipe, hrecipe, heq⟩
  · rwa [heq]
  · rw [heq]
    refine h.insert fun hfactory => h key ?_
    unfold Fixture.hasFactory
    rw [hrecipe]
    exact hfactory

end ProducesOnly

namespace World

variable {E : Type} {catalog : Catalog E} {types : Finset TypeId} {run : Runner E}
  {w w' : World E}

/-- Runs over some types register no factories for others. -/
theorem kept_producesOnly (catalog : Catalog E) (types : Finset TypeId) :
    Kept catalog (Conduct.over types) fun w w' : World E =>
      ProducesOnly types w.fixture → ProducesOnly types w'.fixture := by
  have henter {w entered : World E} {key : Key} (henter : w.enter key = .ok entered)
      (h : ProducesOnly types w.fixture) : ProducesOnly types entered.fixture := by
    obtain ⟨-, rfl⟩ := enter_eq_ok_iff.mp henter
    exact h.of_recipes rfl
  exact
    { refl := fun _ h => h
      trans := fun h₁ h₂ h => h₂ (h₁ h)
      reports := fun hpasses _ h => h.of_recipes (by rw [hpasses.fixture])
      outside := fun hpasses _ h => h.of_recipes (by rw [hpasses.fixture])
      answered := fun _ _ _ hperformed _ h => (hperformed h).of_recipes rfl
      operated := fun _ _ h => h.of_recipes rfl
      rewritten := fun {w _ key _} hadmits hrewrites h => by
        refine h.insert fun hchanged => ?_
        rcases hrewrites.of_hasFactory hadmits hchanged with hfactory | hkey
        · refine h key ?_
          unfold Fixture.hasFactory
          cases hrecipe : w.fixture.recipes.find? key with
          | none => rw [hrecipe] at hfactory; cases hfactory
          | some recipe => rw [hrecipe] at hfactory; exact hfactory
        · exact hkey
      configured := fun _ h => h.of_recipes rfl
      reset := fun _ _ _ hfactory => nomatch hfactory
      bracket := fun hentered hdone h => (hdone (henter hentered h)).of_recipes rfl
      failed := fun hcalled hdone _ h => (hdone (henter hcalled.enters h)).of_recipes rfl
      unshared := fun hcalled _ hdone _ h => (hdone (henter hcalled.enters h)).of_recipes rfl
      shared := fun hcalled _ hdone _ h => (hdone (henter hcalled.enters h)).of_recipes rfl
      mocked := fun _ h => h.of_recipes rfl
      unbuilt := fun _ _ h => h.of_recipes rfl
      recorded := fun _ _ hfilled _ h => (hfilled h).of_recipes rfl
      frozen := fun _ key h => h.freeze key
      built := fun _ h => h.of_recipes rfl }

/-! ## Keys in progress -/

/-- No other keys have factories, or are in progress. -/
structure Confined (types : Finset TypeId) (w : World E) : Prop where
  producesOnly : ProducesOnly types w.fixture
  inProgress : ∀ key ∈ w.fixture.inProgress, key ∈ keysOf types

theorem Confined.enter (h : Confined types w) {key : Key} (hkey : key ∈ keysOf types)
    (henter : w.enter key = .ok w') : Confined types w' := by
  obtain ⟨-, rfl⟩ := enter_eq_ok_iff.mp henter
  exact ⟨h.producesOnly.of_recipes rfl, List.forall_mem_append.mpr ⟨h.inProgress, by simpa⟩⟩

/-- A balanced change adds nothing to the stack. -/
theorem Confined.of_balanced (h : Confined types w) (hbalanced : Balanced w w')
    (hproduces : ProducesOnly types w.fixture → ProducesOnly types w'.fixture) :
    Confined types w' where
  producesOnly := hproduces h.producesOnly
  inProgress key hkey := by
    obtain ⟨new, -, hstack⟩ := hbalanced
    rw [hstack] at hkey
    split at hkey
    · cases hkey
    · exact h.inProgress key hkey

theorem ProduceStarts.confined {key : Key} {id : FactoryId} {started : World E}
    (hstarts : ProduceStarts key w id started) (h : Confined types w) : Confined types started := by
  have hfactory := hstarts.hasFactory
  obtain ⟨-, -, henter⟩ := hstarts
  exact h.enter (h.producesOnly key hfactory) henter

section Starting

variable (hrun : Scripted catalog (Conduct.over types) run) {id : FactoryId} {started : World E}

include hrun

theorem ResolveStarts.confined {target : TypeId} {signature : Option Signature}
    {explicit : Arguments} (hstarts : ResolveStarts catalog run target signature explicit w id started)
    (h : Confined types w) : Confined types started := by
  have hproduces := kept_producesOnly catalog types
  have hbalanced := (plain_balanced catalog (Conduct.over types)).kept
  obtain ⟨before, key, ⟨hbefore, hbefore'⟩, hstarts⟩ :=
    (hproduces.within.and hbalanced.within).produceStarts
      (fun id started _ => ⟨hproduces.ends hrun id started, hbalanced.ends hrun id started⟩) hstarts
  exact hstarts.confined (h.of_balanced hbefore' hbefore)

theorem CreateStarts.confined {target : TypeId} {signature : Option Signature}
    {arguments : Option Arguments} (htarget : target ∈ types)
    (hstarts : CreateStarts catalog run target signature arguments w id started)
    (h : Confined types w) : Confined types started := by
  cases hstarts with
  | factory henter _ _ _ =>
    have hentered := h.enter (of_mem_keysOf htarget) henter
    exact ⟨hentered.producesOnly, hentered.inProgress⟩
  | resolved henter _ hstarts => exact hstarts.confined hrun (h.enter (of_mem_keysOf htarget) henter)

theorem Starts.confined {command : Command} (hcommand : command.Over types)
    (hstarts : Starts catalog run command w id started) (h : Confined types w) :
    Confined types started := by
  cases hstarts with
  | create hstarts => exact hstarts.confined hrun hcommand h
  | createBySignature hstarts => exact hstarts.confined hrun hcommand h
  | resolve hstarts => exact hstarts.confined hrun h

end Starting

/-- **Over some types, only these get in progress**, also inside factories. -/
theorem Reachable.confined (hw : Reachable catalog (Conduct.over types) w) : Confined types w := by
  obtain ⟨start, ⟨⟨options, hfixture⟩, -⟩, hleads⟩ := hw
  induction hleads with
  | refl => constructor <;> rw [hfixture] <;> exact fun _ h => nomatch h
  | tail _ hmove ih =>
    cases hmove with
    | step hrun hstep =>
      have hproduces := (kept_producesOnly catalog types).steps hrun (.single hstep)
      have hbalanced := (plain_balanced catalog (Conduct.over types)).kept.steps hrun (.single hstep)
      exact ih.of_balanced hbalanced hproduces
    | starts hrun hadmits hstarts => exact hstarts.confined hrun hadmits ih

/-- **No more keys are in progress than there are types.** -/
theorem Confined.length_inProgress_le (h : Confined types w)
    (hnodup : w.fixture.inProgress.Nodup) : w.fixture.inProgress.length ≤ types.card := by
  rw [← card_keysOf types, ← List.toFinset_card_of_nodup hnodup]
  refine Finset.card_le_card fun key hkey => ?_
  exact h.inProgress key (List.mem_toFinset.mp hkey)

/-! ## Longer and longer stacks -/

section Longer

variable {conduct : Conduct E} (hrun : Scripted catalog conduct.withoutReset run) {id : FactoryId}
  {started : World E}

include hrun

theorem ResolveStarts.longer {target : TypeId} {signature : Option Signature}
    {explicit : Arguments}
    (hstarts : ResolveStarts catalog run target signature explicit w id started) :
    w.fixture.inProgress.length < started.fixture.inProgress.length := by
  have hsame := (plain_inProgress catalog conduct).kept
  obtain ⟨before, key, hbefore, -, -, henter⟩ :=
    hsame.within.produceStarts (fun id started _ => hsame.ends hrun id started) hstarts
  obtain ⟨-, rfl⟩ := enter_eq_ok_iff.mp henter
  simp [mapFixture, hbefore]

theorem CreateStarts.longer {target : TypeId} {signature : Option Signature}
    {arguments : Option Arguments}
    (hstarts : CreateStarts catalog run target signature arguments w id started) :
    w.fixture.inProgress.length < started.fixture.inProgress.length := by
  cases hstarts with
  | factory henter _ _ _ =>
    obtain ⟨-, rfl⟩ := enter_eq_ok_iff.mp henter
    simp [mapFixture, emit]
  | resolved henter _ hstarts =>
    have hlonger := hstarts.longer hrun
    obtain ⟨-, rfl⟩ := enter_eq_ok_iff.mp henter
    refine Nat.lt_trans ?_ hlonger
    simp [mapFixture]

/-- **Where a factory starts, the stack is longer.** -/
theorem Starts.longer {command : Command} (hstarts : Starts catalog run command w id started) :
    w.fixture.inProgress.length < started.fixture.inProgress.length := by
  cases hstarts with
  | create hstarts => exact hstarts.longer hrun
  | createBySignature hstarts => exact hstarts.longer hrun
  | resolve hstarts => exact hstarts.longer hrun

end Longer

/-! ## Answers over some types -/

/-- The commands that factories may give. -/
def Tame (types : Finset TypeId) (command : Command) : Prop :=
  command.Over types ∧ command ≠ .reset

section Answering

variable {bodies : FactoryId → Body E} (hbodies : ∀ id, (bodies id).All (Tame types))

include hbodies

theorem scripted_over (depth : Nat) :
    Scripted catalog (Conduct.over types) (runner catalog bodies depth) :=
  scripted_runner (fun id => (hbodies id).mono fun _ h => h.1) depth

theorem scripted_withoutReset (depth : Nat) :
    Scripted catalog (Conduct.over types).withoutReset (runner catalog bodies depth) :=
  scripted_runner hbodies depth

/-- A body comes to its end if its commands are answered; by induction on the body. -/
theorem finishes_run {depth : Nat}
    (hanswers : ∀ {w : World E} {command : Command}, Reachable catalog (Conduct.over types) w →
      command.Over types → types.card ≤ w.fixture.inProgress.length + depth →
      Answers catalog bodies command w (w.perform catalog (runner catalog bodies depth) command))
    {body : Body E} (hbody : body.All (Tame types))
    (hw : Reachable catalog (Conduct.over types) w)
    (hdepth : types.card ≤ w.fixture.inProgress.length + depth) :
    Finishes catalog bodies body w (body.run catalog (runner catalog bodies depth) w) := by
  induction body generalizing w with
  | done answer => exact .done answer w
  | call command next ih =>
    obtain ⟨⟨hover, hreset⟩, hnext⟩ := hbody
    obtain ⟨run, hstarts, hperform⟩ := hanswers hw hover hdepth
    -- Between two commands, the stack is what it was when the factory was started.
    have hsame : (w.perform catalog (runner catalog bodies depth) command).2.fixture.inProgress =
        w.fixture.inProgress :=
      inProgress_perform (scripted_withoutReset hbodies depth) ⟨hover, hreset⟩
    have hlater : Reachable catalog (Conduct.over types)
        (w.perform catalog (runner catalog bodies depth) command).2 :=
      hw.leads (.single (.step (scripted_over hbodies depth)
        (.command command hover fun _ _ => trivial)))
    exact .call hstarts hperform (ih _ (hnext _) hlater (hsame ▸ hdepth))
  | outside change hpasses next ih =>
    have hlater : Reachable catalog (Conduct.over types) (change w) :=
      hw.leads (.single (.step (scripted_over hbodies depth) (.outside (hpasses w) trivial)))
    exact .outside (ih _ (hbody _) hlater ((hpasses w).fixture ▸ hdepth))

/-- **Commands are answered**, and factories are nested no deeper than there are types left; by
induction on this depth. -/
theorem answers_perform {depth : Nat} {command : Command}
    (hw : Reachable catalog (Conduct.over types) w) (hcommand : command.Over types)
    (hdepth : types.card ≤ w.fixture.inProgress.length + depth) :
    Answers catalog bodies command w (w.perform catalog (runner catalog bodies depth) command) := by
  induction depth generalizing w command with
  | zero =>
    refine ⟨_, fun id started hstarts => ?_, rfl⟩
    -- All types are in progress, so no factory starts.
    have hlonger := hstarts.longer (scripted_withoutReset hbodies 0)
    have hstarted : Reachable catalog (Conduct.over types) started :=
      hw.leads (.single (.starts (scripted_over hbodies 0) hcommand hstarts))
    have hbound := hstarted.confined.length_inProgress_le hstarted.inProgress_nodup
    omega
  | succ depth ih =>
    refine ⟨_, fun id started hstarts => ?_, rfl⟩
    have hlonger := hstarts.longer (scripted_withoutReset hbodies (depth + 1))
    have hstarted : Reachable catalog (Conduct.over types) started :=
      hw.leads (.single (.starts (scripted_over hbodies (depth + 1)) hcommand hstarts))
    exact finishes_run hbodies ih (hbodies id) hstarted (by omega)

end Answering

/-- **Creation terminates.** Factories are programs over some types that do not tear the fixture down.
Then, wherever a run over these types has come to, every command over them has exactly one answer, and
it takes no deeper nesting of factories to give it than there are types that are not in progress. All
that happens meanwhile are runs over these types; nowhere in them, and nowhere where a type of theirs
is entered, are there more keys in progress than types. -/
theorem creation_terminates (catalog : Catalog E) (types : Finset TypeId)
    (bodies : FactoryId → Body E) (hbodies : ∀ id, (bodies id).All (Tame types)) :
    (∀ w command, Reachable catalog (Conduct.over types) w → command.Over types →
      (∃! result, Answers catalog bodies command w result) ∧
      ∀ depth, types.card ≤ w.fixture.inProgress.length + depth → Answers catalog bodies command w
        (w.perform catalog (runner catalog bodies depth) command)) ∧
    (∀ depth, Scripted catalog (Conduct.over types) (runner catalog bodies depth)) ∧
    (∀ w, Reachable catalog (Conduct.over types) w →
      w.fixture.inProgress.length ≤ types.card ∧
      ∀ type ∈ types, ∀ entered, w.enter (.of type) = .ok entered →
        entered.fixture.inProgress.length ≤ types.card) := by
  refine ⟨?_, scripted_over hbodies, ?_⟩
  · intro w command hw hcommand
    have hanswers {depth : Nat} (hdepth : types.card ≤ w.fixture.inProgress.length + depth) :=
      answers_perform hbodies hw hcommand hdepth
    refine ⟨⟨_, hanswers (Nat.le_add_left types.card _), fun result h => ?_⟩, fun _ => hanswers⟩
    exact h.unique (hanswers (Nat.le_add_left types.card _))
  · intro w hw
    have hnodup := hw.inProgress_nodup
    refine ⟨hw.confined.length_inProgress_le hnodup, fun type htype entered henter => ?_⟩
    have hentered := hw.confined.enter (of_mem_keysOf htype) henter
    exact hentered.length_inProgress_le (nodup_enter henter hnodup)

/-- A tool whose factory asks for the tool itself, registers a factory for a part and creates one; the
factory of the part asks for the tool again. -/
theorem creation_terminates_cyclic :
    let tool : TypeId := ⟨"Tool"⟩
    let part : TypeId := ⟨"Part"⟩
    let types : Finset TypeId := {tool, part}
    let catalog : Catalog Unit := ⟨id, fun _ => .null, fun _ => []⟩
    let create (type : TypeId) (next : Body Unit) : Body Unit :=
      .call (.create type none) fun _ => next
    let finish : Body Unit := .done (.ok .null)
    let bodies : FactoryId → Body Unit := fun id =>
      if id = ⟨0⟩ then create tool (.call (.addType part .transient ⟨1⟩) fun _ => create part finish)
      else create tool finish
    let start : World Unit := { surroundings := () }
    let ready := (start.perform catalog (runner catalog bodies 2) (.addType tool .transient ⟨0⟩)).2
    (∀ id, (bodies id).All (Tame types)) ∧ Reachable catalog (Conduct.over types) ready ∧
    (∃! result, Answers catalog bodies (.create tool none) ready result) ∧
    Answers catalog bodies (.create tool none) ready
      (ready.perform catalog (runner catalog bodies 2) (.create tool none)) ∧
    ready.fixture.inProgress.length ≤ types.card ∧
    (ready.perform catalog (runner catalog bodies 2) (.create tool none)).1 =
      .ok (.instanceOf .null) := by
  intro tool part types catalog create finish bodies start ready
  have htool : tool ∈ types := by simp [types]
  have hpart : part ∈ types := by simp [types]
  have hbodies : ∀ id, (bodies id).All (Tame types) := by
    intro id
    by_cases hid : id = ⟨0⟩ <;>
      simp [bodies, hid, create, finish, Body.All, Tame, Command.Over, htool, hpart]
  obtain ⟨hanswers, hscripted, hbounds⟩ := creation_terminates catalog types bodies hbodies
  have hready : Reachable catalog (Conduct.over types) ready :=
    (Fresh.reachable ⟨⟨{}, rfl⟩, trivial⟩).leads
      (.single (.step (hscripted 2) (.command _ htool fun _ _ => trivial)))
  obtain ⟨hunique, hdepth⟩ := hanswers ready (.create tool none) hready htool
  exact ⟨hbodies, hready, hunique, hdepth 2 (by decide), (hbounds ready hready).1, by rfl⟩

/-! ## Tearing down on the way -/

section Restarting

variable {type : TypeId} {id : FactoryId} {bodies : FactoryId → Body E}

/-- A factory that creates its own type, once it is registered. -/
def recreating (type : TypeId) : Body E :=
  .call (.create type none) fun answer => .done (answer.map fun _ => .null)

/-- A factory that tears the fixture down, registers itself again and creates its own type. -/
def restarting (type : TypeId) (id : FactoryId) : Body E :=
  .call .reset fun _ => .call (.addType type .transient id) fun _ => recreating type

/-- The type can be created, and its factory is this one and makes no value that is kept. -/
structure Ready (type : TypeId) (id : FactoryId) (w : World E) : Prop where
  recipe : ∃ recipe product, w.fixture.recipes.find? (.of type) = some recipe ∧
    recipe.factory = some ⟨id, product⟩ ∧ recipe.lifetime = .transient
  free : .of type ∉ w.fixture.inProgress

theorem Ready.starts (h : Ready type id w) :
    ∃ started, Starts catalog run (.create type none) w id started := by
  obtain ⟨⟨recipe, product, hrecipe, hfactory, hlifetime⟩, hfree⟩ := h
  obtain ⟨entered, henter, -⟩ := enter_of_not_mem hfree
  have hcached : w.cached? (.of type) recipe.sharedAs = none := by
    rw [Recipe.sharedAs, hlifetime]
    rfl
  exact ⟨_, .create (.factory henter hrecipe hfactory hcached)⟩

/-- What the factory does, wherever it has come to. -/
inductive Restarts (type : TypeId) (id : FactoryId) : Body E → World E → Prop where
  | reset (w : World E) : Restarts type id (restarting type id) w
  | addType (w : World E) : Restarts type id
      (.call (.addType type .transient id) fun _ => recreating type) w.reset
  | create {w : World E} (h : Ready type id w) : Restarts type id (recreating type) w

/-- The factory never comes to its end; by induction on how it would. -/
theorem Restarts.not_finishes (hbody : bodies id = restarting type id) {body : Body E}
    {result : Except Error Datum × World E} (h : Finishes catalog bodies body w result) :
    ¬Restarts type id body w := by
  induction h with
  | done answer w => exact fun hrestarts => nomatch hrestarts
  | outside _ _ => exact fun hrestarts => nomatch hrestarts
  | call hstarts hperform hnext ih ihnext =>
    intro hrestarts
    cases hrestarts with
    | reset _ =>
      obtain ⟨-, rfl⟩ := Prod.mk.inj hperform
      exact ihnext (.addType _)
    | addType _ =>
      obtain ⟨-, rfl⟩ := Prod.mk.inj hperform
      refine ihnext (.create ⟨⟨_, type, Table.find?_insert_self _ _ _, rfl, rfl⟩, ?_⟩)
      exact List.not_mem_nil
    | create hready =>
      obtain ⟨started, hstart⟩ := hready.starts
      exact ih id started hstart (hbody ▸ .reset started)

/-- **A factory that tears the fixture down may never come to its end**, and what creates its type is
not answered. -/
theorem not_answers_restarting (catalog : Catalog E) (hbody : bodies id = restarting type id)
    (hready : Ready type id w) (result : Except Error Reply × World E) :
    ¬Answers catalog bodies (.create type none) w result := by
  rintro ⟨run, hstarts, -⟩
  obtain ⟨started, hstart⟩ := hready.starts
  exact Restarts.not_finishes hbody (hstarts id started hstart) (hbody ▸ .reset started)

end Restarting

end World

end TestDoubles
