import TestDoubles.Proofs.Run.Ledger

/-!
# Recipes that are fixed

A recipe is fixed in two places: when an instance of its type has been created, and when its factory has
made a value for a parameter. Between the moment in which a factory is started and the one in which its
recipe is fixed the factory may give commands that write recipes, among them its own. Here it is shown
that a recipe is fixed exactly when the log of the run says so, and that it stays what it is from then
on.

- `Deed.fixes` says which deeds fix a recipe.
- `World.Watched.FixedBy` compares the recipes of two fixtures along the deeds in between, and
  `World.Watched.Fixes` is what everything keeps to.
- `World.Watched.recipes_stay_fixed` says what follows for whole runs, for commands that create nothing,
  for parameters and for commands that would change a fixed recipe.
-/

namespace TestDoubles

variable {E : Type}

/-- Whether there is a recipe for the key that is fixed. -/
def Fixture.isFixed (f : Fixture) (key : Key) : Bool :=
  (f.recipes.find? key).any Recipe.frozen

/-- Whether the recipe for a key is fixed by a deed: an instance has been created while there was a
recipe, or a factory has made a value for a parameter. -/
def Deed.fixes (key : Key) : Deed → Bool
  | .answered command _ (.ok _) after =>
    command.creates?.map Key.of = some key && (after.recipes.find? key).isSome
  | .ran parameter (.ok _) => parameter = some key
  | _ => false

/-! ## Writing recipes -/

namespace Fixture

variable {f : Fixture} {key other : Key}

theorem isFixed_freeze : (f.freeze key).isFixed other ↔
    f.isFixed other ∨ other = key ∧ (f.recipes.find? key).isSome := by
  simp only [isFixed, find?_freeze]
  by_cases hkey : key = other
  · subst hkey
    cases f.recipes.find? key <;> simp
  · have hother : other ≠ key := fun h => hkey h.symm
    cases f.recipes.find? other <;> simp [hkey, hother]

end Fixture

/-- Only recipes that are not fixed are rewritten, and rewriting does not fix them. -/
theorem Command.Rewrites.frozen_eq {command : Command} {key : Key} {recipe changed : Recipe}
    (h : command.Rewrites key recipe changed) :
    recipe.frozen = false ∧ changed.frozen = false := by
  cases h with
  | addType _ _ _ hfrozen => exact ⟨hfrozen, hfrozen⟩
  | setArguments _ _ hfrozen => exact ⟨hfrozen, hfrozen⟩

namespace World

namespace Watched

/-! ## Recipes along the log -/

/-- Since `f`, the deeds have fixed recipes, and those that were fixed are the same. -/
structure FixedBy (deeds : List Deed) (f f' : Fixture) : Prop where
  isFixed_iff (key : Key) : f'.isFixed key ↔ f.isFixed key ∨ ∃ deed ∈ deeds, deed.fixes key
  find?_eq {key : Key} {recipe : Recipe} :
    f.recipes.find? key = some recipe → recipe.frozen → f'.recipes.find? key = some recipe
  isSome {key : Key} : (f.recipes.find? key).isSome → (f'.recipes.find? key).isSome

namespace FixedBy

variable {deeds later : List Deed} {deed : Deed} {f f' f'' : Fixture}

/-- Recipes are as they were, and nothing says otherwise. -/
theorem of_eq (hrecipes : f'.recipes = f.recipes)
    (hnone : ∀ deed ∈ deeds, ∀ key, deed.fixes key = false) : FixedBy deeds f f' where
  isFixed_iff key := by
    have hidle : ¬∃ deed ∈ deeds, deed.fixes key := by
      rintro ⟨deed, hdeed, hfixes⟩
      rw [hnone deed hdeed key] at hfixes
      cases hfixes
    simp [Fixture.isFixed, hrecipes, hidle]
  find?_eq hrecipe _ := by rwa [hrecipes]
  isSome hsome := by rwa [hrecipes]

theorem trans (h : FixedBy deeds f f') (h' : FixedBy later f' f'') :
    FixedBy (deeds ++ later) f f'' where
  isFixed_iff key := by
    rw [h'.isFixed_iff, h.isFixed_iff, or_assoc]
    simp only [List.mem_append, or_and_right, exists_or]
  find?_eq hrecipe hfrozen := h'.find?_eq (h.find?_eq hrecipe hfrozen) hfrozen
  isSome hsome := h'.isSome (h.isSome hsome)

/-- The recipe for a key is fixed, if there is one. -/
theorem freeze {key : Key}
    (hdeed : ∀ other, deed.fixes other ↔ other = key ∧ (f.recipes.find? key).isSome) :
    FixedBy [deed] f (f.freeze key) where
  isFixed_iff other := by simp [Fixture.isFixed_freeze, hdeed]
  find?_eq {other recipe} hrecipe hfrozen := by
    obtain ⟨target, factory, share, arguments, lifetime, frozen⟩ := recipe
    obtain rfl : frozen = true := hfrozen
    simp [Fixture.find?_freeze, hrecipe]
  isSome hsome := by simpa [Fixture.find?_freeze] using hsome

/-- An instance has been created, and the recipe of its type is fixed, if there is one. -/
theorem created {command : Command} {target : TypeId} (htarget : command.creates? = some target)
    (hrecipes : f'.recipes = (f.freeze (.of target)).recipes) (before : Fixture) (reply : Reply) :
    FixedBy [.answered command before (.ok reply) f'] f f' := by
  have hdeed (other : Key) : (Deed.answered command before (.ok reply) f').fixes other ↔
      other = .of target ∧ (f.recipes.find? (.of target)).isSome := by
    rw [Deed.fixes, htarget, hrecipes, Fixture.find?_freeze]
    simp only [Option.map_some, Option.isSome_map, Bool.and_eq_true, decide_eq_true_eq,
      Option.some.injEq]
    constructor
    · rintro ⟨rfl, hsome⟩
      exact ⟨rfl, hsome⟩
    · rintro ⟨rfl, hsome⟩
      exact ⟨rfl, hsome⟩
  have hfrozen : FixedBy [] (f.freeze (.of target)) f' := .of_eq hrecipes (by simp)
  exact (FixedBy.freeze hdeed).trans hfrozen

/-- A recipe that is not fixed is written. -/
theorem insert {command : Command} {key : Key} {recipe : Recipe}
    (hrewrites : command.Rewrites key ((f.recipes.find? key).getD { target := key }) recipe)
    (hrecipes : f'.recipes = f.recipes.insert key recipe)
    (hnone : ∀ other, deed.fixes other = false) : FixedBy [deed] f f' := by
  obtain ⟨hbefore, hafter⟩ := hrewrites.frozen_eq
  constructor
  · intro other
    by_cases hkey : key = other
    · subst hkey
      cases hrecipe : f.recipes.find? key <;> simp_all [Fixture.isFixed]
    · simp [Fixture.isFixed, hrecipes, Table.find?_insert, hkey, hnone]
  · intro other old hold hfrozen
    have hkey : key ≠ other := by
      rintro rfl
      rw [hold, Option.getD_some, hfrozen] at hbefore
      cases hbefore
    rw [hrecipes, Table.find?_insert_of_ne _ _ hkey, hold]
  · intro other hsome
    rw [hrecipes, Table.find?_insert]
    split
    · rfl
    · exact hsome

end FixedBy

/-- As long as nothing is torn down, the deeds since `w` have fixed recipes. -/
def Fixes (w w' : World (E × List Deed)) : Prop :=
  ∃ new, w'.deeds = w.deeds ++ new ∧
    ((∀ deed ∈ new, deed.isReset = false) → FixedBy new w.fixture w'.fixture)

namespace Fixes

variable {w w' w'' : World (E × List Deed)}

theorem of_eq (hdeeds : w'.deeds = w.deeds) (hrecipes : w'.fixture.recipes = w.fixture.recipes) :
    Fixes w w' :=
  ⟨[], by rw [hdeeds, List.append_nil], fun _ => .of_eq hrecipes (by simp)⟩

theorem trans (h : Fixes w w') (h' : Fixes w' w'') : Fixes w w'' := by
  obtain ⟨new, hdeeds, hfixed⟩ := h
  obtain ⟨new', hdeeds', hfixed'⟩ := h'
  refine ⟨new ++ new', by rw [hdeeds', hdeeds, List.append_assoc], fun hreset => ?_⟩
  obtain ⟨hnew, hnew'⟩ := List.forall_mem_append.mp hreset
  exact (hfixed hnew).trans (hfixed' hnew')

/-- A deed is written down. -/
theorem concat {deed : Deed} (h : Fixes w w') (hdeeds : w''.deeds = w'.deeds ++ [deed])
    (hfixed : deed.isReset = false → FixedBy [deed] w'.fixture w''.fixture) : Fixes w w'' :=
  h.trans ⟨[deed], hdeeds, fun hreset => hfixed (hreset deed List.mem_cons_self)⟩

/-- A deed is written down that fixes nothing. -/
theorem note {deed : Deed} (h : Fixes w w') (hnone : ∀ key, deed.fixes key = false) :
    Fixes w (w'.note deed) :=
  h.concat (deeds_note _ _) fun _ => .of_eq rfl (by simpa using hnone)

end Fixes

/-! ## Recipes along runs -/

theorem ledger_fixes : Ledger (fun _ => Ended (Fixes (E := E))) Fixes where
  trans := Fixes.trans
  alike h := .of_eq h.deeds h.recipes
  created {w started ended _ _ answer} _ halike hsupplies hended := by
    obtain ⟨done, hdone, rfl⟩ := hended.exists_done
    rw [hsupplies]
    exact ((Fixes.of_eq halike.deeds halike.recipes).trans hdone).note fun key => by
      cases answer <;> rfl
  failed {w started ended _ _ e} _ halike _ hended := by
    obtain ⟨done, hdone, rfl⟩ := hended.exists_done
    exact ((Fixes.of_eq halike.deeds halike.recipes).trans hdone).note fun key => rfl
  supplied {w started ended w' key _ datum} hfactory halike hsupplies hended hsame := by
    obtain ⟨done, ⟨new, hdeeds, hfixed⟩, rfl⟩ := hended.exists_done
    rw [hsupplies] at hsame
    -- Without a reset, the recipe is still there when its factory has come to its end.
    refine ⟨new ++ [.ran (some key) (.ok datum)], ?_, fun hreset => ?_⟩
    · show w'.deeds = _
      rw [hsame.deeds, deeds_note, hdeeds, halike.deeds, List.append_assoc]
    · obtain ⟨hnew, -⟩ := List.forall_mem_append.mp hreset
      have hstarted : FixedBy [] w.fixture started.fixture := .of_eq halike.recipes (by simp)
      have hended : FixedBy [] done.fixture w'.fixture := .of_eq hsame.recipes (by simp)
      have hdone := (hstarted.trans (hfixed hnew)).trans hended
      rw [List.nil_append, List.append_nil] at hdone
      have hsome : (w.fixture.recipes.find? key).isSome := by
        unfold Fixture.hasFactory at hfactory
        cases hrecipe : w.fixture.recipes.find? key with
        | none => rw [hrecipe] at hfactory; cases hfactory
        | some _ => rfl
      refine hdone.trans (.freeze fun other => ?_)
      simp [Deed.fixes, hdone.isSome hsome, eq_comm]

/-- A command that registers something, or fails to. -/
theorem Fixes.registered {catalog : Catalog E} {command : Command} {w w' : World (E × List Deed)}
    {answer : Except Error Reply} (hdirect : command.isDirect)
    (h : Registered catalog.watched command w (answer, w')) :
    Fixes w (w'.note (.answered command w.fixture answer w'.fixture)) := by
  have hdeeds := Registered.deeds_eq h
  have hnone (key : Key) : (Deed.answered command w.fixture answer w'.fixture).fixes key = false := by
    have hcreates : command.creates? = none := by cases command <;> first | rfl | cases hdirect
    cases answer <;> simp [Deed.fixes, hcreates]
  have hsame (hrecipes : w'.fixture.recipes = w.fixture.recipes) :
      Fixes w (w'.note (.answered command w.fixture answer w'.fixture)) :=
    (Fixes.of_eq hdeeds hrecipes).note hnone
  cases h with
  | found _ => exact hsame rfl
  | operated _ _ => exact hsame (Fixture.recipes_configured _)
  | refused _ _ => exact hsame rfl
  | rewritten _ hrewrites =>
    exact ⟨[_], by rw [deeds_note, hdeeds], fun _ => .insert hrewrites (Fixture.recipes_configured _) hnone⟩
  | frozen => exact hsame rfl

theorem observed_fixes (catalog : Catalog E) : Observed catalog (Fixes (E := E)) where
  trans := Fixes.trans
  outside h := .of_eq h.2 (by rw [h.1.fixture])
  answered {run w w' command answer} hends hperform := by
    have hanswered : Ledger.Answered catalog Fixes command w _ _ :=
      ledger_fixes.answered fun id started _ => hends id started
    rw [hperform] at hanswered
    cases hanswered with
    | registered hdirect _ h => exact .registered hdirect h
    | reset hreset =>
      subst hreset
      exact ⟨[_], rfl, fun hreset => absurd (hreset _ List.mem_cons_self) (by simp [Deed.isReset])⟩
    | failed _ h => exact h.note fun _ => rfl
    | created htarget h hdeeds hrecipes _ =>
      exact h.concat (by rw [deeds_note, hdeeds]) fun _ => .created htarget hrecipes _ _
    | resolved hcommand h hdeeds hfixture =>
      subst hcommand
      exact (h.trans (.of_eq hdeeds (by rw [hfixture]))).note fun _ => rfl
  starts hends hstarts := ledger_fixes.starts (fun id started _ => hends id started) hstarts

/-! ## What follows -/

section Telling

variable {catalog : Catalog E} {run : Runner (E × List Deed)} {w w' : World (E × List Deed)}

/-- **Which recipes are fixed can be read off the log.** -/
theorem Reachable.isFixed_iff (hw : Reachable catalog w)
    (hreset : ∀ deed ∈ w.deeds, deed.isReset = false) (key : Key) :
    w.fixture.isFixed key ↔ ∃ deed ∈ w.deeds, deed.fixes key := by
  obtain ⟨start, ⟨⟨options, hfixture⟩, hdeeds⟩, hleads⟩ := hw
  obtain ⟨new, hnew, hfixed⟩ := (observed_fixes catalog).leads hleads
  rw [hdeeds, List.nil_append] at hnew
  rw [hnew] at hreset ⊢
  rw [(hfixed hreset).isFixed_iff, hfixture]
  simp [Fixture.isFixed, Fixture.new, Table.find?, Table.find]

/-- A command that does not create an instance leaves it to factories to fix recipes. -/
theorem fixedBy_perform (hrun : Scripted catalog run) {command : Command}
    {answer : Except Error Reply} (hreset : command ≠ .reset)
    (hcreates : command.creates? = none ∨ ∃ e, answer = .error e)
    (h : w.perform catalog.watched run command = (answer, w')) :
    ∃ nested, w'.deeds = w.deeds ++ nested ∧
      (∀ deed ∈ nested, Nested catalog run command w deed) ∧
      ((∀ deed ∈ nested, deed.isReset = false) → FixedBy nested w.fixture w'.fixture) := by
  obtain ⟨nested, hdeeds, hnested⟩ := delegates_perform hrun command w
  have hends := (observed_fixes catalog).ends hrun
  obtain ⟨new, hnew, hfixed⟩ := (observed_fixes catalog).answered hends h
  rw [h] at hdeeds
  refine ⟨nested, hdeeds, hnested, fun hnone => ?_⟩
  rw [deeds_note, hdeeds, List.append_assoc] at hnew
  obtain rfl := List.append_cancel_left hnew
  have hidle (key : Key) :
      (Deed.answered command w.fixture answer w'.fixture).fixes key = false := by
    rcases hcreates with hcreates | ⟨e, rfl⟩
    · cases answer <;> simp [Deed.fixes, hcreates]
    · rfl
  have hcommand : (Deed.answered command w.fixture answer w'.fixture).isReset = false := by
    cases command <;> first | rfl | exact absurd rfl hreset
  have hboth := hfixed (List.forall_mem_append.mpr ⟨hnone, by simpa using hcommand⟩)
  refine ⟨fun key => ?_, hboth.find?_eq, hboth.isSome⟩
  rw [← fixture_note, hboth.isFixed_iff]
  simp [or_and_right, exists_or, hidle]

/-- **When a factory has made a value for a parameter, its recipe is fixed.** -/
theorem Produced.isFixed (hrun : Scripted catalog run) {key : Key} {value : Stored}
    (h : Produced catalog.watched run key w (.ok (some value), w'))
    (hreset : ∀ deed ∈ w'.deeds, deed.isReset = false) : w'.fixture.isFixed key := by
  have hended {recipe : Recipe} {factory : Factory} {entered ended : World (E × List Deed)}
      {datum : Datum} (hrecipe : w.fixture.recipes.find? key = some recipe)
      (henter : w.enter key = .ok entered) (hrun' : run factory.id entered = (.ok datum, ended))
      (hdeeds : w'.deeds = ended.deeds) : (ended.fixture.recipes.find? key).isSome := by
    have hends := (observed_fixes catalog).ends hrun factory.id entered
    rw [hrun'] at hends
    obtain ⟨done, ⟨new, hnew, hfixed⟩, rfl⟩ := hends.exists_done
    obtain ⟨-, rfl⟩ := enter_eq_ok_iff.mp henter
    refine (hfixed fun deed hdeed => hreset deed ?_).isSome (by simp [mapFixture, hrecipe])
    rw [hdeeds, deeds_note, hnew]
    exact List.mem_append_left _ (List.mem_append_right _ hdeed)
  cases h with
  | transient hrecipe _ _ henter hrun' =>
    have hsome := hended hrecipe henter hrun' rfl
    exact Fixture.isFixed_freeze.mpr (.inr ⟨rfl, hsome⟩)
  | singleton hrecipe _ _ henter hrun' =>
    have hsome := hended hrecipe henter hrun' rfl
    exact Fixture.isFixed_freeze.mpr (.inr ⟨rfl, hsome⟩)

/-- A parameter is said to have received the product of a factory only if the factory has just made
it. -/
theorem Resolved.produced {target : TypeId} {explicit : Arguments} {param : Param}
    {used used' : List Bool} {injection : Injection}
    (h : Resolved catalog.watched run target explicit param used w (.ok (injection, used'), w'))
    (hsource : injection.source = .factory) :
    ∃ value, Produced catalog.watched run param.key.unnamed w (.ok (some value), w') := by
  cases h with
  | explicit _ => cases hsource
  | provided _ h =>
    cases h with
    | @registered _ origin _ => cases origin <;> cases hsource
    | made _ h => exact ⟨_, h⟩
    | fellBack _ _ h => cases h <;> cases hsource

/-- Commands that would change a fixed recipe are refused, and nothing happens. -/
theorem perform_of_frozen (catalog : Catalog E) (run : Runner E) {w : World E} {type : TypeId}
    {recipe : Recipe} (hrecipe : w.fixture.recipes.find? (.of type) = some recipe)
    (hfrozen : recipe.frozen) (lifetime : Lifetime) (id : FactoryId) (arguments : Arguments) :
    w.perform catalog run (.addType type lifetime id) =
        (.error (.invalidArgument (.frozenRecipe recipe.target)), w) ∧
      w.perform catalog run (.setArguments type arguments) =
        (.error (.invalidArgument (.frozenRecipe recipe.target)), w) := by
  have hchange (f : Recipe → Recipe) :
      recipe.change f = .error (.invalidArgument (.frozenRecipe recipe.target)) := if_pos hfrozen
  constructor
  · simp only [perform, addType, changeRecipe, Fixture.recipe?, hrecipe, Option.getD_some,
      Recipe.setFactory, hchange]
    rfl
  · simp only [perform, setArguments, changeRecipe, Fixture.recipe?, hrecipe, Option.getD_some,
      Recipe.setArguments, hchange]
    rfl

end Telling

/-- **Recipes stay as they are once they are fixed.** In a run without a reset the recipe for a key is
fixed exactly when the log says so: when its type has been created while there was a recipe, or its
factory has made a value for a parameter. From then on it is the same in all worlds that come up. A
command that fails, or that creates nothing, fixes only what factories that it starts have fixed; a
parameter that receives the product of a factory has the recipe fixed at once, whatever becomes of the
construction. Who would change a fixed recipe is refused, and nothing happens at all. -/
theorem recipes_stay_fixed (catalog : Catalog E) :
    (∀ w, Reachable catalog w → (∀ deed ∈ w.deeds, deed.isReset = false) → ∀ key,
      (w.fixture.isFixed key ↔ ∃ deed ∈ w.deeds, deed.fixes key)) ∧
    (∀ w w', Reachable catalog w → Leads catalog w w' →
      (∀ deed ∈ w'.deeds, deed.isReset = false) → ∀ key recipe,
        w.fixture.recipes.find? key = some recipe → recipe.frozen →
        w'.fixture.recipes.find? key = some recipe) ∧
    (∀ run, Scripted catalog run → ∀ w command answer w', command ≠ .reset →
      (command.creates? = none ∨ ∃ e, answer = .error e) →
      w.perform catalog.watched run command = (answer, w') →
      ∃ nested, w'.deeds = w.deeds ++ nested ∧
        (∀ deed ∈ nested, Nested catalog run command w deed) ∧
        ((∀ deed ∈ nested, deed.isReset = false) → ∀ key,
          (w'.fixture.isFixed key ↔ w.fixture.isFixed key ∨ ∃ deed ∈ nested, deed.fixes key))) ∧
    (∀ run, Scripted catalog run → ∀ target explicit param used injection used' w w',
      Resolved catalog.watched run target explicit param used w (.ok (injection, used'), w') →
      injection.source = .factory → (∀ deed ∈ w'.deeds, deed.isReset = false) →
      w'.fixture.isFixed param.key.unnamed) ∧
    (∀ run (w : World (E × List Deed)) type recipe,
      w.fixture.recipes.find? (.of type) = some recipe → recipe.frozen →
      ∀ lifetime id arguments,
        w.perform catalog.watched run (.addType type lifetime id) =
            (.error (.invalidArgument (.frozenRecipe recipe.target)), w) ∧
          w.perform catalog.watched run (.setArguments type arguments) =
            (.error (.invalidArgument (.frozenRecipe recipe.target)), w)) := by
  refine ⟨fun w hw hreset => hw.isFixed_iff hreset, ?_, ?_, ?_, ?_⟩
  · intro w w' _ hleads hreset key recipe hrecipe hfrozen
    obtain ⟨new, hdeeds, hfixed⟩ := (observed_fixes catalog).leads hleads
    refine (hfixed fun deed hdeed => hreset deed ?_).find?_eq hrecipe hfrozen
    rw [hdeeds]
    exact List.mem_append_right _ hdeed
  · intro run hrun w command answer w' hreset hcreates h
    obtain ⟨nested, hdeeds, hnested, hfixed⟩ := fixedBy_perform hrun hreset hcreates h
    exact ⟨nested, hdeeds, hnested, fun hnone => (hfixed hnone).isFixed_iff⟩
  · intro run hrun target explicit param used injection used' w w' h hsource hreset
    obtain ⟨value, hproduced⟩ := Resolved.produced h hsource
    exact Produced.isFixed hrun hproduced hreset
  · exact fun run w type recipe hrecipe hfrozen lifetime id arguments =>
      perform_of_frozen catalog.watched run hrecipe hfrozen lifetime id arguments

/-- A service that is not created for want of a number, after a factory has made its tool. -/
theorem recipes_stay_fixed_tool :
    let tool : TypeId := ⟨"Tool"⟩
    let number : TypeId := ⟨"Number"⟩
    let service : TypeId := ⟨"Service"⟩
    let param : Param := .concrete "tool" tool
    let catalog : Catalog Unit := ⟨id, fun _ => .null, fun _ =>
      [.ofFunction { name := "new", params := [param, .value "number" number] } fun _ => .ok .null]⟩
    let run := obeying catalog idle (fun _ => []) .null
    let start : World (Unit × List Deed) := { surroundings := ((), []) }
    let ready := after catalog run start (.addType tool .transient ⟨0⟩)
    let command : Command := .createBySignature service (.ofTypes [tool, number])
    let failed := after catalog run ready command
    let again := after catalog run failed (.addType tool .singleton ⟨1⟩)
    let recipe : Recipe := { target := .of tool, factory := some ⟨⟨0⟩, tool⟩, frozen := true }
    ready.fixture.isFixed (.of tool) = false ∧
    (failed.fixture.isFixed (.of tool) ∧ ∃ deed ∈ failed.deeds, deed.fixes (.of tool)) ∧
    (∃ nested, (ready.perform catalog.watched run command).2.deeds = ready.deeds ++ nested ∧
      ∃ deed ∈ nested, deed.fixes (.of tool)) ∧
    (ready.resolveArgument catalog.watched run service {} param []).2.fixture.isFixed (.of tool) ∧
    (failed.perform catalog.watched run (.addType tool .singleton ⟨1⟩)).1 =
      .error (.invalidArgument (.frozenRecipe (.of tool))) ∧
    again.fixture.recipes.find? (.of tool) = some recipe := by
  intro tool number service param catalog run start ready command failed again recipe
  have hrun : Scripted catalog run := (scripted_idle catalog).obeying _ _
  have hready : Reachable catalog ready := (Fresh.reachable ⟨⟨{}, rfl⟩, rfl⟩).after hrun _
  have hfailed : Reachable catalog failed := hready.after hrun command
  have hreset : ∀ deed ∈ again.deeds, deed.isReset = false := by decide +kernel
  have hfixed : failed.fixture.isFixed (.of tool) := by decide +kernel
  have hbefore : ready.fixture.isFixed (.of tool) = false := by decide +kernel
  have hrecipe : failed.fixture.recipes.find? (.of tool) = some recipe := by rfl
  have hleads : Leads catalog failed again := leads_after hrun failed _
  obtain ⟨htells, hstays, hcommands, hparams, hrefuses⟩ := recipes_stay_fixed catalog
  have herror : ready.perform catalog.watched run command =
      (.error (.unresolvableParameter service "number" (.of number)),
        (ready.perform catalog.watched run command).2) := by
    rfl
  have hresolved := resolved catalog.watched run service {} param [] ready
  have hinjected : ready.resolveArgument catalog.watched run service {} param [] =
      (.ok (⟨"tool", .of tool, .factory, .value tool .null⟩, []),
        (ready.resolveArgument catalog.watched run service {} param []).2) := by
    rfl
  rw [hinjected] at hresolved
  obtain ⟨nested, hdeeds, -, hnested⟩ :=
    hcommands run hrun ready command _ _ (by simp [command]) (.inr ⟨_, rfl⟩) herror
  have hnone : ∀ deed ∈ nested, deed.isReset = false := by
    refine fun deed hdeed => hreset deed ?_
    show deed ∈ (ready.perform catalog.watched run command).2.deeds ++ _ ++ _
    rw [hdeeds]
    simp [hdeed]
  refine ⟨hbefore, ⟨hfixed, ?_⟩, ⟨nested, hdeeds, ?_⟩, ?_, ?_, ?_⟩
  · exact (htells failed hfailed (by decide +kernel) (.of tool)).mp hfixed
  · have hnow := (hnested hnone (.of tool)).mp hfixed
    rw [hbefore] at hnow
    exact hnow.resolve_left (by simp)
  · exact hparams run hrun _ _ param [] _ _ ready _ hresolved rfl (by decide +kernel)
  · rw [(hrefuses run failed tool recipe hrecipe rfl .singleton ⟨1⟩ {}).1]
  · exact hstays failed again hfailed hleads hreset _ recipe hrecipe rfl

end Watched

end World

end TestDoubles
