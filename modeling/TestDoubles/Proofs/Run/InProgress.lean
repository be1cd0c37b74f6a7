import TestDoubles.Proofs.Run.Plain

/-!
# Keys in progress

While a key is being produced it is on the stack of keys in progress, from where a second request for
it is refused. The factory that produces it may ask for anything meanwhile, fail half-way, swallow
errors or tear the whole fixture down. Here it is shown that the stack survives all of that: whatever
is asked of a fixture leaves the stack as it was, or empty if the fixture was torn down on the way.

- `World.Balanced` is what everything keeps to, and `World.balanced` that it does.
- `World.inProgress_discipline` says what follows for requests and their errors.
-/

namespace TestDoubles

namespace World

variable {E : Type}

/-- Since `w`, the stack of keys in progress is as it was, or empty if a teardown was reported. -/
def Balanced (w w' : World E) : Prop :=
  ∃ new, w'.events = w.events ++ new ∧
    w'.fixture.inProgress = if new.any Event.isTeardown then [] else w.fixture.inProgress

/-- The error of a request that leads back to a key in progress. -/
def cycle (key : Key) (w : World E) : Error :=
  .circularDependency (.through (w.fixture.inProgress ++ [key]))

/-! ## The stack between requests -/

namespace Balanced

variable {w w' w'' : World E}

/-- Whatever reports no teardown and leaves the stack alone. -/
theorem of_eq {new : List Event} (hevents : w'.events = w.events ++ new)
    (hnew : ∀ event ∈ new, event.isTeardown = false)
    (hstack : w'.fixture.inProgress = w.fixture.inProgress) : Balanced w w' := by
  refine ⟨new, hevents, ?_⟩
  have hany : new.any Event.isTeardown = false := by simpa using hnew
  rw [hany, hstack]
  rfl

theorem refl (w : World E) : Balanced w w :=
  of_eq (List.append_nil _).symm (by simp) rfl

theorem trans (h : Balanced w w') (h' : Balanced w' w'') : Balanced w w'' := by
  obtain ⟨new, hevents, hstack⟩ := h
  obtain ⟨new', hevents', hstack'⟩ := h'
  refine ⟨new ++ new', by rw [hevents', hevents, List.append_assoc], ?_⟩
  rw [hstack', hstack, List.any_append]
  cases new.any Event.isTeardown <;> cases new'.any Event.isTeardown <;> rfl

/-- A key that was entered before is left again. -/
theorem bracket {entered : World E} {key : Key} (henter : w.enter key = .ok entered)
    (h : Balanced entered w') : Balanced w w'.leave := by
  obtain ⟨-, rfl⟩ := enter_eq_ok_iff.mp henter
  obtain ⟨new, hevents, hstack⟩ := h
  refine ⟨new, hevents, ?_⟩
  have hleft : w'.leave.fixture.inProgress = w'.fixture.inProgress.dropLast := rfl
  rw [hleft, hstack]
  -- After a teardown there is nothing to leave: dropping the last of no keys is harmless.
  cases new.any Event.isTeardown
  · exact List.dropLast_concat
  · rfl

/-- Nothing was in progress, so nothing is. -/
theorem nil (h : Balanced w w') (hw : w.fixture.inProgress = []) : w'.fixture.inProgress = [] := by
  obtain ⟨new, -, hstack⟩ := h
  rw [hstack, hw]
  exact ite_self []

end Balanced

section Runs

variable (catalog : Catalog E)

theorem plain_balanced (conduct : Conduct E) : Plain catalog conduct (Balanced (E := E)) where
  refl := Balanced.refl
  trans := Balanced.trans
  passes hpasses := by
    obtain ⟨hfixture, -, new, hevents, hnew⟩ := hpasses
    exact .of_eq hevents hnew (by rw [hfixture])
  bracket := Balanced.bracket
  registry _ := .of_eq (List.append_nil _).symm (by simp) rfl
  recipe _ _ _ := .of_eq (List.append_nil _).symm (by simp) rfl
  history _ _ _ := .of_eq (List.append_nil _).symm (by simp) rfl
  stage _ _ := .of_eq (List.append_nil _).symm (by simp) rfl
  reset _ := ⟨_, rfl, rfl⟩

theorem plain_inProgress (conduct : Conduct E) :
    Plain catalog conduct.withoutReset
      fun w w' => w'.fixture.inProgress = w.fixture.inProgress where
  refl _ := rfl
  trans h₁ h₂ := h₂.trans h₁
  passes hpasses := by rw [hpasses.fixture]
  bracket {w entered w' key} henter h := by
    obtain ⟨-, rfl⟩ := enter_eq_ok_iff.mp henter
    have hleft : w'.leave.fixture.inProgress = w'.fixture.inProgress.dropLast := rfl
    rw [hleft, h]
    exact List.dropLast_concat
  registry _ := rfl
  recipe _ _ _ := rfl
  history _ _ _ := rfl
  stage _ _ := rfl
  reset hadmits := absurd rfl hadmits.2

variable {catalog} {conduct : Conduct E} {run : Runner E}

/-- **Whatever is asked of a fixture is balanced**, answered or refused. -/
theorem balanced (hrun : Scripted catalog conduct run) {w : World E} {command : Command}
    (hadmits : conduct.admits w.surroundings command) :
    Balanced w (w.perform catalog run command).2 :=
  (plain_balanced catalog conduct).kept.perform
    ((plain_balanced catalog conduct).kept.ends hrun) hadmits

/-- Without a teardown, the stack of keys in progress is as it was. -/
theorem inProgress_perform (hrun : Scripted catalog conduct.withoutReset run) {w : World E}
    {command : Command} (hadmits : conduct.withoutReset.admits w.surroundings command) :
    (w.perform catalog run command).2.fixture.inProgress = w.fixture.inProgress :=
  (plain_inProgress catalog conduct).kept.perform
    ((plain_inProgress catalog conduct).kept.ends hrun) hadmits

/-- A key is entered only if it is not in progress. -/
theorem nodup_enter {w entered : World E} {key : Key} (henter : w.enter key = .ok entered)
    (h : w.fixture.inProgress.Nodup) : entered.fixture.inProgress.Nodup := by
  obtain ⟨hkey, rfl⟩ := enter_eq_ok_iff.mp henter
  refine List.nodup_append.mpr ⟨h, List.pairwise_singleton _ _, ?_⟩
  rintro a ha b hb rfl
  exact hkey (List.mem_singleton.mp hb ▸ ha)

/-- No key is in progress twice. -/
theorem Reachable.inProgress_nodup {w : World E} (hw : Reachable catalog conduct w) :
    w.fixture.inProgress.Nodup := by
  -- Only entering adds a key, and it looks for the key first; leaving and resetting only remove keys.
  have hplain : Plain catalog conduct fun w w' =>
      w.fixture.inProgress.Nodup → w'.fixture.inProgress.Nodup :=
    { refl := fun _ h => h
      trans := fun h₁ h₂ h => h₂ (h₁ h)
      passes := fun hpasses h => by rwa [hpasses.fixture]
      bracket := fun henter h hw => (h (nodup_enter henter hw)).sublist (List.dropLast_sublist _)
      registry := fun _ h => h
      recipe := fun _ _ _ h => h
      history := fun _ _ _ h => h
      stage := fun _ _ h => h
      reset := fun _ _ => List.nodup_nil }
  refine hplain.kept.reachable nodup_enter ?_ hw
  intro w hfresh
  obtain ⟨⟨options, hoptions⟩, -⟩ := hfresh
  rw [hoptions]
  exact List.nodup_nil

/-- Between the commands of a test nothing is in progress. -/
theorem AtRest.inProgress_eq_nil {w : World E} (hw : AtRest catalog conduct w) :
    w.fixture.inProgress = [] := by
  induction hw with
  | fresh h =>
    obtain ⟨⟨options, hoptions⟩, -⟩ := h
    rw [hoptions]
    rfl
  | step hrun _ hstep ih =>
    exact ((plain_balanced catalog conduct).kept.steps hrun (.single hstep)).nil ih

end Runs

/-! ## Requests for keys -/

section Requests

variable (catalog : Catalog E) (run : Runner E)

theorem message_cycle (key : Key) (w : World E) : (w.cycle key).message =
    "Circular dependency detected: " ++
      " -> ".intercalate ((w.fixture.inProgress ++ [key]).map Key.text) :=
  rfl

theorem enter_of_mem {key : Key} {w : World E} (h : key ∈ w.fixture.inProgress) :
    w.enter key = .error (w.cycle key) :=
  enter_eq_error_iff.mpr ⟨h, rfl⟩

theorem enter_of_not_mem {key : Key} {w : World E} (h : key ∉ w.fixture.inProgress) :
    ∃ entered, w.enter key = .ok entered ∧
      entered.fixture.inProgress = w.fixture.inProgress ++ [key] :=
  ⟨_, enter_eq_ok_iff.mpr ⟨h, rfl⟩, rfl⟩

/-- A type in progress is not created again, and nothing happens. -/
theorem create_of_mem {target : TypeId} {w : World E} (signature : Option Signature)
    (arguments : Option Arguments) (h : .of target ∈ w.fixture.inProgress) :
    w.create catalog run target signature arguments = (.error (w.cycle (.of target)), w) := by
  unfold create
  dsimp only
  rw [enter_of_mem h]

/-- The answer for any other type is the answer of what happens once it is in progress. -/
theorem create_of_enter {target : TypeId} {w entered : World E} (signature : Option Signature)
    (arguments : Option Arguments) (h : w.enter (.of target) = .ok entered) :
    (w.create catalog run target signature arguments).1 =
      (entered.createEntered catalog run target (.of target) signature arguments).1 := by
  unfold create
  dsimp only
  rw [h]
  dsimp only
  split <;> simp_all

/-- The factory of a key in progress is not run again, and nothing happens. -/
theorem produce_of_mem {key : Key} {w : World E} (hfactory : w.fixture.hasFactory key)
    (h : key ∈ w.fixture.inProgress) :
    w.produce catalog run key = (.error (w.cycle key), w) := by
  obtain ⟨recipe, hrecipe, hhas⟩ := Option.any_eq_true _ _ |>.mp hfactory
  obtain ⟨factory, hfactory⟩ := Option.isSome_iff_exists.mp hhas
  unfold produce
  rw [hrecipe]
  dsimp only
  rw [hfactory]
  dsimp only
  rw [enter_of_mem h]

/-- The factory of any other key is run, and its answer is the answer. -/
theorem produce_of_enter {key : Key} {w entered : World E} {recipe : Recipe} {factory : Factory}
    (hrecipe : w.fixture.recipes.find? key = some recipe) (hfactory : recipe.factory = some factory)
    (h : w.enter key = .ok entered) :
    (w.produce catalog run key).1 =
      (run factory.id entered).1.map fun datum => some (.value factory.product datum) := by
  unfold produce
  rw [hrecipe]
  dsimp only
  rw [hfactory]
  dsimp only
  rw [h]
  dsimp only
  split
  next e ended hrun => rw [hrun]; rfl
  next datum ended hrun => rw [hrun]; rfl

end Requests

/-- **The discipline of the stack.** No key is on it twice, not even inside factories; every command
leaves it as it was, or empty if the fixture was torn down on the way, and between commands it is
empty. A request for a key is refused as circular on its own account exactly when the key is on the
stack, with nothing done, and the error shows the stack and the key; so a test is never told of a
cycle on account of what failed before. -/
theorem inProgress_discipline (catalog : Catalog E) :
    (∀ w, Reachable catalog {} w → w.fixture.inProgress.Nodup) ∧
    (∀ run, Scripted catalog {} run → ∀ (w : World E) (command : Command),
      Balanced w (w.perform catalog run command).2) ∧
    (∀ run, Scripted catalog (Conduct.withoutReset {}) run →
      ∀ (w : World E) (command : Command), command ≠ .reset →
      (w.perform catalog run command).2.fixture.inProgress = w.fixture.inProgress) ∧
    (∀ w, AtRest catalog {} w → w.fixture.inProgress = [] ∧
      ∀ key, ∃ entered, w.enter key = .ok entered) ∧
    (∀ (run : Runner E) (w : World E) (key : Key), key ∈ w.fixture.inProgress →
      (∀ target signature arguments, key = .of target →
        w.create catalog run target signature arguments = (.error (w.cycle key), w)) ∧
      (w.fixture.hasFactory key → w.produce catalog run key = (.error (w.cycle key), w)) ∧
      (w.cycle key).message = "Circular dependency detected: " ++
        " -> ".intercalate ((w.fixture.inProgress ++ [key]).map Key.text)) ∧
    (∀ (run : Runner E) (w : World E) (key : Key), key ∉ w.fixture.inProgress →
      ∃ entered, w.enter key = .ok entered ∧
        entered.fixture.inProgress = w.fixture.inProgress ++ [key] ∧
        (∀ target signature arguments, key = .of target →
          (w.create catalog run target signature arguments).1 =
            (entered.createEntered catalog run target key signature arguments).1) ∧
        (∀ recipe factory, w.fixture.recipes.find? key = some recipe →
          recipe.factory = some factory → (w.produce catalog run key).1 =
            (run factory.id entered).1.map fun datum => some (.value factory.product datum))) := by
  refine ⟨?_, ?_, ?_, ?_, ?_, ?_⟩
  · exact fun w hw => hw.inProgress_nodup
  · exact fun run hrun w command => balanced hrun trivial
  · exact fun run hrun w command hreset => inProgress_perform hrun ⟨trivial, hreset⟩
  · intro w hw
    have hnil := hw.inProgress_eq_nil
    refine ⟨hnil, fun key => ?_⟩
    have hkey : key ∉ w.fixture.inProgress := by simp [hnil]
    obtain ⟨entered, henter, -⟩ := enter_of_not_mem hkey
    exact ⟨entered, henter⟩
  · intro run w key hkey
    refine ⟨?_, fun hfactory => produce_of_mem catalog run hfactory hkey, message_cycle key w⟩
    rintro target signature arguments rfl
    exact create_of_mem catalog run signature arguments hkey
  · intro run w key hkey
    obtain ⟨entered, henter, hstack⟩ := enter_of_not_mem hkey
    refine ⟨entered, henter, hstack, ?_, ?_⟩
    · rintro target signature arguments rfl
      exact create_of_enter catalog run signature arguments henter
    · intro recipe factory hrecipe hfactory
      exact produce_of_enter catalog run hrecipe hfactory henter

/-- A factory that creates its own type, seen from inside and from outside. -/
theorem inProgress_discipline_cyclic :
    let catalog : Catalog Unit := ⟨id, fun _ => .null, fun _ => []⟩
    let type : TypeId := ⟨"A"⟩
    let inner : Runner Unit := idle
    let run : Runner Unit := fun _ w =>
      let (answer, w) := w.perform catalog inner (.create type none)
      (answer.map fun _ => .null, w)
    let start : World Unit := { surroundings := () }
    let configured := (start.perform catalog run (.addType type .transient ⟨0⟩)).2
    ∃ started : World Unit, Starts catalog run (.create type none) configured ⟨0⟩ started ∧
      started.fixture.inProgress = [.of type] ∧ started.fixture.inProgress.Nodup ∧
      Balanced started (started.perform catalog inner (.create type none)).2 ∧
      (started.perform catalog inner (.create type none)).2.fixture.inProgress = [.of type] ∧
      (started.create catalog inner type none none).1 = .error (started.cycle (.of type)) ∧
      (started.cycle (.of type)).message = "Circular dependency detected: A -> A" ∧
      (configured.perform catalog run (.create type none)).2.fixture.inProgress = [] ∧
      ∃ entered, configured.enter (.of type) = .ok entered := by
  intro catalog type inner run start configured
  have hinner : Scripted catalog {} inner := scripted_idle catalog fun _ _ => trivial
  have hinner' : Scripted catalog (Conduct.withoutReset {}) inner :=
    scripted_idle catalog fun _ _ => trivial
  have hrun : Scripted catalog {} run := by
    refine .nest hinner fun id w => ?_
    refine ⟨(w.perform catalog inner (.create type none)).2, (), .single ?_, trivial, rfl⟩
    exact .command (.create type none) trivial fun _ _ => trivial
  have hstart : AtRest catalog {} start := .fresh ⟨⟨{}, rfl⟩, trivial⟩
  have hconfigured : AtRest catalog {} configured := by
    refine .step hrun hstart ?_
    exact .command (.addType type .transient ⟨0⟩) trivial fun _ _ => trivial
  obtain ⟨hnodup, hbalanced, hstack, hrest, hmem, hnot⟩ := inProgress_discipline catalog
  obtain ⟨hnil, hfree⟩ := hrest configured hconfigured
  obtain ⟨entered, henter, hentered, -⟩ := hnot run configured (.of type) (by simp [hnil])
  have hown : CreateStarts catalog run type none none configured (Factory.mk ⟨0⟩ type).id
      (entered.emit [.fromFactory (.of type)]) :=
    .factory henter rfl rfl rfl
  have hstarts := Starts.create hown
  have hreachable := hconfigured.reachable.leads (.single (.starts hrun trivial hstarts))
  have hinside : (entered.emit [.fromFactory (.of type)]).fixture.inProgress = [.of type] := by
    rw [show (entered.emit [.fromFactory (.of type)]).fixture = entered.fixture from rfl, hentered,
      hnil]
    rfl
  have hwithin := hmem inner (entered.emit [.fromFactory (.of type)]) (.of type) (by simp [hinside])
  refine ⟨_, hstarts, hinside, hnodup _ hreachable, hbalanced inner hinner _ _, ?_, ?_, ?_, ?_, ?_⟩
  · rw [hstack inner hinner' _ _ (by simp), hinside]
  · rw [hwithin.1 type none none rfl]
  · rw [hwithin.2.2, hinside]
    rfl
  · exact (hrest _ (.step hrun hconfigured
      (.command (.create type none) trivial fun _ _ => trivial))).1
  · exact hfree (.of type)

end World

end TestDoubles
