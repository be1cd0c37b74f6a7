import TestDoubles.Proofs.Registry.Index
import TestDoubles.Proofs.Run.Kept

/-!
# Relations between fixtures

Many relations between worlds are about the fixture alone and do not tell one command from another.
For these the elementary changes of a run are those of the single parts of a fixture, listed by
`World.Plain`: an operation on the registry, a recipe that is written, a construction that is recorded,
a stage, a reset. `World.Plain.kept` shows that nothing else has to be known.
-/

namespace TestDoubles

theorem Command.Operates.step {mockOf : TypeId → TypeId} {command : Command} {r : Registry}
    {next allocated : Nat} {change : Registry × List Event}
    (h : command.Operates mockOf r next allocated change) : Registry.Step mockOf r change.1 := by
  cases h with
  | getMock capability name => exact .getOrCreateMock r ⟨next⟩ capability name
  | getObject capability => exact .getOrCreateMock r ⟨next⟩ capability none
  | addCustomMock capability name => exact .addCustomMock r ⟨next⟩ capability name
  | useInstance capability ref => exact .useInstance r capability ref
  | useValue type datum => exact .insertValue r (.of type) (.value type datum)
  | combine capability other => exact .combine r ⟨next⟩ capability other

namespace World

variable {E : Type}

/-! ## Elementary changes of a fixture -/

/-- A relation that is kept by whatever changes a single part of a fixture. -/
structure Plain (catalog : Catalog E) (conduct : Conduct E) (R : World E → World E → Prop) :
    Prop where
  refl (w : World E) : R w w
  trans {w₁ w₂ w₃ : World E} : R w₁ w₂ → R w₂ w₃ → R w₁ w₃
  -- The fixture stays as it is.
  passes {w w' : World E} : w.Passes w' → R w w'
  -- A key was in progress meanwhile.
  bracket {w entered w' : World E} {key : Key} :
    w.enter key = .ok entered → R entered w' → R w w'.leave
  -- An operation on the registry.
  registry {w : World E} {r : Registry} : Registry.Step catalog.mockOf w.fixture.registry r →
    R w (w.mapFixture fun f => { f with registry := r })
  -- A recipe is written.
  recipe (w : World E) (key : Key) (recipe : Recipe) :
    R w (w.mapFixture fun f => { f with recipes := f.recipes.insert key recipe })
  -- A construction is recorded.
  history (w : World E) (key : Key) (construction : Construction) :
    R w (w.mapFixture fun f => { f with history := f.history.record key construction })
  -- The fixture moves on to another stage.
  stage (w : World E) (stage : Stage) : R w (w.mapFixture fun f => { f with stage := stage })
  -- The fixture is torn down.
  reset {w : World E} : conduct.admits w.surroundings .reset → R w w.reset

namespace Plain

variable {catalog : Catalog E} {conduct : Conduct E} {R : World E → World E → Prop}

theorem surroundings (hplain : Plain catalog conduct R) (w : World E) (s : E) :
    R w (w.mapSurroundings fun _ => s) :=
  hplain.passes ⟨rfl, Nat.le_refl _, [], (List.append_nil _).symm, by simp⟩

theorem emit (hplain : Plain catalog conduct R) (w : World E) {events : List Event}
    (h : ∀ event ∈ events, event.isTeardown = false) : R w (w.emit events) :=
  hplain.passes (passes_emit h)

theorem frozen (hplain : Plain catalog conduct R) (w : World E) (key : Key) :
    R w (w.mapFixture (Fixture.freeze · key)) := by
  rcases w.fixture.freeze_cases key with heq | ⟨recipe, -, heq⟩
  · rw [mapFixture, heq]
    exact hplain.refl w
  · rw [mapFixture, heq]
    exact hplain.recipe w key { recipe with frozen := true }

theorem setRegistry (hplain : Plain catalog conduct R) {w : World E} {r : Registry}
    {events : List Event} (hstep : Registry.Step catalog.mockOf w.fixture.registry r)
    (hevents : ∀ event ∈ events, event.isTeardown = false) : R w (w.setRegistry (r, events)) :=
  hplain.trans (hplain.registry hstep) (hplain.emit _ hevents)

theorem insertValue (hplain : Plain catalog conduct R) (w : World E) (key : Key)
    (value : Stored) : R w (w.insertValue catalog.mockOf key value) :=
  hplain.setRegistry (.insertValue _ key value)
    (Registry.isTeardown_insert catalog.mockOf w.fixture.registry _)

/-- An operation on the registry that may use a fresh object. -/
theorem onRegistry (hplain : Plain catalog conduct R) {α : Type}
    {operation : Registry → Ref → Registry.Outcome α} (w : World E)
    (hstep : ∀ r fresh, Registry.Step catalog.mockOf r (operation r fresh).registry)
    (hevents : ∀ r fresh, ∀ event ∈ (operation r fresh).events, event.isTeardown = false) :
    R w (w.onRegistry operation).2 := by
  have hallocated : R w w.allocate.2 :=
    hplain.passes ⟨rfl, Nat.le_succ _, [], (List.append_nil _).symm, by simp⟩
  refine hplain.trans hallocated ?_
  exact hplain.trans (hplain.registry (hstep w.fixture.registry ⟨w.allocated⟩))
    (hplain.emit _ (hevents w.fixture.registry ⟨w.allocated⟩))

/-- **A relation that changes of single parts keep to is kept by runs.** -/
theorem kept (hplain : Plain catalog conduct R) : Kept catalog conduct R where
  refl := hplain.refl
  trans := hplain.trans
  reports hpasses _ := hplain.passes hpasses
  outside hpasses _ := hplain.passes hpasses
  answered _ _ _ hperformed _ := hplain.trans hperformed (hplain.surroundings _ _)
  operated {w _ allocated _} _ hoperates := by
    have hallocated : R w { w with allocated := allocated } :=
      hplain.passes ⟨rfl, hoperates.le_allocated, [], (List.append_nil _).symm, by simp⟩
    exact hplain.trans hallocated (hplain.setRegistry hoperates.step hoperates.isTeardown)
  rewritten {w _ key recipe} _ _ := hplain.recipe w key recipe
  configured {w} _ := hplain.stage w .configured
  reset := hplain.reset
  bracket := hplain.bracket
  failed hcalled hdone _ :=
    hplain.bracket hcalled.enters (hplain.trans hdone (hplain.surroundings _ _))
  unshared hcalled _ hdone _ :=
    hplain.bracket hcalled.enters (hplain.trans hdone (hplain.surroundings _ _))
  shared hcalled _ hdone _ := by
    refine hplain.bracket hcalled.enters ?_
    exact hplain.trans (hplain.trans hdone (hplain.surroundings _ _)) (hplain.insertValue _ _ _)
  mocked {w key} _ :=
    hplain.onRegistry w (fun r fresh => .getOrCreateMock r fresh key.type key.name)
      (fun r fresh => Registry.isTeardown_getOrCreateMock catalog.mockOf r fresh key.type key.name)
  unbuilt _ _ := hplain.surroundings _ _
  recorded {_ _ w _ _ _ _ _ s} _ _ hfilled _ := by
    refine hplain.trans hfilled (hplain.trans (hplain.surroundings w s) ?_)
    exact hplain.trans (hplain.emit _ (by simp [Event.isTeardown])) (hplain.history _ _ _)
  frozen := hplain.frozen
  built w := hplain.stage w .constructed

end Plain

end World

end TestDoubles
