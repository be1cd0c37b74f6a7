import TestDoubles.Proofs.Run.Kept

/-!
# What holds of all recipes

Recipes are written in three places: when a factory is registered, when arguments are stored and when a
recipe is fixed. A property that these changes do not destroy holds of all recipes in all worlds that
come up in runs.

- `World.Recipes` says that a property holds of all recipes of a fixture.
- `Recipe.Invariant` is what it has to satisfy, and `World.Reachable.recipes` what follows.
-/

namespace TestDoubles

/-- A property of recipes that changes to a recipe do not destroy. -/
structure Recipe.Invariant {E : Type} (conduct : Conduct E) (p : Key → Recipe → Prop) : Prop where
  missing (key : Key) : p key { target := key }
  rewrites {s : E} {command : Command} {key : Key} {recipe changed : Recipe} :
    conduct.admits s command → command.Rewrites key recipe changed → p key recipe → p key changed
  frozen {key : Key} {recipe : Recipe} : p key recipe → p key { recipe with frozen := true }

namespace World

variable {E : Type}

/-- The property holds of every recipe. -/
def Recipes (p : Key → Recipe → Prop) (w : World E) : Prop :=
  ∀ key recipe, w.fixture.recipes.find? key = some recipe → p key recipe

namespace Recipes

variable {p : Key → Recipe → Prop} {w w' : World E}

theorem of_eq (h : Recipes p w) (hrecipes : w'.fixture.recipes = w.fixture.recipes) :
    Recipes p w' := by
  rwa [Recipes, hrecipes]

/-- A recipe is written. -/
theorem insert (h : Recipes p w) {key : Key} {recipe : Recipe} (hrecipe : p key recipe)
    (hrecipes : w'.fixture.recipes = w.fixture.recipes.insert key recipe) : Recipes p w' := by
  intro other found hfound
  rw [hrecipes, Table.find?_insert] at hfound
  by_cases hkey : key = other
  · subst hkey
    rw [if_pos rfl] at hfound
    exact Option.some.inj hfound ▸ hrecipe
  · rw [if_neg hkey] at hfound
    exact h other found hfound

/-- A recipe is fixed, if there is one. -/
theorem freeze (h : Recipes p w)
    (hfrozen : ∀ {key recipe}, p key recipe → p key { recipe with frozen := true }) (key : Key) :
    Recipes p (w.mapFixture (Fixture.freeze · key)) := by
  rcases w.fixture.freeze_cases key with heq | ⟨recipe, hrecipe, heq⟩
  · rw [mapFixture, heq]
    exact h
  · rw [mapFixture, heq]
    exact h.insert (hfrozen (h key recipe hrecipe)) rfl

/-- The recipe that is there or, if there is none, an empty one. -/
theorem getD (h : Recipes p w) (hmissing : ∀ key, p key { target := key }) (key : Key) :
    p key ((w.fixture.recipes.find? key).getD { target := key }) := by
  cases hrecipe : w.fixture.recipes.find? key with
  | none => exact hmissing key
  | some recipe => exact h key recipe hrecipe

/-- Without recipes there is nothing to show. -/
theorem of_new {options : Options} (h : w.fixture = .new options) : Recipes p w := by
  intro key recipe hrecipe
  rw [h] at hrecipe
  cases hrecipe

/-- **Runs do not destroy what changes to a recipe do not destroy.** -/
theorem kept (catalog : Catalog E) {conduct : Conduct E}
    (hinvariant : Recipe.Invariant conduct p) :
    Kept catalog conduct fun w w' => Recipes p w → Recipes p w' where
  refl _ h := h
  trans h₁ h₂ h := h₂ (h₁ h)
  reports hpasses _ h := h.of_eq (by rw [hpasses.fixture])
  outside hpasses _ h := h.of_eq (by rw [hpasses.fixture])
  answered _ _ _ hperformed _ h := hperformed h
  operated _ _ h := h
  rewritten {_ _ key _} hadmits hrewrites h :=
    h.insert (hinvariant.rewrites hadmits hrewrites (h.getD hinvariant.missing key)) rfl
  configured _ h := h
  reset _ _ := of_new rfl
  bracket henter hdone h := by
    obtain ⟨-, rfl⟩ := enter_eq_ok_iff.mp henter
    exact hdone h
  failed hcalled hdone _ h := by
    obtain ⟨-, rfl⟩ := enter_eq_ok_iff.mp hcalled.enters
    exact hdone h
  unshared hcalled _ hdone _ h := by
    obtain ⟨-, rfl⟩ := enter_eq_ok_iff.mp hcalled.enters
    exact hdone h
  shared hcalled _ hdone _ h := by
    obtain ⟨-, rfl⟩ := enter_eq_ok_iff.mp hcalled.enters
    exact hdone h
  mocked _ h := h
  unbuilt _ _ h := h
  recorded _ _ hfilled _ h := hfilled h
  frozen _ key h := h.freeze hinvariant.frozen key
  built _ h := h

end Recipes

/-- **It holds of all recipes in all worlds that come up in runs.** -/
theorem Reachable.recipes {catalog : Catalog E} {conduct : Conduct E} {p : Key → Recipe → Prop}
    (hinvariant : Recipe.Invariant conduct p) {w : World E} (hw : Reachable catalog conduct w) :
    Recipes p w := by
  refine (Recipes.kept catalog hinvariant).reachable ?_ ?_ hw
  · intro w w' key henter h
    obtain ⟨-, rfl⟩ := enter_eq_ok_iff.mp henter
    exact h
  · intro start hfresh
    obtain ⟨⟨options, hoptions⟩, -⟩ := hfresh
    exact .of_new hoptions

end World

end TestDoubles
