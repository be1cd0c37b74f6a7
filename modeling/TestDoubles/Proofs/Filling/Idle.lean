import TestDoubles.Proofs.Filling.Greedy

/-!
# Commands that start no factory

If no factory is registered for a type and for the parameters of its constructors, none is started
while the type is created. Such a command depends on no factory, so what holds of it when all factories
fail holds of it in any case; and then the only thing that it can do to the registry is to create
doubles.

- `Conduct.idle` is what factories that fail at once are held to.
- `World.perform_idle` replaces factories that are not started by these.
- `World.not_starts` shows that without factories none is started.
-/

namespace TestDoubles

/-- The type that a command builds an instance of, if it does. -/
def Command.builds? : Command → Option TypeId
  | .create type _ | .createBySignature type _ | .resolve type _ _ => some type
  | _ => none

variable {E : Type}

/-- No commands are given, and no factory comes to a product. -/
def Conduct.idle : Conduct E where
  admits _ _ := False
  notes note _ _ := ∀ id datum, note ≠ .ended id (.ok datum)

namespace World

theorem ends_idle {R : World E → World E → Prop} (hrefl : ∀ w, R w w) :
    Ends Conduct.idle R (idle (E := E)) := by
  intro id w
  refine ⟨w, w.surroundings, hrefl w, ?_, rfl⟩
  rintro _ _ ⟨⟩

section Commands

variable {catalog : Catalog E} {run : Runner E} {w : World E}

/-- Factories that are not started do not matter. -/
theorem perform_idle {command : Command}
    (h : ∀ id started, ¬Starts catalog run command w id started) :
    w.perform catalog run command = w.perform catalog idle command :=
  perform_congr fun id started hstarts => absurd hstarts (h id started)

/-! ## Without factories none is started -/

/-- Filling parameters without factories registers none; by induction on the parameters before. -/
theorem not_paramsStart {target : TypeId} {explicit : Arguments} {params : List Param}
    {used : List Bool} {id : FactoryId} {started : World E}
    (hfree : ∀ param ∈ params, w.fixture.hasFactory param.key.unnamed = false) :
    ¬ParamsStart catalog run target explicit params used w id started := by
  intro h
  induction h with
  | here _ _ hstarts =>
    have hnone := hfree _ List.mem_cons_self
    rw [hstarts.hasFactory] at hnone
    cases hnone
  | @there param params used used₁ w w₁ started id injection hfirst _ ih =>
    apply ih
    intro other hother
    have hnone := hfree other (List.mem_cons_of_mem _ hother)
    rcases unchanged_or_mocked (hfree param List.mem_cons_self) hfirst with ⟨rfl, -⟩ | ⟨mock, hcreate⟩
    · exact hnone
    · obtain ⟨-, rfl⟩ := Prod.mk.inj hcreate
      exact hnone

namespace FactoryFree

variable {target : TypeId} {signature : Option Signature} {id : FactoryId} {started : World E}

theorem not_resolveStarts (h : FactoryFree catalog target w.fixture) {explicit : Arguments} :
    ¬ResolveStarts catalog run target signature explicit w id started := by
  rintro ⟨hselect, hstarts⟩
  apply not_paramsStart (w := w.afterSelection _ _) _ hstarts
  exact h.params _ (Fixture.mem_of_select hselect)

theorem not_createStarts (h : FactoryFree catalog target w.fixture) {arguments : Option Arguments} :
    ¬CreateStarts catalog run target signature arguments w id started := by
  intro hstarts
  cases hstarts with
  | factory _ hrecipe hfactory _ =>
    have hnone := h.own
    rw [hasFactory_of_recipe hrecipe hfactory] at hnone
    cases hnone
  | resolved henter _ hstarts =>
    obtain ⟨-, rfl⟩ := enter_eq_ok_iff.mp henter
    have hfree : FactoryFree catalog target (w.mapFixture fun f =>
        { f with inProgress := f.inProgress ++ [.of target] }).fixture := ⟨h.own, h.params⟩
    exact hfree.not_resolveStarts hstarts

end FactoryFree

/-- **Without factories for the type that it builds, a command starts none.** -/
theorem not_starts {command : Command}
    (hfree : ∀ target, command.builds? = some target → FactoryFree catalog target w.fixture)
    (id : FactoryId) (started : World E) : ¬Starts catalog run command w id started := by
  intro h
  cases h with
  | create hstarts => exact (hfree _ rfl).not_createStarts hstarts
  | createBySignature hstarts => exact (hfree _ rfl).not_createStarts hstarts
  | resolve hstarts => exact (hfree _ rfl).not_resolveStarts hstarts

end Commands

end World

end TestDoubles
