import TestDoubles.Proofs.Run.Reachable

/-!
# What commands uphold

A run is made of commands and of changes of the surroundings, and what a factory does is made of the
same. So a relation between worlds that every command upholds, from the moment in which it is given to
the one in which its answer is noted, is upheld by runs as soon as it is known that commands uphold it
whenever their factories do. This is the form of the argument for relations that do not hold in the
middle of a command, say because they compare the fixture with what has been noted.

- `World.Upheld` is what commands and surroundings have to satisfy.
- `World.Upheld.ends` and `World.Upheld.leads` carry it over to factories and to whole runs.
-/

namespace TestDoubles

namespace World

variable {E : Type}

/-- A relation that commands uphold, together with the note of their answers, whenever the factories
that they run do. -/
structure Upheld (catalog : Catalog E) (conduct : Conduct E) (R : World E → World E → Prop) :
    Prop where
  refl (w : World E) : R w w
  trans {w₁ w₂ w₃ : World E} : R w₁ w₂ → R w₂ w₃ → R w₁ w₃
  -- Something happens in the surroundings.
  outside {w w' : World E} :
    w.Passes w' → conduct.wanders w.surroundings w'.surroundings → R w w'
  -- A command has been answered, and its answer noted.
  answered {run : Runner E} {w w' : World E} {command : Command} {answer : Except Error Reply}
      {s : E} : Scripted catalog conduct run → Ends conduct R run →
    conduct.admits w.surroundings command → w.perform catalog run command = (answer, w') →
    conduct.notes (.answered command answer) w'.surroundings s → R w (w'.mapSurroundings fun _ => s)

namespace Upheld

variable {catalog : Catalog E} {conduct : Conduct E} {R : World E → World E → Prop}
  {run : Runner E} {w w' : World E}

theorem steps_of_ends (hupheld : Upheld catalog conduct R) (hrun : Scripted catalog conduct run)
    (hends : Ends conduct R run) (hsteps : Steps catalog conduct run w w') : R w w' := by
  induction hsteps with
  | refl => exact hupheld.refl w
  | tail _ hstep ih =>
    refine hupheld.trans ih ?_
    cases hstep with
    | perform hadmits hperform hnote => exact hupheld.answered hrun hends hadmits hperform hnote
    | outside hpasses hwanders => exact hupheld.outside hpasses hwanders

/-- **Factories uphold the relation**; by induction on how deep they are nested. -/
theorem ends (hupheld : Upheld catalog conduct R) (hrun : Scripted catalog conduct run) :
    Ends conduct R run := by
  induction hrun with
  | idle h =>
    intro id w
    obtain ⟨done, s, rfl, hnote⟩ := h id w
    exact ⟨w, s, hupheld.refl w, hnote⟩
  | nest hinner h ih =>
    -- The factory's own commands start factories that are nested less deep.
    intro id w
    obtain ⟨done, s, hsteps, hnote⟩ := h id w
    exact ⟨done, s, hupheld.steps_of_ends hinner ih hsteps, hnote⟩

/-- **Runs uphold the relation.** -/
theorem steps (hupheld : Upheld catalog conduct R) (hrun : Scripted catalog conduct run)
    (hsteps : Steps catalog conduct run w w') : R w w' :=
  hupheld.steps_of_ends hrun (hupheld.ends hrun) hsteps

/-- **If it leads to the starts of factories, it leads to all worlds that come up.** -/
theorem leads (hupheld : Upheld catalog conduct R)
    (hstarts : ∀ {run : Runner E} {w started : World E} {command : Command} {id : FactoryId},
      Ends conduct R run → Starts catalog run command w id started → R w started)
    (h : Leads catalog conduct w w') : R w w' := by
  induction h with
  | refl => exact hupheld.refl w
  | tail _ hmove ih =>
    refine hupheld.trans ih ?_
    cases hmove with
    | step hrun hstep => exact hupheld.steps hrun (.single hstep)
    | starts hrun _ h => exact hstarts (hupheld.ends hrun) h

end Upheld

end World

end TestDoubles
