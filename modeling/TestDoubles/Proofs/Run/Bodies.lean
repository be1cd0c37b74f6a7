import TestDoubles.Proofs.Run.Reachable

/-!
# Factories that are programs

A runner says of every factory what it comes to, so with a runner every command has an answer. Whether
one is ever given is another question: a factory may start others, and these start others again. Here
factories are programs, every one of which ends after finitely many commands; and a command has an
answer if all the factories come to their ends that are started while it is answered.

- `Body` is what a factory does.
- `World.Finishes` and `World.Answers` hold of what bodies and commands come to; `World.Answers.unique`
  says that they come to one thing at most.
- `World.runner` runs bodies that are nested to a given depth; `World.scripted_runner` says that what it
  does are runs.
-/

namespace TestDoubles

/-- What a factory does from when it is started. -/
inductive Body (E : Type) where
  /-- It comes to its end. -/
  | done (answer : Except Error Datum)
  /-- It gives a command, and what it does next depends on the answer. -/
  | call (command : Command) (next : Except Error Reply → Body E)
  /-- Something happens in the surroundings, and what it does next depends on what it finds. -/
  | outside (change : World E → World E) (hpasses : ∀ w : World E, w.Passes (change w))
      (next : World E → Body E)

namespace Body

variable {E : Type}

/-- All commands of the body are such commands. -/
def All (p : Command → Prop) : Body E → Prop
  | .done _ => True
  | .call command next => p command ∧ ∀ answer, (next answer).All p
  | .outside _ _ next => ∀ w, (next w).All p

theorem All.mono {p q : Command → Prop} (hpq : ∀ command, p command → q command) {body : Body E}
    (h : body.All p) : body.All q := by
  induction body with
  | done answer => trivial
  | call command next ih =>
    obtain ⟨hcommand, hnext⟩ := h
    exact ⟨hpq command hcommand, fun answer => ih answer (hnext answer)⟩
  | outside change hpasses next ih => exact fun w => ih w (h w)

/-- What the body comes to, with a runner for the factories that it starts. -/
def run (catalog : Catalog E) (inner : Runner E) : Body E → World E → Except Error Datum × World E
  | .done answer, w => (answer, w)
  | .call command next, w =>
    let (answer, w) := w.perform catalog inner command
    (next answer).run catalog inner w
  | .outside change _ next, w => (next (change w)).run catalog inner (change w)

end Body

/-- Code outside the library that gives certain commands only. -/
def Conduct.only {E : Type} (p : Command → Prop) : Conduct E where
  admits _ command := p command

namespace World

variable {E : Type}

/-! ## What programs come to -/

section Programs

variable (catalog : Catalog E) (bodies : FactoryId → Body E)

/-- A body comes to its end, and so do the factories that it starts. -/
inductive Finishes : Body E → World E → Except Error Datum × World E → Prop where
  | done (answer : Except Error Datum) (w : World E) : Finishes (.done answer) w (answer, w)
  -- Where the command starts factories, the runner says what these come to.
  | call {run : Runner E} {command : Command} {next : Except Error Reply → Body E}
      {w w' : World E} {answer : Except Error Reply} {result : Except Error Datum × World E}
      (hstarts : ∀ id started, Starts catalog run command w id started →
        Finishes (bodies id) started (run id started))
      (hperform : w.perform catalog run command = (answer, w'))
      (hnext : Finishes (next answer) w' result) :
      Finishes (.call command next) w result
  | outside {change : World E → World E} {hpasses : ∀ w : World E, w.Passes (change w)}
      {next : World E → Body E} {w : World E} {result : Except Error Datum × World E}
      (hnext : Finishes (next (change w)) (change w) result) :
      Finishes (.outside change hpasses next) w result

/-- A command is answered: all factories that it starts come to their ends. -/
def Answers (command : Command) (w : World E) (result : Except Error Reply × World E) : Prop :=
  ∃ run, (∀ id started, Starts catalog run command w id started →
    Finishes catalog bodies (bodies id) started (run id started)) ∧
    w.perform catalog run command = result

variable {catalog bodies}

/-- **A body comes to one thing at most**; by induction on how it comes to its end. -/
theorem Finishes.unique {body : Body E} {w : World E} {result : Except Error Datum × World E}
    (h : Finishes catalog bodies body w result) {result' : Except Error Datum × World E}
    (h' : Finishes catalog bodies body w result') : result = result' := by
  induction h generalizing result' with
  | done answer w =>
    cases h'
    rfl
  | call hstarts hperform _ ih ihnext =>
    cases h' with
    | call hstarts' hperform' hnext' =>
      -- Up to the first factory on which they differ, both runners start the same factories.
      have hsame := perform_eq_of_agree fun id started h h' => ih id started h (hstarts' id started h')
      obtain ⟨rfl, rfl⟩ := Prod.mk.inj (hperform.symm.trans (hsame.trans hperform'))
      exact ihnext hnext'
  | outside _ ih =>
    cases h' with
    | outside hnext' => exact ih hnext'

/-- **A command has one answer at most.** -/
theorem Answers.unique {command : Command} {w : World E}
    {result result' : Except Error Reply × World E}
    (h : Answers catalog bodies command w result)
    (h' : Answers catalog bodies command w result') : result = result' := by
  obtain ⟨run, hstarts, rfl⟩ := h
  obtain ⟨run', hstarts', rfl⟩ := h'
  exact perform_eq_of_agree fun id started h h' =>
    (hstarts id started h).unique (hstarts' id started h')

end Programs

/-! ## Nesting to a given depth -/

section Nesting

variable (catalog : Catalog E) (bodies : FactoryId → Body E)

/-- Factories do as their bodies say; those that are nested too deep fail at once. -/
def runner : Nat → Runner E
  | 0 => idle
  | depth + 1 => fun id w => (bodies id).run catalog (runner depth) w

variable {catalog bodies} {p : Command → Prop}

/-- A body goes through a run; by induction on the body. -/
theorem steps_run (inner : Runner E) {body : Body E} (hbody : body.All p) (w : World E) :
    Steps catalog (.only p) inner w (body.run catalog inner w).2 := by
  induction body generalizing w with
  | done answer => exact .refl
  | call command next ih =>
    obtain ⟨hcommand, hnext⟩ := hbody
    refine .head (.command command hcommand fun _ _ => trivial) ?_
    exact ih _ (hnext _) _
  | outside change hpasses next ih =>
    exact .head (.outside (hpasses w) trivial) (ih _ (hbody _) _)

/-- **What bodies do are runs**; by induction on the depth. -/
theorem scripted_runner (hbodies : ∀ id, (bodies id).All p) (depth : Nat) :
    Scripted catalog (.only p) (runner catalog bodies depth) := by
  induction depth with
  | zero => exact scripted_idle catalog fun _ _ => trivial
  | succ depth ih =>
    exact .nest ih fun id w =>
      ⟨_, _, steps_run (runner catalog bodies depth) (hbodies id) w, trivial, rfl⟩

end Nesting

end World

end TestDoubles
