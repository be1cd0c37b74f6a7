import TestDoubles.Proofs.Run.Ledger

/-!
# How far a fixture has come

The stage of a fixture is set by some operations and not by others, and operations that set it may be
given by factories, in the middle of an operation that fails later. Here it is shown that the stage can
be read off the log of a run, deed by deed: commands that are answered with an instance count, at
whatever depth they were given, and so do commands that register something; nothing else does.

- `Deed.creates` and `Deed.registers` say which deeds count, and `Stage.advance` how.
- `World.Watched.Staged` is what everything keeps to.
- `World.Watched.stage_tells_answers` says what follows for whole runs and for commands that fail.
-/

namespace TestDoubles

variable {E : Type}

/-! ## Deeds that count -/

namespace Deed

/-- Whether an instance has been created. -/
def creates : Deed → Bool
  | .answered command _ (.ok _) _ => command.creates?.isSome
  | _ => false

/-- Whether something has been registered. -/
def registers : Deed → Bool
  | .answered command before (.ok _) _ => command.registers before
  | _ => false

end Deed

namespace Stage

/-- The position in the order in which a fixture goes through the stages. -/
def rank : Stage → Nat
  | .unconfigured => 0
  | .configured => 1
  | .constructed => 2

/-- The stage after something has been registered. -/
def configure : Stage → Stage
  | .unconfigured => .configured
  | stage => stage

/-- The stage after a deed. -/
def advance (stage : Stage) (deed : Deed) : Stage :=
  if deed.isReset then .unconfigured
  else if deed.creates then .constructed
  else if deed.registers then stage.configure
  else stage

/-- The stage after deeds. -/
def advanceAll (stage : Stage) (deeds : List Deed) : Stage :=
  deeds.foldl advance stage

@[simp] theorem advanceAll_nil (stage : Stage) : stage.advanceAll [] = stage :=
  rfl

theorem advanceAll_append (stage : Stage) (deeds later : List Deed) :
    stage.advanceAll (deeds ++ later) = (stage.advanceAll deeds).advanceAll later :=
  List.foldl_append

/-- What is left of a fixture after a reset counts as new; all else counts only if it succeeds. -/
theorem advance_answered (stage : Stage) {command : Command} (hreset : command ≠ .reset)
    (before after : Fixture) (answer : Except Error Reply) :
    stage.advance (.answered command before answer after) =
      match answer with
      | .error _ => stage
      | .ok _ =>
        if command.creates?.isSome then .constructed
        else if command.registers before then stage.configure
        else stage := by
  cases command <;> cases answer <;> first | rfl | exact absurd rfl hreset

/-! ## What the stage tells -/

section Telling

variable {deeds : List Deed}

theorem rank_le_advance (stage : Stage) {deed : Deed} (h : deed.isReset = false) :
    stage.rank ≤ (stage.advance deed).rank := by
  unfold advance
  rw [h]
  cases stage <;> cases deed.creates <;> cases deed.registers <;> simp [configure, rank]

/-- Without a reset, the stages are gone through in their order. -/
theorem rank_le_advanceAll (stage : Stage) (h : ∀ deed ∈ deeds, deed.isReset = false) :
    stage.rank ≤ (stage.advanceAll deeds).rank := by
  induction deeds generalizing stage with
  | nil => exact Nat.le_refl _
  | cons deed deeds ih =>
    obtain ⟨hfirst, hrest⟩ := List.forall_mem_cons.mp h
    exact Nat.le_trans (stage.rank_le_advance hfirst) (ih (stage.advance deed) hrest)

/-- Without a reset, the last stage is that of the first instance. -/
theorem advanceAll_eq_constructed_iff (stage : Stage) (h : ∀ deed ∈ deeds, deed.isReset = false) :
    stage.advanceAll deeds = .constructed ↔
      stage = .constructed ∨ ∃ deed ∈ deeds, deed.creates := by
  induction deeds generalizing stage with
  | nil => simp
  | cons deed deeds ih =>
    obtain ⟨hfirst, hrest⟩ := List.forall_mem_cons.mp h
    have hstep : stage.advance deed = .constructed ↔ stage = .constructed ∨ deed.creates := by
      unfold advance
      rw [hfirst]
      cases stage <;> cases deed.creates <;> cases deed.registers <;> simp [configure]
    rw [advanceAll, List.foldl_cons, ← advanceAll, ih _ hrest, hstep]
    simp [or_assoc]

/-- Without a reset, the first stage is over as soon as something counts. -/
theorem advanceAll_ne_unconfigured_iff (stage : Stage)
    (h : ∀ deed ∈ deeds, deed.isReset = false) : stage.advanceAll deeds ≠ .unconfigured ↔
      stage ≠ .unconfigured ∨ ∃ deed ∈ deeds, deed.creates ∨ deed.registers := by
  induction deeds generalizing stage with
  | nil => simp
  | cons deed deeds ih =>
    obtain ⟨hfirst, hrest⟩ := List.forall_mem_cons.mp h
    have hstep : stage.advance deed ≠ .unconfigured ↔
        stage ≠ .unconfigured ∨ deed.creates ∨ deed.registers := by
      unfold advance
      rw [hfirst]
      cases stage <;> cases deed.creates <;> cases deed.registers <;> simp [configure]
    rw [advanceAll, List.foldl_cons, ← advanceAll, ih _ hrest, hstep]
    simp [or_assoc]

/-- Deeds that do not count leave the stage as it is. -/
theorem advanceAll_of_idle (stage : Stage) (h : ∀ deed ∈ deeds, deed.isReset = false)
    (hidle : ∀ deed ∈ deeds, ¬(deed.creates ∨ deed.registers)) :
    stage.advanceAll deeds = stage := by
  induction deeds generalizing stage with
  | nil => rfl
  | cons deed deeds ih =>
    obtain ⟨hfirst, hrest⟩ := List.forall_mem_cons.mp h
    obtain ⟨hfirst', hrest'⟩ := List.forall_mem_cons.mp hidle
    have hstep : stage.advance deed = stage := by simp_all [advance]
    rw [advanceAll, List.foldl_cons, ← advanceAll, hstep, ih stage hrest hrest']

end Telling

end Stage

theorem Fixture.stage_configured (f : Fixture) : f.configured.stage = f.stage.configure := by
  unfold Fixture.configured
  split
  next h => rw [h]; rfl
  next h => cases hstage : f.stage <;> simp_all [Stage.configure]

namespace World

namespace Watched

/-! ## The stage along runs -/

/-- The stage of the fixture is what the deeds since `w` have made of it. -/
def Staged (w w' : World (E × List Deed)) : Prop :=
  ∃ new, w'.deeds = w.deeds ++ new ∧ w'.fixture.stage = w.fixture.stage.advanceAll new

namespace Staged

variable {w w' w'' : World (E × List Deed)}

theorem of_eq (hdeeds : w'.deeds = w.deeds) (hstage : w'.fixture.stage = w.fixture.stage) :
    Staged w w' :=
  ⟨[], by rw [hdeeds, List.append_nil], hstage⟩

theorem trans (h : Staged w w') (h' : Staged w' w'') : Staged w w'' := by
  obtain ⟨new, hdeeds, hstage⟩ := h
  obtain ⟨new', hdeeds', hstage'⟩ := h'
  refine ⟨new ++ new', by rw [hdeeds', hdeeds, List.append_assoc], ?_⟩
  rw [hstage', hstage, Stage.advanceAll_append]

/-- A deed is written down, and the stage is what comes of it. -/
theorem concat {deed : Deed} (h : Staged w w') (hdeeds : w''.deeds = w'.deeds ++ [deed])
    (hstage : w''.fixture.stage = w'.fixture.stage.advance deed) : Staged w w'' :=
  h.trans ⟨[deed], hdeeds, hstage⟩

end Staged

theorem ledger_staged : Ledger (fun _ => Ended (Staged (E := E))) Staged where
  trans := Staged.trans
  alike h := .of_eq h.deeds h.stage
  created {w started ended _ _ answer} _ halike _ hended := by
    obtain ⟨done, hdone, rfl⟩ := hended.exists_done
    exact ((Staged.of_eq halike.deeds halike.stage).trans hdone).concat (deeds_note _ _) rfl
  failed {w started ended _ _ e} _ halike _ hended := by
    obtain ⟨done, hdone, rfl⟩ := hended.exists_done
    exact ((Staged.of_eq halike.deeds halike.stage).trans hdone).concat (deeds_note _ _) rfl
  supplied {w started ended w' key _ datum} _ halike _ hended hsame := by
    obtain ⟨done, hdone, rfl⟩ := hended.exists_done
    refine ((Staged.of_eq halike.deeds halike.stage).trans hdone).concat hsame.deeds ?_
    exact (Fixture.stage_freeze w'.fixture key).trans hsame.stage

/-- A command that registers something, or fails to. -/
theorem Staged.registered {catalog : Catalog E} {command : Command} {w w' : World (E × List Deed)}
    {answer : Except Error Reply} (hdirect : command.isDirect) (hreset : command ≠ .reset)
    (h : Registered catalog.watched command w (answer, w')) :
    Staged w (w'.note (.answered command w.fixture answer w'.fixture)) := by
  have hdeeds := Registered.deeds_eq h
  have hcreates : command.creates? = none := by cases command <;> first | rfl | cases hdirect
  refine ⟨[_], by rw [deeds_note, hdeeds], ?_⟩
  refine Eq.trans ?_ (w.fixture.stage.advance_answered hreset w.fixture w'.fixture answer).symm
  rw [fixture_note, hcreates]
  cases h with
  | found hfound => simp [hfound]
  | operated hregisters _ => simp [hregisters, mapFixture, Fixture.stage_configured, setRegistry, emit]
  | refused _ _ => rfl
  | rewritten hregisters _ => simp [hregisters, mapFixture, Fixture.stage_configured]
  | frozen => rfl

theorem observed_staged (catalog : Catalog E) : Observed catalog (Staged (E := E)) where
  trans := Staged.trans
  outside h := .of_eq h.2 (by rw [h.1.fixture])
  answered {run w w' command answer} hends hperform := by
    have hanswered : Ledger.Answered catalog Staged command w _ _ :=
      ledger_staged.answered fun id started _ => hends id started
    rw [hperform] at hanswered
    cases hanswered with
    | registered hdirect hreset h => exact .registered hdirect hreset h
    | reset hreset => exact ⟨[_], rfl, by rw [hreset]; rfl⟩
    | failed hdirect h =>
      have hreset : command ≠ .reset := by rintro rfl; cases hdirect
      refine h.concat (deeds_note _ _) ?_
      exact (w'.fixture.stage.advance_answered hreset w.fixture w'.fixture (.error _)).symm
    | created htarget h hdeeds _ hstage =>
      have hreset : command ≠ .reset := by rintro rfl; cases htarget
      refine h.concat (by rw [deeds_note, hdeeds]) ?_
      rw [fixture_note, hstage, Stage.advance_answered _ hreset, htarget]
      rfl
    | resolved hcommand h hdeeds hfixture =>
      subst hcommand
      refine h.concat (by rw [deeds_note, hdeeds]) ?_
      rw [fixture_note, hfixture]
      rfl
  starts hends hstarts := ledger_staged.starts (fun id started _ => hends id started) hstarts

/-! ## What follows -/

section Telling

variable {catalog : Catalog E} {w w' : World (E × List Deed)}

/-- **The stage can be read off the log.** -/
theorem Reachable.stage_eq (hw : Reachable catalog w) :
    w.fixture.stage = Stage.advanceAll .unconfigured w.deeds := by
  obtain ⟨start, ⟨⟨options, hfixture⟩, hdeeds⟩, hleads⟩ := hw
  obtain ⟨new, hnew, hstage⟩ := (observed_staged catalog).leads hleads
  rw [hdeeds, List.nil_append] at hnew
  rw [hstage, hfixture, hnew]
  rfl

/-- A command that fails has changed the stage by the deeds of factories only. -/
theorem stage_perform_of_error {run : Runner (E × List Deed)} (hrun : Scripted catalog run)
    {command : Command} {e : Error}
    (h : w.perform catalog.watched run command = (.error e, w')) :
    ∃ nested, w'.deeds = w.deeds ++ nested ∧
      (∀ deed ∈ nested, Nested catalog run command w deed) ∧
      w'.fixture.stage = w.fixture.stage.advanceAll nested := by
  obtain ⟨nested, hdeeds, hnested⟩ := delegates_perform hrun command w
  have hends := (observed_staged catalog).ends hrun
  obtain ⟨new, hnew, hstage⟩ := (observed_staged catalog).answered hends h
  rw [h] at hdeeds
  refine ⟨nested, hdeeds, hnested, ?_⟩
  rw [deeds_note, hdeeds, List.append_assoc] at hnew
  have hreset : command ≠ .reset := by
    rintro rfl
    cases h
  rw [← List.append_cancel_left hnew, Stage.advanceAll_append] at hstage
  exact hstage.trans (Stage.advance_answered _ hreset _ _ _)

end Telling

/-- **The stage tells what has been answered.** In a run without a reset it is the last one exactly when
a command has been answered with an instance, and not the first one exactly when one has been or
something has been registered; these commands may have been given by factories. It never goes back. A
command that fails moves it only if a factory that the command started has given such a command, which
was answered. -/
theorem stage_tells_answers (catalog : Catalog E) :
    (∀ w, Reachable catalog w → (∀ deed ∈ w.deeds, deed.isReset = false) →
      (w.fixture.stage = .constructed ↔ ∃ deed ∈ w.deeds, deed.creates) ∧
      (w.fixture.stage ≠ .unconfigured ↔ ∃ deed ∈ w.deeds, deed.creates ∨ deed.registers)) ∧
    (∀ w w', Reachable catalog w → Leads catalog w w' →
      (∀ deed ∈ w'.deeds, deed.isReset = false) → w.fixture.stage.rank ≤ w'.fixture.stage.rank) ∧
    (∀ run, Scripted catalog run → ∀ w command e w',
      w.perform catalog.watched run command = (.error e, w') →
      ∃ nested, w'.deeds = w.deeds ++ nested ∧
        (∀ deed ∈ nested, Nested catalog run command w deed) ∧
        w'.fixture.stage = w.fixture.stage.advanceAll nested ∧
        ((∀ deed ∈ nested, deed.isReset = false) → w'.fixture.stage ≠ w.fixture.stage →
          ∃ deed ∈ nested, deed.creates ∨ deed.registers)) := by
  refine ⟨?_, ?_, ?_⟩
  · intro w hw hreset
    rw [hw.stage_eq, Stage.advanceAll_eq_constructed_iff _ hreset,
      Stage.advanceAll_ne_unconfigured_iff _ hreset]
    simp
  · intro w w' hw hleads hreset
    obtain ⟨new, hdeeds, hstage⟩ := (observed_staged catalog).leads hleads
    rw [hstage]
    refine Stage.rank_le_advanceAll _ fun deed hdeed => hreset deed ?_
    rw [hdeeds]
    exact List.mem_append_right _ hdeed
  · intro run hrun w command e w' h
    obtain ⟨nested, hdeeds, hnested, hstage⟩ := stage_perform_of_error hrun h
    refine ⟨nested, hdeeds, hnested, hstage, fun hreset hmoved => ?_⟩
    by_contra hnone
    have hidle : ∀ deed ∈ nested, ¬(deed.creates ∨ deed.registers) := by simpa using hnone
    exact hmoved (hstage.trans (Stage.advanceAll_of_idle _ hreset hidle))

/-- A service that is not created for want of a number, after the factory of its tool has created a
part. -/
theorem stage_tells_answers_nested :
    let part : TypeId := ⟨"Part"⟩
    let tool : TypeId := ⟨"Tool"⟩
    let number : TypeId := ⟨"Number"⟩
    let service : TypeId := ⟨"Service"⟩
    let catalog : Catalog Unit := ⟨id, fun _ => .null, fun type =>
      if type = service then
        [.ofFunction { name := "new", params := [.concrete "tool" tool, .value "number" number] }
          fun _ => .ok .null]
      else [.ofFunction { name := "new" } fun _ => .ok .null]⟩
    let run := obeying catalog idle (fun _ => [.create part none]) .null
    let start : World (Unit × List Deed) := { surroundings := ((), []) }
    let ready := after catalog run start (.addType tool .transient ⟨0⟩)
    let command : Command := .createBySignature service (.ofTypes [tool, number])
    let failed := after catalog run ready command
    let error : Error := .unresolvableParameter service "number" (.of number)
    (ready.fixture.stage ≠ .constructed ∧ ready.fixture.stage ≠ .unconfigured) ∧
    (failed.fixture.stage = .constructed ∧ ∃ deed ∈ failed.deeds, deed.creates) ∧
    ready.fixture.stage.rank ≤ failed.fixture.stage.rank ∧
    ∃ w', ready.perform catalog.watched run command = (.error error, w') ∧
      ∃ nested, w'.deeds = ready.deeds ++ nested ∧ ∃ deed ∈ nested, deed.creates ∨ deed.registers := by
  intro part tool number service catalog run start ready command failed error
  have hrun : Scripted catalog run := (scripted_idle catalog).obeying _ _
  have hready : Reachable catalog ready := (Fresh.reachable ⟨⟨{}, rfl⟩, rfl⟩).after hrun _
  have hfailed : Reachable catalog failed := hready.after hrun command
  have hreset : ∀ deed ∈ failed.deeds, deed.isReset = false := by decide +kernel
  obtain ⟨htells, hforward, herrors⟩ := stage_tells_answers catalog
  have hperform : ready.perform catalog.watched run command =
      (.error error, (ready.perform catalog.watched run command).2) := by
    rfl
  obtain ⟨nested, hdeeds, -, -, hmoves⟩ := herrors run hrun ready command error _ hperform
  have hstage : failed.fixture.stage = .constructed := by decide +kernel
  have hbefore : ready.fixture.stage = .configured := by decide +kernel
  refine ⟨by simp [hbefore], ⟨hstage, ?_⟩, ?_, _, hperform, nested, hdeeds, ?_⟩
  · exact (htells failed hfailed hreset).1.mp hstage
  · exact hforward ready failed hready (leads_after hrun ready command) hreset
  · refine hmoves (fun deed hdeed => hreset deed ?_) ?_
    · rw [deeds_after, hdeeds]
      exact List.mem_append_left _ (List.mem_append_right _ hdeed)
    · rw [← fixture_after, hstage, hbefore]
      decide

end Watched

end World

end TestDoubles
