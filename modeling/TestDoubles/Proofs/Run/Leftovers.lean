import TestDoubles.Proofs.Filling.Idle
import TestDoubles.Proofs.Run.Stages

/-!
# What is left in a fixture that is not set up

The first stage is said to be that of a fixture in which nothing has been set up. That is so for recipes.
But a creation that fails leaves behind the doubles that it has created on the way, and a constructor
that is resolved directly leaves its construction in the history besides; neither moves the fixture on.
Here it is shown that nothing else does so, and what exactly is left.

- `Deed.leaves` and `Deed.records` say which deeds may leave something, and `World.Watched.Lately` that
  there has been one since the last reset.
- `World.Watched.Accounted` is the invariant.
- `World.AddsDoubles` is what a command leaves in the registry.
- `World.Watched.unconfigured_leftovers` puts both together, and
  `World.Watched.unconfigured_but_not_empty` shows two fixtures in which something is left.
-/

namespace TestDoubles

variable {E : Type}

/-! ## Deeds that leave something -/

namespace Deed

/-- Whether an instance was to be created and was not, or a constructor was resolved directly. -/
def leaves : Deed → Bool
  | .answered (.resolve _ _ _) _ _ _ => true
  | .answered command _ (.error _) _ => command.creates?.isSome
  | _ => false

/-- Whether a constructor has been resolved directly. -/
def records : Deed → Bool
  | .answered (.resolve _ _ _) _ (.ok _) _ => true
  | _ => false

end Deed

namespace World

namespace Watched

/-- There has been such a deed, and since then the fixture has not been torn down. -/
def Lately (p : Deed → Bool) (deeds : List Deed) : Prop :=
  ∃ earlier deed later, deeds = earlier ++ deed :: later ∧ p deed ∧
    ∀ other ∈ later, other.isReset = false

namespace Lately

variable {p : Deed → Bool} {deeds : List Deed} {deed : Deed}

theorem last (h : p deed) : Lately p (deeds ++ [deed]) :=
  ⟨deeds, deed, [], rfl, h, by simp⟩

theorem concat (h : Lately p deeds) (hreset : deed.isReset = false) : Lately p (deeds ++ [deed]) := by
  obtain ⟨earlier, found, later, rfl, hfound, hlater⟩ := h
  refine ⟨earlier, found, later ++ [deed], by simp, hfound, ?_⟩
  exact List.forall_mem_append.mpr ⟨hlater, by simpa using hreset⟩

end Lately

end Watched

/-! ## Factories that start -/

section Starting

variable {catalog : Catalog E} {run : Runner E} {w started : World E} {id : FactoryId}

/-- Where a factory starts there is one; by induction on the parameters before. -/
theorem ParamsStart.exists_hasFactory {target : TypeId} {explicit : Arguments} {params : List Param}
    {used : List Bool} (h : ParamsStart catalog run target explicit params used w id started) :
    ∃ key, started.fixture.hasFactory key := by
  induction h with
  | here _ _ hstarts =>
    have hfactory := hstarts.hasFactory
    obtain ⟨-, -, henter⟩ := hstarts
    obtain ⟨-, rfl⟩ := enter_eq_ok_iff.mp henter
    exact ⟨_, hfactory⟩
  | there _ _ ih => exact ih

theorem CreateStarts.exists_hasFactory {target : TypeId} {signature : Option Signature}
    {arguments : Option Arguments}
    (h : CreateStarts catalog run target signature arguments w id started) :
    ∃ key, started.fixture.hasFactory key := by
  cases h with
  | factory henter hrecipe hfactory _ =>
    obtain ⟨-, rfl⟩ := enter_eq_ok_iff.mp henter
    exact ⟨_, hasFactory_of_recipe hrecipe hfactory⟩
  | resolved _ _ h =>
    obtain ⟨-, h⟩ := h
    exact h.exists_hasFactory

theorem Starts.exists_hasFactory {command : Command}
    (h : Starts catalog run command w id started) : ∃ key, started.fixture.hasFactory key := by
  cases h with
  | create h => exact h.exists_hasFactory
  | createBySignature h => exact h.exists_hasFactory
  | resolve h =>
    obtain ⟨-, h⟩ := h
    exact h.exists_hasFactory

end Starting

namespace Watched

/-! ## The invariant -/

/-- As long as nothing has been set up there are no recipes, and if something is recorded, there has
been a deed to account for it. -/
structure Settled (w : World (E × List Deed)) : Prop where
  recipes : w.fixture.stage = .unconfigured → w.fixture.recipes.entries = []
  history : w.fixture.stage = .unconfigured → w.fixture.history.records.entries ≠ [] →
    Lately Deed.records w.deeds

/-- The same holds of what is registered. -/
structure Accounted (w : World (E × List Deed)) : Prop extends Settled w where
  registry : w.fixture.stage = .unconfigured → w.fixture.registry.entries ≠ [] →
    Lately Deed.leaves w.deeds

section Single

variable {w w' : World (E × List Deed)}

theorem Settled.of_alike (h : Settled w) (halike : Alike w w') : Settled w' where
  recipes hstage := halike.recipes ▸ h.recipes (halike.stage ▸ hstage)
  history hstage hrecords :=
    halike.deeds ▸ h.history (halike.stage ▸ hstage) (halike.history ▸ hrecords)

theorem Settled.note (h : Settled w) {deed : Deed} (hreset : deed.isReset = false) :
    Settled (w.note deed) where
  recipes := h.recipes
  history hstage hrecords := (h.history hstage hrecords).concat hreset

theorem Settled.stage_ne (h : Settled w) {key : Key} (hfactory : w.fixture.hasFactory key) :
    w.fixture.stage ≠ .unconfigured := by
  intro hstage
  unfold Fixture.hasFactory Table.find? at hfactory
  rw [h.recipes hstage] at hfactory
  cases hfactory

theorem Accounted.of_stage_ne (hstage : w.fixture.stage ≠ .unconfigured) : Accounted w where
  recipes h := absurd h hstage
  history h := absurd h hstage
  registry h := absurd h hstage

theorem Accounted.of_alike (h : Accounted w) (halike : Alike w w')
    (hregistry : w'.fixture.registry = w.fixture.registry) : Accounted w' where
  toSettled := h.toSettled.of_alike halike
  registry hstage hentries :=
    halike.deeds ▸ h.registry (halike.stage ▸ hstage) (hregistry ▸ hentries)

theorem Accounted.note (h : Accounted w) {deed : Deed} (hreset : deed.isReset = false) :
    Accounted (w.note deed) where
  toSettled := h.toSettled.note hreset
  registry hstage hentries := (h.registry hstage hentries).concat hreset

/-- Whatever is registered is accounted for by the deed that is written down last. -/
theorem Settled.accounted (h : Settled w) {deed : Deed} (hreset : deed.isReset = false)
    (hleaves : deed.leaves) : Accounted (w.note deed) where
  toSettled := h.note hreset
  registry _ _ := .last hleaves

end Single

/-! ## The invariant along runs -/

/-- While a command is answered, doubles are not accounted for yet. But no factory is started before
something is set up, so that factories find everything accounted for. -/
theorem ledger_settled : Ledger (fun _ => Ended fun w w' : World (E × List Deed) =>
    Accounted w → Accounted w') fun w w' => Settled w → Settled w' := by
  have hdone {w started done : World (E × List Deed)} {key : Key} (h : Settled w)
      (hfactory : w.fixture.hasFactory key) (halike : Alike w started)
      (hdone : Accounted started → Accounted done) : Accounted done := by
    refine hdone (.of_stage_ne ?_)
    rw [halike.stage]
    exact h.stage_ne hfactory
  exact
    { trans := fun h₁ h₂ h => h₂ (h₁ h)
      alike := fun halike h => h.of_alike halike
      created := fun hfactory halike _ hended h => by
        obtain ⟨done, hkept, rfl⟩ := hended.exists_done
        exact (hdone h hfactory halike hkept).toSettled.note rfl
      failed := fun hfactory halike _ hended h => by
        obtain ⟨done, hkept, rfl⟩ := hended.exists_done
        exact (hdone h hfactory halike hkept).toSettled.note rfl
      supplied := fun {w started ended w' key id datum} hfactory halike _ hended hsame h => by
        obtain ⟨done, hkept, rfl⟩ := hended.exists_done
        have hnoted := ((hdone h hfactory halike hkept).toSettled.note rfl).of_alike hsame
        -- Where there are no recipes, none is fixed.
        refine ⟨fun hstage => ?_, fun hstage hrecords => ?_⟩
        · have hnone := hnoted.recipes ((Fixture.stage_freeze w'.fixture key).symm.trans hstage)
          show (w'.fixture.freeze key).recipes.entries = []
          have hmissing : w'.fixture.recipes.find? key = none := by rw [Table.find?, hnone]; rfl
          unfold Fixture.freeze
          rw [hmissing]
          exact hnone
        · refine hnoted.history ((Fixture.stage_freeze w'.fixture key).symm.trans hstage) ?_
          exact Fixture.history_freeze w'.fixture key ▸ hrecords }

theorem observed_accounted (catalog : Catalog E) :
    Observed catalog fun w w' : World (E × List Deed) => Accounted w → Accounted w' where
  trans h₁ h₂ h := h₂ (h₁ h)
  outside houtside h := h.of_alike (.passes houtside.1 houtside.2) (by rw [houtside.1.fixture])
  answered {run w w' command answer} hends hperform h := by
    have hanswered : Ledger.Answered catalog (fun w w' => Settled w → Settled w') command w _ _ :=
      ledger_settled.answered fun id started _ => hends id started
    rw [hperform] at hanswered
    cases hanswered with
    | registered hdirect hreset hregistered =>
      have hdeed : (Deed.answered command w.fixture answer w'.fixture).isReset = false := by
        cases command <;> first | rfl | exact absurd rfl hreset
      have hconfigured (f : Fixture) : f.configured.stage ≠ .unconfigured := by
        rw [Fixture.stage_configured]
        cases f.stage <;> simp [Stage.configure]
      cases hregistered with
      | found _ => exact h.note hdeed
      | operated _ _ => exact .of_stage_ne (hconfigured _)
      | @refused allocated change _ _ hsame =>
        have hrefused : Accounted ({ w with allocated := allocated }.setRegistry change) :=
          h.of_alike ⟨rfl, rfl, rfl, rfl⟩ hsame
        exact hrefused.note hdeed
      | rewritten _ _ => exact .of_stage_ne (hconfigured _)
      | frozen => exact h.note hdeed
    | reset _ =>
      exact ⟨⟨fun _ => rfl, fun _ hrecords => absurd rfl hrecords⟩, fun _ hentries =>
        absurd rfl hentries⟩
    | failed hdirect hsettled =>
      refine (hsettled h.toSettled).accounted ?_ ?_ <;> cases command <;> first | rfl | cases hdirect
    | created _ _ _ _ hstage =>
      refine .of_stage_ne ?_
      rw [fixture_note, hstage]
      simp
    | resolved hcommand hsettled hdeeds hfixture =>
      subst hcommand
      refine ⟨⟨fun hstage => ?_, fun _ _ => .last rfl⟩, fun _ _ => .last rfl⟩
      rw [fixture_note, hfixture] at hstage ⊢
      exact (hsettled h.toSettled).recipes hstage
  starts {run w started command id} hends hstarts h := by
    have hsettled : Settled started :=
      ledger_settled.starts (fun id started _ => hends id started) hstarts h.toSettled
    obtain ⟨key, hfactory⟩ := hstarts.exists_hasFactory
    exact .of_stage_ne (hsettled.stage_ne hfactory)

/-- **Whatever is left is accounted for.** -/
theorem Reachable.accounted {catalog : Catalog E} {w : World (E × List Deed)}
    (hw : Reachable catalog w) : Accounted w := by
  obtain ⟨start, ⟨⟨options, hfixture⟩, -⟩, hleads⟩ := hw
  refine (observed_accounted catalog).leads hleads ⟨⟨?_, ?_⟩, ?_⟩ <;> rw [hfixture]
  · exact fun _ => rfl
  · exact fun _ hrecords => absurd rfl hrecords
  · exact fun _ hentries => absurd rfl hentries

end Watched

/-! ## What single commands leave -/

/-- Nothing has happened to the fixture but that doubles have been created. -/
structure AddsDoubles (w w' : World E) : Prop where
  fixture : w'.fixture = { w.fixture with registry := w'.fixture.registry }
  entries : ∃ doubles, w'.fixture.registry.entries = w.fixture.registry.entries ++ doubles ∧
    ∀ entry ∈ doubles, entry.origin = .autoMock

namespace AddsDoubles

variable {catalog : Catalog E} {run : Runner E} {w w' w'' : World E}

theorem of_fixture_eq (h : w'.fixture = w.fixture) : AddsDoubles w w' :=
  ⟨by rw [h], [], by rw [h, List.append_nil], by simp⟩

theorem trans (h : AddsDoubles w w') (h' : AddsDoubles w' w'') : AddsDoubles w w'' := by
  obtain ⟨hfixture, doubles, hentries, hdoubles⟩ := h
  obtain ⟨hfixture', doubles', hentries', hdoubles'⟩ := h'
  refine ⟨?_, doubles ++ doubles', by rw [hentries', hentries, List.append_assoc], ?_⟩
  · rw [hfixture', hfixture]
  · exact List.forall_mem_append.mpr ⟨hdoubles, hdoubles'⟩

/-- Without factories, filling parameters only creates doubles. -/
theorem within (catalog : Catalog E) :
    Within catalog (fun _ _ _ => False) (AddsDoubles (E := E)) where
  refl w := .of_fixture_eq rfl
  trans := .trans
  reports hpasses _ := .of_fixture_eq hpasses.fixture
  failed _ hran := hran.elim
  transient _ _ hran := hran.elim
  singleton _ _ hran := hran.elim
  mocked {w key} _ := by
    refine ⟨rfl, ?_⟩
    show ∃ doubles, (w.fixture.registry.getOrCreateMock catalog.mockOf ⟨w.allocated⟩ key.type
      key.name).registry.entries = w.fixture.registry.entries ++ doubles ∧ _
    rcases Registry.getOrCreateMock_cases catalog.mockOf w.fixture.registry ⟨w.allocated⟩ key.type
      key.name with hsame | ⟨_, _, entry, -, -, -, hentries, horigin⟩
    · exact ⟨[], by rw [hsame, List.append_nil], by simp⟩
    · exact ⟨[entry], hentries, by simpa using horigin⟩
  unbuilt _ _ := .of_fixture_eq rfl

end AddsDoubles

section Single

variable {catalog : Catalog E} {run : Runner E} {target : TypeId} {signature : Option Signature}
  {w w' : World E}

/-- Without recipes there are no factories. -/
theorem factoryFree_of_recipes (h : w.fixture.recipes.entries = []) (catalog : Catalog E)
    (target : TypeId) : FactoryFree catalog target w.fixture := by
  have hnone (key : Key) : w.fixture.hasFactory key = false := by
    unfold Fixture.hasFactory Table.find?
    rw [h]
    rfl
  exact ⟨hnone _, fun _ _ _ _ => hnone _⟩

/-- A constructor that is not resolved leaves doubles. -/
theorem Built.addsDoubles {explicit : Arguments} (hrecipes : w.fixture.recipes.entries = [])
    {e : Error} (h : Built catalog run target signature explicit w (.error e, w')) :
    AddsDoubles w w' :=
  (AddsDoubles.within catalog).unresolved
    (fun _ _ => (factoryFree_of_recipes hrecipes catalog target).not_resolveStarts) h

/-- A constructor that is resolved leaves doubles, and its construction. -/
theorem Built.addsDoubles_record {explicit : Arguments}
    (hrecipes : w.fixture.recipes.entries = []) {construction : Construction} {datum : Datum}
    (h : Built catalog run target signature explicit w (.ok (construction, datum), w')) :
    ∃ filled, AddsDoubles w filled ∧ w'.fixture = { filled.fixture with
      history := filled.fixture.history.record (.of target) construction } := by
  obtain ⟨_, _, filled, s, -, -, hfilled, -, rfl⟩ := (AddsDoubles.within catalog).resolved
    (fun _ _ => (factoryFree_of_recipes hrecipes catalog target).not_resolveStarts) h
  exact ⟨filled, hfilled, rfl⟩

/-- A creation that fails leaves doubles. -/
theorem Created.addsDoubles {arguments : Option Arguments}
    (hrecipes : w.fixture.recipes.entries = []) {e : Error}
    (h : Created catalog run target signature arguments w (.error e, w')) : AddsDoubles w w' := by
  cases h with
  | cyclic _ => exact .of_fixture_eq rfl
  | @failed entered done _ henter h =>
    obtain ⟨-, hentered⟩ := enter_eq_ok_iff.mp henter
    have hnone : entered.fixture.recipes.entries = [] := by rw [hentered]; exact hrecipes
    obtain ⟨resolved, _, hbuilt, hresult⟩ := h.of_hasFactory catalog run
      (factoryFree_of_recipes hnone catalog target).own
    obtain ⟨hanswer, rfl⟩ := Prod.mk.inj hresult
    cases resolved with
    | ok _ => cases hanswer
    | error e =>
      obtain ⟨hfixture, doubles, hentries, hdoubles⟩ := hbuilt.addsDoubles hnone
      subst hentered
      refine ⟨?_, doubles, hentries, hdoubles⟩
      show done.fixture.leave = _
      rw [hfixture, Fixture.leave]
      simp [mapFixture, leave, Fixture.leave]

/-- **A command that fails to build an instance leaves doubles.** -/
theorem addsDoubles_of_perform (hrecipes : w.fixture.recipes.entries = []) {command : Command}
    (htarget : command.builds? = some target) {e : Error}
    (h : w.perform catalog run command = (.error e, w')) : AddsDoubles w w' := by
  have hcreate {signature : Option Signature} {arguments : Option Arguments}
      (h : ((w.create catalog run target signature arguments).1.map Reply.instanceOf,
        (w.create catalog run target signature arguments).2) = (.error e, w')) :
      AddsDoubles w w' := by
    have hcreated := created catalog run target signature arguments w
    rcases hresult : w.create catalog run target signature arguments with ⟨e | _, w'⟩ <;>
      rw [hresult] at h hcreated <;> cases h
    exact hcreated.addsDoubles hrecipes
  cases command with
  | create =>
    obtain rfl := Option.some.inj htarget
    exact hcreate h
  | createBySignature =>
    obtain rfl := Option.some.inj htarget
    exact hcreate h
  | resolve type signature explicit =>
    obtain rfl : type = target := Option.some.inj htarget
    have hbuilt := built catalog run type signature explicit w
    simp only [perform] at h
    rcases hresult : w.resolve catalog run type signature explicit with ⟨e | _, w'⟩ <;>
      rw [hresult] at h hbuilt <;> cases h
    exact hbuilt.addsDoubles hrecipes
  | _ => cases htarget

/-- **A constructor that is resolved directly leaves doubles, and its construction.** -/
theorem addsDoubles_of_resolve (hrecipes : w.fixture.recipes.entries = []) {explicit : Arguments}
    {reply : Reply}
    (h : w.perform catalog run (.resolve target signature explicit) = (.ok reply, w')) :
    ∃ construction datum filled, reply = .construction construction datum ∧
      AddsDoubles w filled ∧ w'.fixture = { filled.fixture with
        history := filled.fixture.history.record (.of target) construction } := by
  have hbuilt := built catalog run target signature explicit w
  simp only [perform] at h
  rcases hresult : w.resolve catalog run target signature explicit with
    ⟨_ | ⟨construction, datum⟩, w'⟩ <;> rw [hresult] at h hbuilt <;> cases h
  obtain ⟨filled, hfilled, hfixture⟩ := hbuilt.addsDoubles_record hrecipes
  exact ⟨construction, datum, filled, rfl, hfilled, hfixture⟩

end Single

namespace Watched

/-! ## What follows -/

/-- **What is left in a fixture that is not set up is accounted for.** In the first stage there are
no recipes; something is registered only if since the last reset an instance was to be created and was
not, or a constructor was resolved directly; and something is recorded only if a constructor was
resolved directly. A command that fails to build an instance then leaves nothing but the doubles that
it has created, and a constructor that is resolved directly leaves its construction besides. -/
theorem unconfigured_leftovers (catalog : Catalog E) {w : World (E × List Deed)}
    (hw : Reachable catalog w) (hstage : w.fixture.stage = .unconfigured) :
    (w.fixture.recipes.entries = [] ∧
      (w.fixture.registry.entries ≠ [] → Lately Deed.leaves w.deeds) ∧
      (w.fixture.history.records.entries ≠ [] → Lately Deed.records w.deeds)) ∧
    (∀ run command target e w', command.builds? = some target →
      w.perform catalog.watched run command = (.error e, w') → AddsDoubles w w') ∧
    (∀ run target signature explicit reply w',
      w.perform catalog.watched run (.resolve target signature explicit) = (.ok reply, w') →
      ∃ construction datum filled, reply = .construction construction datum ∧
        AddsDoubles w filled ∧ w'.fixture = { filled.fixture with
          history := filled.fixture.history.record (.of target) construction }) := by
  have haccounted := hw.accounted
  have hrecipes := haccounted.recipes hstage
  refine ⟨⟨hrecipes, haccounted.registry hstage, haccounted.history hstage⟩, ?_, ?_⟩
  · intro run command target e w' htarget h
    exact addsDoubles_of_perform hrecipes htarget h
  · intro run target signature explicit reply w' h
    exact addsDoubles_of_resolve hrecipes h

/-- A service for which a clock has been created when its number is found missing, and a part whose
constructor is resolved after that. -/
theorem unconfigured_leftovers_clock :
    let clock : TypeId := ⟨"Clock"⟩
    let number : TypeId := ⟨"Number"⟩
    let service : TypeId := ⟨"Service"⟩
    let part : TypeId := ⟨"Part"⟩
    let catalog : Catalog Unit := ⟨id, fun _ => .null, fun type =>
      if type = service then
        [.ofFunction
          { name := "new", params := [.capability "clock" clock, .value "number" number] }
          fun _ => .ok .null]
      else [.ofFunction { name := "new" } fun _ => .ok .null]⟩
    let start : World (Unit × List Deed) := { surroundings := ((), []) }
    let command : Command := .createBySignature service (.ofTypes [clock, number])
    let error : Error := .unresolvableParameter service "number" (.of number)
    let failed := after catalog idle start command
    let resolved := after catalog idle failed (.resolve part none {})
    (∃ w', start.perform catalog.watched idle command = (.error error, w') ∧ AddsDoubles start w') ∧
    failed.fixture.stage = .unconfigured ∧ failed.fixture.registry.entries ≠ [] ∧
    Lately Deed.leaves failed.deeds ∧
    (∃ construction filled, AddsDoubles failed filled ∧
      resolved.fixture = { filled.fixture with
        history := filled.fixture.history.record (.of part) construction }) ∧
    resolved.fixture.stage = .unconfigured ∧ resolved.fixture.history.records.entries ≠ [] ∧
    Lately Deed.records resolved.deeds := by
  intro clock number service part catalog start command error failed resolved
  have hstart : Reachable catalog start := Fresh.reachable ⟨⟨{}, rfl⟩, rfl⟩
  have hfailed : Reachable catalog failed := hstart.after (scripted_idle catalog) command
  have hresolved : Reachable catalog resolved := hfailed.after (scripted_idle catalog) _
  have hperform : start.perform catalog.watched idle command =
      (.error error, (start.perform catalog.watched idle command).2) := rfl
  have hentries : failed.fixture.registry.entries ≠ [] := by decide +kernel
  have hrecords : resolved.fixture.history.records.entries ≠ [] := by decide +kernel
  obtain ⟨-, herrors, -⟩ := unconfigured_leftovers catalog hstart rfl
  obtain ⟨⟨-, hleaves, -⟩, -, hresolves⟩ := unconfigured_leftovers catalog hfailed rfl
  obtain ⟨⟨-, -, hlately⟩, -⟩ := unconfigured_leftovers catalog hresolved rfl
  obtain ⟨construction, datum, filled, -, hfilled, hfixture⟩ :=
    hresolves idle part none {} _ (failed.perform catalog.watched idle (.resolve part none {})).2 rfl
  exact ⟨⟨_, hperform, herrors idle command service error _ rfl hperform⟩, rfl, hentries,
    hleaves hentries, ⟨construction, filled, hfilled, hfixture⟩, rfl, hrecords, hlately hrecords⟩

/-- **A fixture may be in its first stage although something is registered or recorded.** -/
theorem unconfigured_but_not_empty :
    let clock : TypeId := ⟨"Clock"⟩
    let number : TypeId := ⟨"Number"⟩
    let service : TypeId := ⟨"Service"⟩
    let part : TypeId := ⟨"Part"⟩
    let catalog : Catalog Unit := ⟨id, fun _ => .null, fun type =>
      if type = service then
        [.ofFunction
          { name := "new", params := [.capability "clock" clock, .value "number" number] }
          fun _ => .ok .null]
      else [.ofFunction { name := "new" } fun _ => .ok .null]⟩
    let start : World (Unit × List Deed) := { surroundings := ((), []) }
    let failed := after catalog idle start
      (.createBySignature service (.ofTypes [clock, number]))
    let resolved := after catalog idle start (.resolve part none {})
    (Reachable catalog failed ∧ failed.fixture.stage = .unconfigured ∧
      failed.fixture.registry.entries ≠ []) ∧
    (Reachable catalog resolved ∧ resolved.fixture.stage = .unconfigured ∧
      resolved.fixture.history.records.entries ≠ []) := by
  intro clock number service part catalog start failed resolved
  have hstart : Reachable catalog start := Fresh.reachable ⟨⟨{}, rfl⟩, rfl⟩
  have hidle : Scripted catalog idle := scripted_idle catalog
  exact ⟨⟨hstart.after hidle _, rfl, by decide +kernel⟩,
    ⟨hstart.after hidle _, rfl, by decide +kernel⟩⟩

end Watched

end World

end TestDoubles
