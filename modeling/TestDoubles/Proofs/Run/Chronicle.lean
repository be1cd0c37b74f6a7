import TestDoubles.Proofs.Run.Kept
import TestDoubles.Proofs.Run.Records

/-!
# The history as a log

A construction is recorded when everything else is done: the parameters have been filled, by factories
that may have constructed other types meanwhile or failed to, and the function of the constructor has
built an instance. To say that the history misses none of these calls and invents none, the functions
of the constructors are made to keep a log of their own, beside the surroundings, and the two are
compared along whole runs.

- `Catalog.logging` adds the log to a catalog, and `Conduct.logged` leaves it to the constructors.
- `World.Logged` is what everything keeps to: what is new in the log, and nothing else, has been
  recorded.
- `World.history_is_log` says what follows for single commands, for constructions within
  constructions, and for all worlds that come up.
-/

namespace TestDoubles

variable {E : Type}

/-- The same catalog beside a log, in which its constructors note what they have built. -/
def Catalog.logging (catalog : Catalog E) : Catalog (E × List Call) where
  mockOf := catalog.mockOf
  defaultOf := catalog.defaultOf
  constructors type := (catalog.constructors type).map fun constructor =>
    { constructor with
      build := fun intake s =>
        match constructor.build intake s.1 with
        | (.ok datum, surroundings) =>
          (.ok datum, surroundings,
            s.2 ++ [⟨intake.target, constructor.toDeclaration, intake.injections⟩])
        | (.error e, surroundings) => (.error e, surroundings, s.2) }

/-- Nothing is torn down, and nobody but the constructors writes the log. -/
def Conduct.logged : Conduct (E × List Call) where
  begins s := s.2 = []
  admits _ command := command ≠ .reset
  wanders s s' := s'.2 = s.2
  notes _ s s' := s'.2 = s.2

section Constructors

variable {catalog : Catalog E} {target : TypeId} {constructor : Constructor (E × List Call)}
  {intake : Intake} {s s' : E × List Call}

/-- A constructor that fails writes nothing. -/
theorem Catalog.logging_error {e : Error} (h : constructor ∈ catalog.logging.constructors target)
    (hbuild : constructor.build intake s = (.error e, s')) : s'.2 = s.2 := by
  obtain ⟨original, -, rfl⟩ := List.mem_map.mp h
  dsimp only at hbuild
  split at hbuild
  · cases (Prod.mk.inj hbuild).1
  · obtain ⟨-, rfl⟩ := Prod.mk.inj hbuild
    rfl

/-- A constructor that builds an instance writes what it was called with. -/
theorem Catalog.logging_ok {datum : Datum} (h : constructor ∈ catalog.logging.constructors target)
    (hbuild : constructor.build intake s = (.ok datum, s')) :
    s'.2 = s.2 ++ [⟨intake.target, constructor.toDeclaration, intake.injections⟩] := by
  obtain ⟨original, -, rfl⟩ := List.mem_map.mp h
  dsimp only at hbuild
  split at hbuild
  · obtain ⟨-, rfl⟩ := Prod.mk.inj hbuild
    rfl
  · cases (Prod.mk.inj hbuild).1

end Constructors

namespace World

/-- The log: what has been built so far, in order. -/
def calls (w : World (E × List Call)) : List Call :=
  w.surroundings.2

/-- What has been built since `w` has been recorded, in this order, and nothing else has. -/
def Logged (w w' : World (E × List Call)) : Prop :=
  ∃ new, w'.calls = w.calls ++ new ∧ w'.fixture.history = w.fixture.history.recordAll new

/-! ## Parts of runs -/

namespace Logged

variable {w w' w'' : World (E × List Call)}

/-- Whatever leaves the log and the history alone. -/
theorem of_eq (hcalls : w'.calls = w.calls) (hhistory : w'.fixture.history = w.fixture.history) :
    Logged w w' :=
  ⟨[], by rw [hcalls, List.append_nil], hhistory⟩

theorem refl (w : World (E × List Call)) : Logged w w :=
  of_eq rfl rfl

theorem trans (h : Logged w w') (h' : Logged w' w'') : Logged w w'' := by
  obtain ⟨new, hcalls, hhistory⟩ := h
  obtain ⟨new', hcalls', hhistory'⟩ := h'
  refine ⟨new ++ new', by rw [hcalls', hcalls, List.append_assoc], ?_⟩
  rw [hhistory', hhistory, History.recordAll_append]

theorem enter {key : Key} (henter : w.enter key = .ok w') : Logged w w' := by
  obtain ⟨-, rfl⟩ := enter_eq_ok_iff.mp henter
  exact of_eq rfl rfl

theorem bracket {entered : World (E × List Call)} {key : Key} (henter : w.enter key = .ok entered)
    (h : Logged entered w') : Logged w w'.leave :=
  (enter henter).trans (h.trans (of_eq rfl rfl))

/-- The function of a constructor builds an instance, and the construction is recorded. -/
theorem record {catalog : Catalog E} {target : TypeId} {constructor : Constructor (E × List Call)}
    {injections : List Injection} {datum : Datum} {s : E × List Call}
    (hconstructor : constructor ∈ catalog.logging.constructors target)
    (hbuild : constructor.build ⟨target, injections⟩ w.surroundings = (.ok datum, s)) :
    Logged w ((w.mapSurroundings fun _ => s).record (.of target)
      ⟨constructor.toDeclaration, injections⟩) :=
  ⟨[⟨target, constructor.toDeclaration, injections⟩], Catalog.logging_ok hconstructor hbuild, rfl⟩

end Logged

/-- **Runs are logged.** Only the functions of constructors write the log, and only recording writes
the history; each construction does both. -/
theorem kept_logged (catalog : Catalog E) :
    Kept catalog.logging Conduct.logged (Logged (E := E)) where
  refl := Logged.refl
  trans := Logged.trans
  reports hpasses hsame := .of_eq (congrArg Prod.snd hsame) (by rw [hpasses.fixture])
  outside hpasses hwanders := .of_eq hwanders (by rw [hpasses.fixture])
  answered _ _ _ hperformed hnote := hperformed.trans (.of_eq hnote rfl)
  operated _ _ := .of_eq rfl rfl
  rewritten _ _ := .of_eq rfl rfl
  configured _ := .of_eq rfl rfl
  reset hadmits := absurd rfl hadmits
  bracket := Logged.bracket
  failed hcalled hdone hnote := .bracket hcalled.enters (hdone.trans (.of_eq hnote rfl))
  unshared hcalled _ hdone hnote := .bracket hcalled.enters (hdone.trans (.of_eq hnote rfl))
  shared hcalled _ hdone hnote := .bracket hcalled.enters (hdone.trans (.of_eq hnote rfl))
  mocked _ := .of_eq rfl rfl
  unbuilt hconstructor hbuild := .of_eq (Catalog.logging_error hconstructor hbuild) rfl
  recorded hconstructor _ hfilled hbuild :=
    hfilled.trans (.record (Fixture.mem_of_visible hconstructor) hbuild)
  frozen w key := .of_eq rfl (Fixture.history_freeze w.fixture key)
  built _ := .of_eq rfl rfl

/-! ## Constructions within constructions

What a factory constructs while the parameters of a constructor are filled is logged before the call
of that constructor itself. -/

section Nested

variable {catalog : Catalog E} {run : Runner (E × List Call)} {w w' : World (E × List Call)}
  {id : FactoryId} {started : World (E × List Call)}

/-- The factory that is started for a key is the one whose end is waited for. -/
theorem Produced.logged {key : Key} {answer : Except Error (Option Stored)}
    (h : Produced catalog.logging run key w (answer, w')) (hstarts : ProduceStarts key w id started) :
    Logged (run id started).2 w' := by
  obtain ⟨hrecipe, hfactory, henter⟩ := hstarts
  cases h with
  | noFactory hnone => cases hasFactory_of_recipe hrecipe hfactory ▸ hnone
  | cyclic hrecipe' hfactory' henter' => cases henter.symm.trans henter'
  | failed hrecipe' hfactory' henter' hrun =>
    obtain rfl := Option.some.inj (hrecipe.symm.trans hrecipe')
    obtain rfl := Option.some.inj (hfactory.symm.trans hfactory')
    obtain rfl := Except.ok.inj (henter.symm.trans henter')
    rw [hrun]
    exact .of_eq rfl rfl
  | transient hrecipe' hfactory' _ henter' hrun =>
    obtain rfl := Option.some.inj (hrecipe.symm.trans hrecipe')
    obtain rfl := Option.some.inj (hfactory.symm.trans hfactory')
    obtain rfl := Except.ok.inj (henter.symm.trans henter')
    rw [hrun]
    exact .of_eq rfl (Fixture.history_freeze _ _)
  | singleton hrecipe' hfactory' _ henter' hrun =>
    obtain rfl := Option.some.inj (hrecipe.symm.trans hrecipe')
    obtain rfl := Option.some.inj (hfactory.symm.trans hfactory')
    obtain rfl := Except.ok.inj (henter.symm.trans henter')
    rw [hrun]
    exact .of_eq rfl (Fixture.history_freeze _ _)

/-- A parameter for which nothing is found and a factory is started is filled by that factory. -/
theorem Provided.produced {target : TypeId} {param : Param}
    {answer : Except Error (Source × Stored)}
    (h : Provided catalog.logging run target param w (answer, w'))
    (hlookup : w.fixture.registry.lookup param.key = none)
    (hstarts : ProduceStarts param.key.unnamed w id started) :
    ∃ answer, Produced catalog.logging run param.key.unnamed w (answer, w') := by
  cases h with
  | registered hfound => cases hlookup.symm.trans hfound
  | failed _ h => exact ⟨_, h⟩
  | made _ h => exact ⟨_, h⟩
  | fellBack _ hnone _ =>
    obtain ⟨hrecipe, hfactory, -⟩ := hstarts
    cases hasFactory_of_recipe hrecipe hfactory ▸ hnone

/-- A factory that is started for a parameter has ended when the parameter is filled. -/
theorem Resolved.logged {target : TypeId} {explicit : Arguments} {param : Param} {used : List Bool}
    {result : Except Error (Injection × List Bool) × World (E × List Call)}
    (h : Resolved catalog.logging run target explicit param used w result)
    (hexplicit : explicit.find? param.key.type used = none)
    (hlookup : w.fixture.registry.lookup param.key = none)
    (hstarts : ProduceStarts param.key.unnamed w id started) : Logged (run id started).2 result.2 := by
  cases h with
  | explicit hsome => cases hexplicit.symm.trans hsome
  | provided _ h =>
    obtain ⟨_, hproduced⟩ := h.produced hlookup hstarts
    exact hproduced.logged hstarts
  | failed _ h =>
    obtain ⟨_, hproduced⟩ := h.produced hlookup hstarts
    exact hproduced.logged hstarts

/-- What follows the end of a factory that was started for a parameter; by induction on the
parameters before. -/
theorem ParamsStart.logged (hends : Ends Conduct.logged Logged run) {target : TypeId}
    {constructor : Constructor (E × List Call)}
    (hconstructor : constructor ∈ catalog.logging.constructors target) {explicit : Arguments}
    {params : List Param} (hparams : params ⊆ constructor.params) {used : List Bool}
    (h : ParamsStart catalog.logging run target explicit params used w id started) :
    Logged (run id started).2
      (w.resolveParams catalog.logging run target explicit params used).2 := by
  have hkept := kept_logged catalog
  induction h with
  | @here param params used w started id hexplicit hlookup hstarts =>
    obtain ⟨-, hrest⟩ := List.cons_subset.mp hparams
    have hended := (resolved catalog.logging run target explicit param used w).logged hexplicit
      hlookup hstarts
    rcases hfirst : w.resolveArgument catalog.logging run target explicit param used with
      ⟨e | ⟨injection, used₁⟩, w₁⟩
    · rw [hfirst] at hended
      rw [resolveParams_cons_of_error hfirst]
      exact hended
    · -- The later parameters are filled after the factory has ended.
      rw [hfirst] at hended
      rw [resolveParams_cons_of_ok hfirst]
      have hreported : Logged w₁ (w₁.emit [.resolvedArgument injection.parameter injection.source]) :=
        .of_eq rfl rfl
      exact hended.trans (hreported.trans
        (hkept.within.resolveParams hconstructor explicit hrest used₁ _
          fun id started _ => hends id started))
  | @there param params used used₁ w w₁ started id injection hfirst _ ih =>
    obtain ⟨-, hrest⟩ := List.cons_subset.mp hparams
    rw [resolveParams_cons_of_ok hfirst]
    exact ih hrest

/-- The construction was recorded after everything else that was built since `w`. -/
structure RecordedLast (target : TypeId) (construction : Construction) (nested : List Call)
    (w w' : World (E × List Call)) : Prop where
  calls : w'.calls = w.calls ++ nested ++ [⟨target, construction⟩]
  history : w'.fixture.history =
    (w.fixture.history.recordAll nested).record (.of target) construction

/-- What the factory built since it was started is part of `nested`, which has been built since
`w`. -/
def BuiltWithin (run : Runner (E × List Call)) (nested : List Call) (w : World (E × List Call))
    (id : FactoryId) (started : World (E × List Call)) : Prop :=
  ∃ before during after, nested = before ++ during ++ after ∧
    started.calls = w.calls ++ before ∧ (run id started).2.calls = started.calls ++ during

/-- The construction that is recorded last is the last one of its type. -/
theorem RecordedLast.getLast? {target : TypeId} {construction : Construction} {nested : List Call}
    (h : RecordedLast target construction nested w w') :
    (w'.fixture.history.recorded (.of target)).getLast? = some construction := by
  rw [h.history, History.recorded_record, if_pos rfl]
  exact List.getLast?_concat

theorem logged_of_ends (hends : Ends Conduct.logged Logged run) (id : FactoryId)
    (started : World (E × List Call)) : Logged started (run id started).2 := by
  obtain ⟨done, s, hdone, hnote, heq⟩ := hends id started
  rw [heq]
  exact hdone.trans (.of_eq hnote rfl)

/-- A factory that started after `w` and ended before `w'` built in between. -/
theorem builtWithin (hends : Ends Conduct.logged Logged run) {nested : List Call}
    (hbefore : Logged w started) (hafter : Logged (run id started).2 w')
    (hcalls : w'.calls = w.calls ++ nested) : BuiltWithin run nested w id started := by
  obtain ⟨before, hbefore, -⟩ := hbefore
  obtain ⟨during, hduring, -⟩ := logged_of_ends hends id started
  obtain ⟨after, hafter, -⟩ := hafter
  refine ⟨before, during, after, ?_, hbefore, hduring⟩
  apply (List.append_right_inj w.calls).mp
  rw [← hcalls, hafter, hduring, hbefore]
  simp only [List.append_assoc]

/-- **What is constructed by the way comes first.** -/
theorem Built.recordedLast (hends : Ends Conduct.logged Logged run) {target : TypeId}
    {signature : Option Signature} {explicit : Arguments} {construction : Construction}
    {datum : Datum}
    (h : Built catalog.logging run target signature explicit w (.ok (construction, datum), w')) :
    ∃ nested, RecordedLast target construction nested w w' ∧
      ∀ id started, ResolveStarts catalog.logging run target signature explicit w id started →
        BuiltWithin run nested w id started := by
  have hkept := kept_logged catalog
  cases h with
  | @built constructor _ events _ injections used filled s hselect hparams hbuild =>
    have hconstructor := Fixture.mem_of_select hselect
    have hfilled := hkept.within.filled (fun id started _ => hends id started) hselect hparams
    obtain ⟨nested, hcalls, hhistory⟩ := hfilled
    refine ⟨nested, ⟨?_, ?_⟩, ?_⟩
    · -- After the last parameter, only the function of the constructor writes the log.
      rw [← hcalls]
      exact Catalog.logging_ok hconstructor hbuild
    · rw [← hhistory]
      rfl
    · rintro id started ⟨hselect', hstarts⟩
      have hbefore := hkept.within.resolveStarts Logged.enter
        (fun id started _ => hends id started) ⟨hselect', hstarts⟩
      obtain ⟨hchoice, rfl⟩ := Prod.mk.inj (hselect.symm.trans hselect')
      obtain ⟨rfl, -⟩ := Prod.mk.inj (Except.ok.inj hchoice)
      have hafter := hstarts.logged hends hconstructor (List.Subset.refl _)
      rw [hparams] at hafter
      exact builtWithin hends hbefore hafter hcalls

/-- The same for an instance that is created by a constructor. -/
theorem Created.recordedLast (hends : Ends Conduct.logged Logged run) {target : TypeId}
    {signature : Option Signature} {arguments : Option Arguments} {datum : Datum}
    (hnone : w.fixture.hasFactory (.of target) = false)
    (h : Created catalog.logging run target signature arguments w (.ok datum, w')) :
    ∃ construction nested, RecordedLast target construction nested w w' ∧
      ∀ id started, CreateStarts catalog.logging run target signature arguments w id started →
        BuiltWithin run nested w id started := by
  obtain ⟨entered, construction, done, henter, hbuilt, rfl⟩ := h.exists_built catalog.logging run hnone
  obtain ⟨nested, ⟨hcalls, hhistory⟩, hwithin⟩ := hbuilt.recordedLast hends
  obtain ⟨-, rfl⟩ := enter_eq_ok_iff.mp henter
  -- Entering and leaving, fixing the recipe and moving on to the last stage leave the history alone.
  refine ⟨construction, nested, ⟨hcalls, (history_created done (.of target)).trans hhistory⟩, ?_⟩
  intro id started hstarts
  cases hstarts with
  | factory _ hrecipe hfactory _ => cases hasFactory_of_recipe hrecipe hfactory ▸ hnone
  | resolved henter' _ hstarts =>
    obtain rfl := Except.ok.inj (henter.symm.trans henter')
    exact hwithin id started hstarts

end Nested

/-- In every world that comes up, the history holds what is in the log, and nothing else. -/
theorem Reachable.history_eq {catalog : Catalog E} {w : World (E × List Call)}
    (hw : Reachable catalog.logging Conduct.logged w) :
    w.fixture.history = History.empty.recordAll w.calls := by
  obtain ⟨start, ⟨⟨options, hoptions⟩, hbegins⟩, hleads⟩ := hw
  obtain ⟨new, hcalls, hhistory⟩ := (kept_logged catalog).leads Logged.enter hleads
  have hnone : start.calls = [] := hbegins
  rw [hnone, List.nil_append] at hcalls
  rw [hhistory, hcalls, hoptions]
  rfl

/-- **The history is an exact log.** Without a teardown, whatever a command comes to, it adds to the
history what constructors have built meanwhile, in order and at the end, and nothing else. When a
constructor has been called for an instance, its construction is recorded last of its type, after all
that the factories for its parameters have built. And in all worlds that come up the history lists the
types in the order in which they were first constructed, each once and without a name, with what was
constructed of it. -/
theorem history_is_log (catalog : Catalog E) :
    (∀ run, Scripted catalog.logging Conduct.logged run →
      ∀ (w : World (E × List Call)) (command : Command), command ≠ .reset →
      ∃ new, (w.perform catalog.logging run command).2.calls = w.calls ++ new ∧
        w.fixture.history.Extends (w.perform catalog.logging run command).2.fixture.history ∧
        (w.perform catalog.logging run command).2.fixture.history.constructionCount =
          w.fixture.history.constructionCount + new.length) ∧
    (∀ run, Scripted catalog.logging Conduct.logged run →
      ∀ (w w' : World (E × List Call)) target signature explicit construction datum,
      w.resolve catalog.logging run target signature explicit = (.ok (construction, datum), w') →
      (w'.fixture.history.recorded (.of target)).getLast? = some construction ∧
      ∃ nested, RecordedLast target construction nested w w' ∧
        ∀ id started, ResolveStarts catalog.logging run target signature explicit w id started →
          BuiltWithin run nested w id started) ∧
    (∀ run, Scripted catalog.logging Conduct.logged run →
      ∀ (w w' : World (E × List Call)) target signature arguments datum,
      w.fixture.hasFactory (.of target) = false →
      w.create catalog.logging run target signature arguments = (.ok datum, w') →
      ∃ construction nested, RecordedLast target construction nested w w' ∧
        ∀ id started, CreateStarts catalog.logging run target signature arguments w id started →
          BuiltWithin run nested w id started) ∧
    (∀ w, Reachable catalog.logging Conduct.logged w →
      w.fixture.history.keys = (w.calls.map Call.key).eraseDups ∧
      w.fixture.history.keys.Nodup ∧
      (∀ key ∈ w.fixture.history.keys, key.name = none ∧ Call.under key w.calls ≠ [] ∧
        w.fixture.history.find? key = some (Call.under key w.calls)) ∧
      w.fixture.history.constructionCount = w.calls.length) := by
  have hkept := kept_logged catalog
  refine ⟨?_, ?_, ?_, ?_⟩
  · intro run hrun w command hreset
    obtain ⟨new, hcalls, hhistory⟩ := hkept.perform (hkept.ends hrun) hreset
    refine ⟨new, hcalls, ?_, ?_⟩
    · rw [hhistory]
      exact w.fixture.history.extends_recordAll new
    · rw [hhistory]
      exact w.fixture.history.constructionCount_recordAll new
  · intro run hrun w w' target signature explicit construction datum hresolve
    have hbuilt := World.built catalog.logging run target signature explicit w
    rw [hresolve] at hbuilt
    obtain ⟨nested, hlast, hwithin⟩ := hbuilt.recordedLast (hkept.ends hrun)
    exact ⟨hlast.getLast?, nested, hlast, hwithin⟩
  · intro run hrun w w' target signature arguments datum hnone hcreate
    have hcreated := created catalog.logging run target signature arguments w
    rw [hcreate] at hcreated
    exact hcreated.recordedLast (hkept.ends hrun) hnone
  · intro w hw
    rw [hw.history_eq]
    have hkeys := History.keys_recordAll w.calls
    refine ⟨hkeys, History.nodup_keys_recordAll w.calls, ?_, ?_⟩
    · intro key hkey
      rw [hkeys, List.mem_eraseDups] at hkey
      obtain ⟨call, -, rfl⟩ := List.mem_map.mp hkey
      have hunder : Call.under call.key w.calls ≠ [] := by
        rw [ne_eq, Call.under_eq_nil_iff, Classical.not_not]
        exact hkey
      refine ⟨rfl, hunder, ?_⟩
      rw [History.find?_recordAll, if_neg hunder]
    · rw [History.constructionCount_recordAll, History.constructionCount_empty, Nat.zero_add]

/-- A service whose tool comes from a factory, which makes a part on the way and fails to make
another. -/
theorem history_is_log_nested :
    let part : TypeId := ⟨"Part"⟩
    let broken : TypeId := ⟨"Broken"⟩
    let tool : TypeId := ⟨"Tool"⟩
    let service : TypeId := ⟨"Service"⟩
    let catalog : Catalog Unit := ⟨id, fun _ => .null, fun type =>
      if type = service then
        [.ofFunction { name := "new", params := [.concrete "tool" tool] } fun _ => .ok .null]
      else if type = broken then [.ofFunction { name := "new" } fun _ =>
        .error (.constructionFailed broken (.stated "it is broken"))]
      else [.ofFunction { name := "new" } fun _ => .ok .null]⟩
    let inner : Runner (Unit × List Call) := idle
    let run : Runner (Unit × List Call) := fun _ w =>
      (.ok .null, w.performAll catalog.logging inner [.create part none, .create broken none])
    let start : World (Unit × List Call) := { surroundings := ((), []) }
    let ready := start.performAll catalog.logging run [.addType tool .transient ⟨0⟩]
    let done := (ready.perform catalog.logging run (.create service none)).2
    let again := (ready.resolve catalog.logging run part none {}).2
    (∃ new, done.calls = ready.calls ++ new ∧ new.map Call.target = [part, service] ∧
      ready.fixture.history.Extends done.fixture.history ∧
      done.fixture.history.constructionCount = ready.fixture.history.constructionCount + 2) ∧
    (again.fixture.history.recorded (.of part)).getLast? = some ⟨{ name := "new" }, []⟩ ∧
    (∃ construction nested, RecordedLast service construction nested ready done) ∧
    done.fixture.history.keys = [.of part, .of service] ∧ done.fixture.history.keys.Nodup ∧
    done.fixture.history.constructionCount = done.calls.length := by
  intro part broken tool service catalog inner run start ready done again
  have hinner : Scripted catalog.logging Conduct.logged inner :=
    scripted_idle catalog.logging fun _ _ => rfl
  have hrun : Scripted catalog.logging Conduct.logged run := by
    refine .nest hinner fun id w => ?_
    have hsteps : Steps catalog.logging Conduct.logged inner w (run id w).2 :=
      steps_performAll (by simp [Conduct.logged]) (fun _ _ _ => rfl) w
    exact ⟨(run id w).2, (run id w).2.surroundings, hsteps, rfl, rfl⟩
  have hstart : Reachable catalog.logging Conduct.logged start := Fresh.reachable ⟨⟨{}, rfl⟩, rfl⟩
  have hready : Reachable catalog.logging Conduct.logged ready :=
    hstart.performAll hrun (by simp [Conduct.logged]) fun _ _ _ => rfl
  have hdone : Reachable catalog.logging Conduct.logged done :=
    hready.leads (.single (.step hrun
      (.command (.create service none) (by simp [Conduct.logged]) fun _ _ => rfl)))
  obtain ⟨hcommands, hresolves, hcreates, hworlds⟩ := history_is_log catalog
  obtain ⟨new, hcalls, hextends, hcount⟩ := hcommands run hrun ready (.create service none) (by simp)
  obtain ⟨hkeys, hnodup, -, htotal⟩ := hworlds done hdone
  have hnew : new.map Call.target = [part, service] := by
    have hnone : ready.calls = [] := rfl
    rw [← List.nil_append new, ← hnone, ← hcalls]
    decide +kernel
  have hlength : new.length = 2 := by rw [← List.length_map Call.target, hnew]; rfl
  refine ⟨⟨new, hcalls, hnew, hextends, hlength ▸ hcount⟩, ?_, ?_, ?_, hnodup, htotal⟩
  · exact (hresolves run hrun ready again part none {} _ .null rfl).1
  · obtain ⟨construction, nested, hlast, -⟩ :=
      hcreates run hrun ready done service none none .null rfl rfl
    exact ⟨construction, nested, hlast⟩
  · rw [hkeys]
    decide +kernel

end World

end TestDoubles
