import TestDoubles.Proofs.Run.Chronicle

/-!
# Well-formed records

A construction is on record with its constructor and with what each parameter has received. Three parts
of the library have a say in that: a constructor is selected among those that the options admit, its
parameters are filled one after the other, and its function is called. Here it is shown what the records
say, in whatever order such constructions have been nested, have failed or have been forgotten.

- `Construction.WellFormed` says of a record that it fits its constructor and the options, and
  `World.WellRecorded` that all records of a fixture do.
- `World.Records` is what every run keeps to: the options stay, and so do well-formed records.
- `World.RecordsCalls` compares the records with the calls of constructors, of which a teardown forgets
  those before it.
-/

namespace TestDoubles

variable {E : Type}

/-- What a parameter has received is on record under its name and its key, and a default only where the
kind of the parameter and the options let it have one. -/
structure Injection.Documents (options : Options) (param : Param) (injection : Injection) : Prop where
  parameter : injection.parameter = param.name
  key : injection.key = param.key
  of_defaultValue : injection.source = .defaultValue →
    param.kind = .value ∧ options.defaultValues = true
  of_constructed : injection.source = .constructed → param.kind = .concrete

/-- A record of a construction of `target` under these options. -/
structure Construction.WellFormed (catalog : Catalog E) (options : Options) (target : TypeId)
    (construction : Construction) : Prop where
  -- The constructor is one that the type declares and that the options admit.
  declared : construction.constructor ∈
    (catalog.constructors target).map Constructor.toDeclaration
  visible : options.nonPublicConstructors = false → construction.constructor.visibility = .isPublic
  -- There is one argument for each parameter, in order.
  injections : List.Forall₂ (Injection.Documents options) construction.constructor.params
    construction.injections

/-- Nobody but the constructors writes the log; apart from that, everything is allowed. -/
def Conduct.unlogging : Conduct (E × List Call) where
  begins s := s.2 = []
  wanders s s' := s'.2 = s.2
  notes _ s s' := s'.2 = s.2

namespace World

/-! ## What is put on record -/

section Filling

variable {catalog : Catalog E} {run : Runner E} {target : TypeId} {param : Param} {w w' : World E}

/-- Defaults are provided only where they may be. -/
theorem Provided.of_default {source : Source} {value : Stored}
    (h : Provided catalog run target param w (.ok (source, value), w')) :
    (source = .defaultValue → param.kind = .value ∧ w.fixture.options.defaultValues = true) ∧
      (source = .constructed → param.kind = .concrete) := by
  cases h with
  | @registered _ origin _ => cases origin <;> simp [Source.ofOrigin]
  | made _ _ => simp
  | fellBack _ _ hfellBack =>
    cases hfellBack with
    | mocked _ _ => simp
    | defaultValue hkind hoptions => exact ⟨fun _ => ⟨hkind, hoptions⟩, by simp⟩
    | constructed hkind => exact ⟨by simp, fun _ => hkind⟩

theorem Resolved.documents {explicit : Arguments} {used used' : List Bool} {injection : Injection}
    (h : Resolved catalog run target explicit param used w (.ok (injection, used'), w')) :
    injection.Documents w.fixture.options param := by
  cases h with
  | explicit _ => exact ⟨rfl, rfl, by simp, by simp⟩
  | provided _ hprovided =>
    obtain ⟨hdefault, hconstructed⟩ := hprovided.of_default
    exact ⟨rfl, rfl, hdefault, hconstructed⟩

end Filling

/-! ## Records along runs -/

/-- All records are well formed, and kept under the key of their type. -/
def WellRecorded (catalog : Catalog E) (w : World E) : Prop :=
  ∀ key, ∀ construction ∈ w.fixture.history.recorded key,
    key.name = none ∧ construction.WellFormed catalog w.fixture.options key.type

/-- The options stay as they are, and records that are well formed stay so. -/
structure Records (catalog : Catalog E) (w w' : World E) : Prop where
  options : w'.fixture.options = w.fixture.options
  recorded : WellRecorded catalog w → WellRecorded catalog w'

namespace Records

variable {catalog : Catalog E} {w w' w'' : World E}

/-- Whatever leaves the options and the history alone. -/
theorem of_eq (hoptions : w'.fixture.options = w.fixture.options)
    (hhistory : w'.fixture.history = w.fixture.history) : Records catalog w w' := by
  refine ⟨hoptions, fun h => ?_⟩
  unfold WellRecorded
  rw [hoptions, hhistory]
  exact h

theorem refl (w : World E) : Records catalog w w :=
  of_eq rfl rfl

theorem trans (h : Records catalog w w') (h' : Records catalog w' w'') : Records catalog w w'' :=
  ⟨h'.options.trans h.options, fun hrecorded => h'.recorded (h.recorded hrecorded)⟩

theorem enter {key : Key} (henter : w.enter key = .ok w') : Records catalog w w' := by
  obtain ⟨-, rfl⟩ := enter_eq_ok_iff.mp henter
  exact of_eq rfl rfl

theorem bracket {entered : World E} {key : Key} (henter : w.enter key = .ok entered)
    (h : Records catalog entered w') : Records catalog w w'.leave :=
  (enter henter).trans (h.trans (of_eq rfl rfl))

/-- A well-formed construction is recorded. -/
theorem record {target : TypeId} {construction : Construction}
    (h : construction.WellFormed catalog w.fixture.options target) :
    Records catalog w (w.record (.of target) construction) := by
  refine ⟨rfl, fun hrecorded key other hother => ?_⟩
  have hmem : other ∈ (w.fixture.history.record (.of target) construction).recorded key := hother
  rw [History.recorded_record] at hmem
  split at hmem
  next hkey =>
    subst hkey
    rcases List.mem_append.mp hmem with hold | hnew
    · exact hrecorded (.of target) other hold
    · rw [List.mem_singleton.mp hnew]
      exact ⟨rfl, h⟩
  next => exact hrecorded key other hmem

/-- Nothing is on record after a teardown. -/
theorem reset (w : World E) : Records catalog w w.reset :=
  ⟨rfl, fun _ _ _ hnone => nomatch hnone⟩

/-- **Runs keep records well formed.** -/
theorem kept (catalog : Catalog E) (conduct : Conduct E) :
    Kept catalog conduct (Records catalog) where
  refl := refl
  trans := trans
  reports hpasses _ := .of_eq (by rw [hpasses.fixture]) (by rw [hpasses.fixture])
  outside hpasses _ := .of_eq (by rw [hpasses.fixture]) (by rw [hpasses.fixture])
  answered _ _ _ hperformed _ := hperformed.trans (.of_eq rfl rfl)
  operated _ _ := .of_eq rfl rfl
  rewritten _ _ := .of_eq rfl rfl
  configured _ := .of_eq rfl rfl
  reset {w} _ := reset w
  bracket := bracket
  failed hcalled hdone _ := .bracket hcalled.enters (hdone.trans (.of_eq rfl rfl))
  unshared hcalled _ hdone _ := .bracket hcalled.enters (hdone.trans (.of_eq rfl rfl))
  shared hcalled _ hdone _ := .bracket hcalled.enters (hdone.trans (.of_eq rfl rfl))
  mocked _ := .of_eq rfl rfl
  unbuilt _ _ := .of_eq rfl rfl
  recorded {_ start w target _ constructor injections _ s} hconstructor hinjected hfilled _ := by
    obtain ⟨hdeclared, hadmitted⟩ := List.mem_filter.mp hconstructor
    have hformed : Construction.WellFormed catalog start.fixture.options target
        ⟨constructor.toDeclaration, injections⟩ := by
      refine ⟨List.mem_map_of_mem hdeclared, fun hpublic => ?_, ?_⟩
      · simpa [hpublic] using hadmitted
      · -- Each parameter was filled in some world on the way, whose options are those of the start.
        refine hinjected.imp ?_
        rintro param injection ⟨_, _, before, _, hreached, hresolved⟩
        exact hreached.options ▸ hresolved.documents
    have hbuilt : Records catalog w (w.mapSurroundings fun _ => s) := .of_eq rfl rfl
    refine hfilled.trans (hbuilt.trans (.record ?_))
    exact hfilled.options ▸ hformed
  frozen w key := .of_eq (Fixture.options_freeze w.fixture key) (Fixture.history_freeze w.fixture key)
  built _ := .of_eq rfl rfl

end Records

theorem Reachable.wellRecorded {catalog : Catalog E} {conduct : Conduct E} {w : World E}
    (hw : Reachable catalog conduct w) : WellRecorded catalog w := by
  obtain ⟨start, ⟨⟨options, hoptions⟩, -⟩, hleads⟩ := hw
  refine ((Records.kept catalog conduct).leads Records.enter hleads).recorded ?_
  intro key construction hnone
  rw [hoptions] at hnone
  cases hnone

/-! ## Records and calls -/

/-- What is on record is what constructors have built since some point of the log, and nothing else. -/
def RecordsCalls (w : World (E × List Call)) : Prop :=
  ∃ forgotten calls, w.calls = forgotten ++ calls ∧
    w.fixture.history = History.empty.recordAll calls

namespace RecordsCalls

variable {w w' : World (E × List Call)}

/-- What is built is recorded. -/
theorem logged (h : RecordsCalls w) (hlogged : Logged w w') : RecordsCalls w' := by
  obtain ⟨forgotten, calls, hcalls, hhistory⟩ := h
  obtain ⟨new, hcalls', hhistory'⟩ := hlogged
  refine ⟨forgotten, calls ++ new, by rw [hcalls', hcalls, List.append_assoc], ?_⟩
  rw [hhistory', hhistory, History.recordAll_append]

theorem of_eq (h : RecordsCalls w) (hcalls : w'.calls = w.calls)
    (hhistory : w'.fixture.history = w.fixture.history) : RecordsCalls w' :=
  h.logged (.of_eq hcalls hhistory)

/-- A teardown forgets all calls so far. -/
theorem reset (w : World (E × List Call)) : RecordsCalls w.reset :=
  ⟨w.calls, [], (List.append_nil _).symm, rfl⟩

theorem enter (h : RecordsCalls w) {key : Key} (henter : w.enter key = .ok w') : RecordsCalls w' :=
  h.logged (.enter henter)

/-- **Runs record calls.** -/
theorem kept (catalog : Catalog E) :
    Kept catalog.logging Conduct.unlogging fun w w' : World (E × List Call) =>
      RecordsCalls w → RecordsCalls w' where
  refl _ h := h
  trans h₁ h₂ h := h₂ (h₁ h)
  reports hpasses hsame h := h.of_eq (congrArg Prod.snd hsame) (by rw [hpasses.fixture])
  outside hpasses hwanders h := h.of_eq hwanders (by rw [hpasses.fixture])
  answered _ _ _ hperformed hnote h := (hperformed h).of_eq hnote rfl
  operated _ _ h := h.of_eq rfl rfl
  rewritten _ _ h := h.of_eq rfl rfl
  configured _ h := h.of_eq rfl rfl
  reset {w} _ _ := reset w
  bracket henter hdone h := (hdone (h.enter henter)).of_eq rfl rfl
  failed hcalled hdone hnote h := (hdone (h.enter hcalled.enters)).of_eq hnote rfl
  unshared hcalled _ hdone hnote h := (hdone (h.enter hcalled.enters)).of_eq hnote rfl
  shared hcalled _ hdone hnote h := (hdone (h.enter hcalled.enters)).of_eq hnote rfl
  mocked _ h := h.of_eq rfl rfl
  unbuilt hconstructor hbuild h := h.of_eq (Catalog.logging_error hconstructor hbuild) rfl
  recorded hconstructor _ hfilled hbuild h :=
    (hfilled h).logged (.record (Fixture.mem_of_visible hconstructor) hbuild)
  frozen w key h := h.of_eq rfl (Fixture.history_freeze w.fixture key)
  built _ h := h.of_eq rfl rfl

end RecordsCalls

theorem Reachable.recordsCalls {catalog : Catalog E} {w : World (E × List Call)}
    (hw : Reachable catalog.logging Conduct.unlogging w) : RecordsCalls w := by
  refine (RecordsCalls.kept catalog).reachable (fun henter h => h.enter henter) ?_ hw
  intro start hfresh
  obtain ⟨⟨options, hoptions⟩, -⟩ := hfresh
  refine ⟨start.calls, [], (List.append_nil _).symm, ?_⟩
  rw [hoptions]
  rfl

/-- **Records are well formed.** In every world that comes up, whatever stands under a key is a
construction of that type by a constructor that the type declares and the options admit, with one
argument for each parameter in order, under its name and key, and with defaults only where they may be.
And what is on record of a type are, from some point of the log on, all calls of its constructors that
built an instance, in order, each with what the function of the constructor has received. -/
theorem records_well_formed (catalog : Catalog E) :
    (∀ conduct w, Reachable catalog conduct w →
      ∀ key, ∀ construction ∈ w.fixture.history.recorded key,
        key.name = none ∧ construction.WellFormed catalog w.fixture.options key.type) ∧
    (∀ w, Reachable catalog.logging Conduct.unlogging w →
      ∃ forgotten calls, w.calls = forgotten ++ calls ∧
        ∀ key, w.fixture.history.recorded key = Call.under key calls) := by
  constructor
  · exact fun conduct w hw => hw.wellRecorded
  · intro w hw
    obtain ⟨forgotten, calls, hcalls, hhistory⟩ := hw.recordsCalls
    refine ⟨forgotten, calls, hcalls, fun key => ?_⟩
    rw [hhistory, History.recorded_recordAll]

/-- A service is constructed with a named double and two defaults, by the constructor that is public,
once before and once after a teardown. -/
theorem records_well_formed_forgotten :
    let clock : Key := ⟨⟨"Clock"⟩, some "spare"⟩
    let new : Declaration :=
      { name := "new"
        params := [⟨"clock", clock, .capability⟩, .value "n" ⟨"u32"⟩, .concrete "part" ⟨"Part"⟩] }
    let hidden : Declaration :=
      { name := "hidden", visibility := .nonPublic, params := new.params ++ new.params }
    let catalog : Catalog Unit := ⟨id, fun _ => .null, fun _ =>
      [.ofFunction hidden fun _ => .ok .null, .ofFunction new fun _ => .ok .null]⟩
    let run : Runner (Unit × List Call) := idle
    let start : World (Unit × List Call) :=
      { fixture := .new ⟨true, false⟩, surroundings := ((), []) }
    let done := start.performAll catalog.logging run
      [.create ⟨"Service"⟩ none, .reset, .create ⟨"Service"⟩ none]
    let construction (ref : Ref) : Construction :=
      ⟨new, [⟨"clock", clock, .autoMock, .object ⟨"Clock"⟩ ref⟩,
        ⟨"n", .of ⟨"u32"⟩, .defaultValue, .value ⟨"u32"⟩ .null⟩,
        ⟨"part", .of ⟨"Part"⟩, .constructed, .value ⟨"Part"⟩ .null⟩]⟩
    done.fixture.history.recorded (.of ⟨"Service"⟩) = [construction ⟨1⟩] ∧
      (construction ⟨1⟩).WellFormed catalog.logging ⟨true, false⟩ ⟨"Service"⟩ ∧
      done.calls = [⟨⟨"Service"⟩, construction ⟨0⟩⟩, ⟨⟨"Service"⟩, construction ⟨1⟩⟩] ∧
      ∃ forgotten calls, done.calls = forgotten ++ calls ∧
        Call.under (.of ⟨"Service"⟩) calls = [construction ⟨1⟩] := by
  intro clock new hidden catalog run start done construction
  have hstart : Reachable catalog.logging Conduct.unlogging start :=
    Fresh.reachable ⟨⟨⟨true, false⟩, rfl⟩, rfl⟩
  have hdone : Reachable catalog.logging Conduct.unlogging done :=
    hstart.performAll (scripted_idle catalog.logging fun _ _ => rfl)
      (fun _ _ _ => trivial) fun _ _ _ => rfl
  have hrecorded : done.fixture.history.recorded (.of ⟨"Service"⟩) = [construction ⟨1⟩] := rfl
  obtain ⟨hformed, -⟩ := records_well_formed catalog.logging
  obtain ⟨-, hcalls⟩ := records_well_formed catalog
  refine ⟨hrecorded, ?_, rfl, ?_⟩
  · have hmem : construction ⟨1⟩ ∈ done.fixture.history.recorded (.of ⟨"Service"⟩) := by
      rw [hrecorded]
      exact List.mem_singleton_self _
    exact (hformed Conduct.unlogging done hdone (.of ⟨"Service"⟩) _ hmem).2
  · obtain ⟨forgotten, calls, hlog, hunder⟩ := hcalls done hdone
    exact ⟨forgotten, calls, hlog, (hunder _).symm.trans hrecorded⟩

end World

end TestDoubles
