import TestDoubles.Proofs.Run.Sound

/-!
# One double, many views

A double is known to a test by its handle and to the code under test by the objects that are injected
for it, under its own key and under those of the capabilities combined into it. Here it is shown that
these are views of one object at all times, in the registries that operations produce and in those of
fixtures: a double that is replaced is replaced in all its views, and no two entries are views of one
object.
-/

namespace TestDoubles

namespace Registry

/-- What tests rely on when they hold doubles of a registry. -/
structure TellsApart (mockOf : TypeId → TypeId) (allocated : Nat) (r : Registry) : Prop where
  -- The object and the aliases of a double are views of it, and different entries have different ones.
  coherent : r.Coherent mockOf allocated
  -- What is answered is the double that is injected, and stays the answer for its key.
  answered {outcome : Outcome Mock} {mock : Mock} : Asks mockOf r ⟨allocated⟩ outcome →
    outcome.result = .ok mock →
      mock.handle = mock.object ∧ outcome.registry.Yields mockOf mock
  -- Two keys have one double only if one entry answers for both.
  shared {mock other : Mock} : r.Yields mockOf mock → r.Yields mockOf other →
    mock.handle = other.handle →
      ∃ i, r.position? mock.key = some i ∧ r.position? other.key = some i

theorem Arises.tellsApart {mockOf : TypeId → TypeId} {n : Nat} {r : Registry}
    (h : Arises mockOf n r) : r.TellsApart mockOf n where
  coherent := h.coherent
  answered := by
    intro outcome mock hasks hok
    have hyields := hasks.yields h.coherent.indexed hok
    exact ⟨(hasks.coherent h.coherent).handle_eq_object hyields, hyields⟩
  shared := h.coherent.position?_eq

end Registry

namespace World

variable {E : Type}

theorem register_eq_ok {α : Type} {operation : Registry → Ref → Registry.Outcome α}
    {w w' : World E} {a : α} (h : w.register operation = (.ok a, w')) :
    (operation w.fixture.registry ⟨w.allocated⟩).result = .ok a ∧
      w'.fixture.registry = (operation w.fixture.registry ⟨w.allocated⟩).registry := by
  unfold register at h
  split at h
  next b w₁ hoperation =>
    obtain ⟨hresult, rfl⟩ := Prod.mk.inj hoperation
    obtain ⟨hok, rfl⟩ := Prod.mk.inj h
    rw [Except.ok.inj hok] at hresult
    exact ⟨hresult, Fixture.registry_configured _⟩
  next => cases h

/-- The commands that answer with a double ask the registry for it. -/
theorem asks_of_perform {catalog : Catalog E} {run : Runner E} {command : Command} {mock : Mock}
    {w w' : World E} (h : w.perform catalog run command = (.ok (.mock mock), w')) :
    ∃ outcome, Registry.Asks catalog.mockOf w.fixture.registry ⟨w.allocated⟩ outcome ∧
      outcome.result = .ok mock ∧ w'.fixture.registry = outcome.registry := by
  have hregistered {operation : Registry → Ref → Registry.Outcome Mock}
      (hasks : ∀ r fresh, Registry.Asks catalog.mockOf r fresh (operation r fresh))
      (hperform : ((w.register operation).1.map Reply.mock, (w.register operation).2) =
        (.ok (.mock mock), w')) :
      ∃ outcome, Registry.Asks catalog.mockOf w.fixture.registry ⟨w.allocated⟩ outcome ∧
        outcome.result = .ok mock ∧ w'.fixture.registry = outcome.registry := by
    rcases hregister : w.register operation with ⟨e | answer, w₁⟩
    · rw [hregister] at hperform
      cases hperform
    · rw [hregister] at hperform
      obtain ⟨hok, rfl⟩ := Prod.mk.inj hperform
      obtain rfl := Reply.mock.inj (Except.ok.inj hok)
      obtain ⟨hresult, hregistry⟩ := register_eq_ok hregister
      exact ⟨_, hasks _ _, hresult, hregistry⟩
  have hother {α : Type} {answer : Except Error α} {reply : α → Reply}
      (hanswer : answer.map reply = .ok (.mock mock)) (hreply : ∀ a, reply a ≠ .mock mock) :
      False := by
    cases answer with
    | error e => cases hanswer
    | ok a => exact hreply a (Except.ok.inj hanswer)
  cases command with
  | getMock capability name =>
    exact hregistered (fun r fresh => .getOrCreateMock capability name) h
  | addCustomMock capability name =>
    exact hregistered (fun r fresh => .addCustomMock capability name) h
  | combine capability other => exact hregistered (fun r fresh => .combine capability other) h
  | useInstance _ _ => cases (Prod.mk.inj h).1
  | useValue _ _ => cases (Prod.mk.inj h).1
  | reset => cases (Prod.mk.inj h).1
  | getObject _ => exact (hother (Prod.mk.inj h).1 fun _ => nofun).elim
  | addType _ _ _ => exact (hother (Prod.mk.inj h).1 fun _ => nofun).elim
  | setArguments _ _ => exact (hother (Prod.mk.inj h).1 fun _ => nofun).elim
  | create _ _ => exact (hother (Prod.mk.inj h).1 fun _ => nofun).elim
  | createBySignature _ _ => exact (hother (Prod.mk.inj h).1 fun _ => nofun).elim
  | resolve _ _ _ => exact (hother (Prod.mk.inj h).1 fun _ => nofun).elim

end World

namespace Registry

/-- **Every double is one object in all its views**, and no two entries share one, in every registry
that comes of operations and in every registry of a fixture; so whoever asks for a double gets the
object that is injected, and gets one double for two keys only if one entry answers for both. -/
theorem doubles_tell_apart {E : Type} (catalog : Catalog E) (conduct : Conduct E) :
    (∀ n r, Arises catalog.mockOf n r → r.TellsApart catalog.mockOf n) ∧
    (∀ w, World.Reachable catalog conduct w →
      w.fixture.registry.TellsApart catalog.mockOf w.allocated ∧
      ∀ run command mock w', w.perform catalog run command = (.ok (.mock mock), w') →
        mock.handle = mock.object ∧ w'.fixture.registry.Yields catalog.mockOf mock) := by
  constructor
  · exact fun n r h => h.tellsApart
  · intro w hw
    have hdoubles := hw.sound.registry.tellsApart
    refine ⟨hdoubles, ?_⟩
    intro run command mock w' hperform
    obtain ⟨outcome, hasks, hok, hregistry⟩ := World.asks_of_perform hperform
    rw [hregistry]
    exact hdoubles.answered hasks hok

/-- A logger that also serves as an audit trail is replaced by another one, which then serves as
both. -/
theorem doubles_tell_apart_replaced :
    let catalog : Catalog Unit := ⟨fun _ => ⟨"MockLogger"⟩, fun _ => .null, fun _ => []⟩
    let run : Runner Unit := World.idle
    let combined := (empty.combine catalog.mockOf ⟨0⟩ ⟨"Logger"⟩ ⟨"AuditTrail"⟩).registry
    let replaced := combined.addCustomMock catalog.mockOf ⟨1⟩ ⟨"Logger"⟩ none
    let logger : Mock := ⟨.of ⟨"Logger"⟩, ⟨1⟩, ⟨1⟩⟩
    let audit : Mock := ⟨.of ⟨"AuditTrail"⟩, ⟨1⟩, ⟨1⟩⟩
    let start : World Unit := { surroundings := () }
    let used := start.performAll catalog run [.combine ⟨"Logger"⟩ ⟨"AuditTrail"⟩]
    replaced.result = .ok logger ∧ replaced.registry.Yields catalog.mockOf logger ∧
      replaced.registry.Yields catalog.mockOf audit ∧
      (∃ i, replaced.registry.position? logger.key = some i ∧
        replaced.registry.position? audit.key = some i) ∧
      replaced.registry.lookup audit.key = some (.object ⟨"AuditTrail"⟩ ⟨1⟩, .customMock) ∧
      used.fixture.registry.Coherent catalog.mockOf 1 ∧
      (used.perform catalog run (.addCustomMock ⟨"Logger"⟩ none)).2.fixture.registry.Yields
        catalog.mockOf logger := by
  intro catalog run combined replaced logger audit start used
  have hcombined : Arises catalog.mockOf 1 combined :=
    .asks (.combine ⟨"Logger"⟩ ⟨"AuditTrail"⟩) (.empty 0)
  have hasks : Asks catalog.mockOf combined ⟨1⟩ replaced := .addCustomMock ⟨"Logger"⟩ none
  have hstart : World.Reachable catalog {} start := World.Fresh.reachable ⟨⟨{}, rfl⟩, trivial⟩
  have hused : World.Reachable catalog {} used :=
    hstart.performAll (World.scripted_idle catalog fun _ _ => trivial)
      (fun _ _ _ => trivial) fun _ _ _ => trivial
  obtain ⟨hbare, hfixture⟩ := doubles_tell_apart catalog {}
  obtain ⟨hdoubles, hperform⟩ := hfixture used hused
  obtain ⟨-, hlogger⟩ := (hbare 1 combined hcombined).answered hasks rfl
  have haudit : replaced.registry.Yields catalog.mockOf audit := fun _ => rfl
  refine ⟨rfl, hlogger, haudit, ?_, rfl, hdoubles.coherent, ?_⟩
  · exact (hbare 2 replaced.registry (.asks hasks hcombined)).shared hlogger haudit rfl
  · exact (hperform run (.addCustomMock ⟨"Logger"⟩ none) logger _ rfl).2

end Registry

end TestDoubles
