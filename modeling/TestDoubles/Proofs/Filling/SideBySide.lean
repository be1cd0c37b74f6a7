import TestDoubles.Proofs.Filling.Idle

/-!
# Two worlds side by side

The same parameters may be filled in two worlds that are not equal. They receive the same if nothing that
is asked on the way is answered differently: what is registered, what the options are, what a factory
makes and which double is created. Here this is said of any correspondence between worlds, once for all
ways of filling, so that for a particular one only the questions have to be gone through.

- `World.Agree` compares two outcomes: one answer, in worlds that still correspond.
- `World.Corresponds` lists what has to be known of a correspondence.
- `World.Corresponds.resolve`: then resolving a constructor comes to the same, if the same is selected.
- `World.Silent` is the first such correspondence: two worlds that differ in the reported events.
-/

namespace TestDoubles

/-- A parameter of one of the constructors that a type declares. -/
def Catalog.Declares {E : Type} (catalog : Catalog E) (target : TypeId) (param : Param) : Prop :=
  ∃ constructor ∈ catalog.constructors target, param ∈ constructor.params

namespace World

variable {E : Type}

/-- The same answer, in worlds that correspond. -/
structure Agree {α : Type} (R : World E → World E → Prop) (outcome other : α × World E) : Prop where
  answer : outcome.1 = other.1
  worlds : R outcome.2 other.2

theorem Agree.exists {α : Type} {R : World E → World E → Prop} {outcome other : α × World E}
    (h : Agree R outcome other) :
    ∃ answer after after', outcome = (answer, after) ∧ other = (answer, after') ∧ R after after' :=
  ⟨outcome.1, outcome.2, other.2, rfl, Prod.ext h.answer.symm rfl, h.worlds⟩

/-- What is to be known of a correspondence between worlds, so that it makes no difference in which of two
corresponding worlds the parameters with `P` are filled. -/
structure Corresponds (catalog : Catalog E) (run : Runner E) (P : Param → Prop)
    (R : World E → World E → Prop) : Prop where
  options {w w' : World E} : R w w' → w.fixture.options = w'.fixture.options
  surroundings {w w' : World E} : R w w' → w.surroundings = w'.surroundings
  -- The same is registered for every key.
  lookup {w w' : World E} : R w w' → ∀ key,
    w.fixture.registry.lookup key = w'.fixture.registry.lookup key
  emit {w w' : World E} (events : List Event) : R w w' → R (w.emit events) (w'.emit events)
  changed {w w' : World E} (s : E) : R w w' →
    R (w.mapSurroundings fun _ => s) (w'.mapSurroundings fun _ => s)
  recorded {w w' : World E} (target : Key) (construction : Construction) : R w w' →
    R (w.record target construction) (w'.record target construction)
  -- A double that is created on the way is the same in both.
  mocked {w w' : World E} {key : Key} : R w w' → w.fixture.registry.lookup key = none →
    Agree R (w.onRegistry fun r fresh => r.getOrCreateMock catalog.mockOf fresh key.type key.name)
      (w'.onRegistry fun r fresh => r.getOrCreateMock catalog.mockOf fresh key.type key.name)
  -- So is what a factory makes.
  produced {w w' : World E} {param : Param} : P param → R w w' →
    w.fixture.registry.lookup param.key = none →
    Agree R (w.produce catalog run param.key.unnamed) (w'.produce catalog run param.key.unnamed)

/-- If nothing is produced, nothing has happened. -/
theorem eq_of_produce_none {catalog : Catalog E} {run : Runner E} {key : Key} {w after : World E}
    (h : w.produce catalog run key = (.ok none, after)) : after = w := by
  have hproduced := World.produced catalog run key w
  rw [h] at hproduced
  cases hproduced
  rfl

namespace Corresponds

variable {catalog : Catalog E} {run : Runner E} {P : Param → Prop} {R : World E → World E → Prop}
  {w w' : World E} {target : TypeId} {explicit : Arguments} {param : Param}

theorem fallBack (h : Corresponds catalog run P R) (hR : R w w')
    (hlookup : w.fixture.registry.lookup param.key = none) :
    Agree R (w.fallBack catalog target param) (w'.fallBack catalog target param) := by
  unfold World.fallBack
  cases param.kind with
  | capability =>
    obtain ⟨answer, after, after', heq, heq', hafter⟩ := (h.mocked hR hlookup).exists
    simp only [heq, heq']
    cases answer <;> exact ⟨rfl, hafter⟩
  | value =>
    simp only [← h.options hR]
    split <;> exact ⟨rfl, hR⟩
  | concrete => exact ⟨rfl, hR⟩

theorem provide (h : Corresponds catalog run P R) (target : TypeId) (hparam : P param)
    (hR : R w w') :
    Agree R (w.provide catalog run target param) (w'.provide catalog run target param) := by
  unfold World.provide
  rw [← h.lookup hR]
  cases hlookup : w.fixture.registry.lookup param.key with
  | some found => exact ⟨rfl, hR⟩
  | none =>
    obtain ⟨answer, after, after', heq, heq', hafter⟩ := (h.produced hparam hR hlookup).exists
    simp only [heq, heq']
    rcases answer with e | value | _
    · exact ⟨rfl, hafter⟩
    · obtain rfl := eq_of_produce_none heq
      exact h.fallBack hafter hlookup
    · exact ⟨rfl, hafter⟩

theorem resolveArgument (h : Corresponds catalog run P R) (target : TypeId) (explicit : Arguments)
    (hparam : P param) (hR : R w w') (used : List Bool) :
    Agree R (w.resolveArgument catalog run target explicit param used)
      (w'.resolveArgument catalog run target explicit param used) := by
  unfold World.resolveArgument
  cases explicit.find? param.key.type used with
  | some found => exact ⟨rfl, hR⟩
  | none =>
    obtain ⟨answer, after, after', heq, heq', hafter⟩ :=
      (h.provide target hparam hR).exists
    simp only [heq, heq']
    cases answer <;> exact ⟨rfl, hafter⟩

/-- **Parameters receive the same**, by induction on them. -/
theorem resolveParams (h : Corresponds catalog run P R) (target : TypeId) (explicit : Arguments)
    {params : List Param} (hparams : ∀ param ∈ params, P param) (hR : R w w') (used : List Bool) :
    Agree R (w.resolveParams catalog run target explicit params used)
      (w'.resolveParams catalog run target explicit params used) := by
  induction params generalizing used w w' with
  | nil => exact ⟨rfl, hR⟩
  | cons param params ih =>
    obtain ⟨hparam, hrest⟩ := List.forall_mem_cons.mp hparams
    obtain ⟨answer, after, after', heq, heq', hafter⟩ :=
      (h.resolveArgument target explicit hparam hR used).exists
    rcases answer with e | ⟨injection, used₁⟩
    · rw [resolveParams_cons_of_error heq, resolveParams_cons_of_error heq']
      exact ⟨rfl, hafter⟩
    · rw [resolveParams_cons_of_ok heq, resolveParams_cons_of_ok heq']
      have hlater := ih hrest (h.emit [.resolvedArgument injection.parameter injection.source] hafter)
        used₁
      exact ⟨congrArg (Except.map fun rest : List Injection × List Bool =>
        (injection :: rest.1, rest.2)) hlater.answer, hlater.worlds⟩

theorem invoke (h : Corresponds catalog run P R) (target : TypeId) (constructor : Constructor E)
    (injections : List Injection) (hR : R w w') :
    Agree R (w.invoke target constructor injections) (w'.invoke target constructor injections) := by
  unfold World.invoke
  rw [h.surroundings hR]
  exact ⟨rfl, h.changed _ hR⟩

/-- **A constructor is resolved alike**, if the same one is selected. -/
theorem resolve (h : Corresponds catalog run P R) {signature signature' : Option Signature}
    {choice : Except Error (Constructor E × Nat)} {events events' : List Event}
    (hparams : ∀ constructor position, choice = .ok (constructor, position) →
      ∀ param ∈ constructor.params, P param)
    (hselect : w.fixture.select target (w.fixture.visible (catalog.constructors target)) signature
      explicit = (choice, events))
    (hselect' : w'.fixture.select target (w'.fixture.visible (catalog.constructors target))
      signature' explicit = (choice, events'))
    (hR : R (w.emit events) (w'.emit events')) :
    Agree R (w.resolve catalog run target signature explicit)
      (w'.resolve catalog run target signature' explicit) := by
  unfold World.resolve World.resolveArguments
  simp only [hselect, hselect']
  rcases choice with e | ⟨constructor, position⟩
  · exact ⟨rfl, hR⟩
  · obtain ⟨answer, filled, filled', heq, heq', hfilled⟩ :=
      (h.resolveParams target explicit (hparams _ _ rfl)
        (h.emit [.selected constructor.toDeclaration] hR) explicit.noneUsed).exists
    simp only [heq, heq']
    rcases answer with e | ⟨injections, used⟩
    · exact ⟨rfl, hfilled⟩
    · have hdone := h.emit (unusedWarning constructor.toDeclaration used) hfilled
      obtain ⟨answer, built, built', heq, heq', hbuilt⟩ :=
        (h.invoke target constructor injections hdone).exists
      simp only [heq, heq']
      rcases answer with e | datum
      · exact ⟨rfl, hbuilt⟩
      · exact ⟨rfl, h.recorded (.of target) ⟨constructor.toDeclaration, injections⟩ hbuilt⟩

end Corresponds

/-! ## Worlds that differ in what has been reported -/

/-- Nothing but the events is different. -/
def Silent (w w' : World E) : Prop :=
  ∃ events, w' = { w with events := events }

/-- The factories do not look at the events that have been reported. -/
def Blind (run : Runner E) : Prop :=
  ∀ id w w', Silent w w' → Agree Silent (run id w) (run id w')

theorem blind_idle : Blind (idle (E := E)) :=
  fun _ _ _ h => ⟨rfl, h⟩

theorem Silent.mapFixture {w w' : World E} (h : Silent w w') (f : Fixture → Fixture) :
    Silent (w.mapFixture f) (w'.mapFixture f) := by
  obtain ⟨events, rfl⟩ := h
  exact ⟨events, rfl⟩

theorem Silent.insertValue {w w' : World E} (h : Silent w w') (mockOf : TypeId → TypeId) (key : Key)
    (value : Stored) : Silent (w.insertValue mockOf key value) (w'.insertValue mockOf key value) := by
  obtain ⟨events, rfl⟩ := h
  exact ⟨_, rfl⟩

/-- Factories that do not look at the events make the same. -/
theorem Silent.produce {catalog : Catalog E} {run : Runner E} (hrun : Blind run) {w w' : World E}
    (h : Silent w w') (key : Key) :
    Agree Silent (w.produce catalog run key) (w'.produce catalog run key) := by
  obtain ⟨events, rfl⟩ := h
  cases hrecipe : w.fixture.recipes.find? key with
  | none =>
    simp only [World.produce, hrecipe]
    exact ⟨rfl, events, rfl⟩
  | some recipe =>
    cases hfactory : recipe.factory with
    | none =>
      simp only [World.produce, hrecipe, hfactory]
      exact ⟨rfl, events, rfl⟩
    | some factory =>
      have henter : World.enter key { w with events := events } =
          (w.enter key).map fun entered => { entered with events := events } := by
        unfold World.enter
        cases w.fixture.enter key <;> rfl
      cases hentered : w.enter key with
      | error e =>
        simp only [World.produce, hrecipe, hfactory, henter, hentered, Except.map]
        exact ⟨rfl, events, rfl⟩
      | ok entered =>
        obtain ⟨answer, after, after', heq, heq', hafter⟩ :=
          (hrun factory.id entered { entered with events := events } ⟨events, rfl⟩).exists
        simp only [World.produce, hrecipe, hfactory, henter, hentered, Except.map, heq, heq']
        have hleft : Silent after.leave after'.leave := hafter.mapFixture Fixture.leave
        rcases answer with e | datum
        · exact ⟨rfl, hleft⟩
        · refine ⟨rfl, Silent.mapFixture ?_ (Fixture.freeze · key)⟩
          cases recipe.lifetime with
          | singleton => exact hleft.insertValue catalog.mockOf key _
          | transient => exact hleft

/-- **Nothing that is filled depends on what has been reported.** -/
theorem Silent.corresponds (catalog : Catalog E) {run : Runner E} (hrun : Blind run) :
    Corresponds catalog run (fun _ => True) Silent where
  options := by
    rintro w _ ⟨_, rfl⟩
    rfl
  surroundings := by
    rintro w _ ⟨_, rfl⟩
    rfl
  lookup := by
    rintro w _ ⟨_, rfl⟩ key
    rfl
  emit new := by
    rintro ⟨events, rfl⟩
    exact ⟨_, rfl⟩
  changed s := by
    rintro ⟨events, rfl⟩
    exact ⟨events, rfl⟩
  recorded target construction := by
    rintro ⟨events, rfl⟩
    exact ⟨_, rfl⟩
  mocked := by
    rintro w _ key ⟨events, rfl⟩ -
    exact ⟨rfl, _, rfl⟩
  produced _ h _ := h.produce hrun _

end World

end TestDoubles
