import TestDoubles.Proofs.Run.Reachable

/-!
# Commands that register

Most commands create no instance. They change the registry or one recipe, or tear the fixture down,
and no factory runs meanwhile. What each of them does to the part that it changes is listed here once,
so that whoever keeps account of registries or recipes has to look at these lists only.

- `Command.Operates` lists the operations on the registry.
- `Command.Rewrites` lists the changes of recipes.
- `World.Registered` lists what the commands come to.
- `World.registry_perform` says that nothing else happens to the registry.
-/

namespace TestDoubles

/-- The registry after an operation, with the events that it emitted. -/
def Registry.Outcome.change {α : Type} (outcome : Registry.Outcome α) : Registry × List Event :=
  (outcome.registry, outcome.events)

namespace Command

/-- Whether a command creates no instance, so that no factory runs while it is answered. -/
def isDirect : Command → Bool
  | .create _ _ | .createBySignature _ _ | .resolve _ _ _ => false
  | _ => true

/-- The type of which the command creates an instance, if it does. -/
def creates? : Command → Option TypeId
  | .create type _ | .createBySignature type _ => some type
  | _ => none

/-- Whether something is registered by the command, if it is answered. An object that is there already
is just handed out. -/
def registers (f : Fixture) : Command → Bool
  | .getObject capability => (f.registry.object? capability).isNone
  | .create _ _ | .createBySignature _ _ | .resolve _ _ _ | .reset => false
  | _ => true

/-- What a command makes of a registry and reports, whether it succeeds or not: `next` objects have
been allocated before, and `allocated` after it. -/
inductive Operates (mockOf : TypeId → TypeId) (r : Registry) (next : Nat) :
    Command → (allocated : Nat) → Registry × List Event → Prop where
  | getMock (capability : TypeId) (name : Option String) :
      Operates mockOf r next (.getMock capability name) (next + 1)
        (r.getOrCreateMock mockOf ⟨next⟩ capability name).change
  -- The double is created only if there is no object yet.
  | getObject (capability : TypeId) :
      Operates mockOf r next (.getObject capability) (next + 1)
        (r.getOrCreateMock mockOf ⟨next⟩ capability none).change
  | addCustomMock (capability : TypeId) (name : Option String) :
      Operates mockOf r next (.addCustomMock capability name) (next + 1)
        (r.addCustomMock mockOf ⟨next⟩ capability name).change
  | useInstance (capability : TypeId) (ref : Ref) :
      Operates mockOf r next (.useInstance capability ref) next
        (r.useInstance mockOf capability ref)
  | useValue (type : TypeId) (datum : Datum) :
      Operates mockOf r next (.useValue type datum) next (r.useValue mockOf type datum)
  | combine (capability other : TypeId) :
      Operates mockOf r next (.combine capability other) (next + 1)
        (r.combine mockOf ⟨next⟩ capability other).change

/-- What a command makes of a recipe that is not fixed. -/
inductive Rewrites : Command → Key → Recipe → Recipe → Prop where
  | addType (type : TypeId) (lifetime : Lifetime) (id : FactoryId) {recipe : Recipe}
      (hfrozen : recipe.frozen = false) :
      Rewrites (.addType type lifetime id) (.of type) recipe
        { recipe with
          factory := some ⟨id, type⟩
          lifetime := lifetime
          share := if lifetime = .singleton then some type else none }
  | setArguments (type : TypeId) (arguments : Arguments) {recipe : Recipe}
      (hfrozen : recipe.frozen = false) :
      Rewrites (.setArguments type arguments) (.of type) recipe
        { recipe with arguments := some arguments }

theorem Rewrites.of_addType {type : TypeId} {lifetime : Lifetime} {id : FactoryId}
    {recipe changed : Recipe}
    (h : (match recipe.setFactory ⟨id, type⟩ with
      | .error e => .error e
      | .ok recipe =>
        match lifetime with
        | .transient => .ok recipe
        | .singleton => .ok (recipe.setSingleton type)) = Except.ok changed) :
    Rewrites (.addType type lifetime id) (.of type) recipe changed := by
  cases hset : recipe.setFactory ⟨id, type⟩ with
  | error e =>
    rw [hset] at h
    cases h
  | ok set =>
    obtain ⟨hfrozen, rfl⟩ := Recipe.change_eq_ok_iff.mp hset
    rw [hset] at h
    have hrewrites := Rewrites.addType type lifetime id hfrozen
    cases lifetime with
    | transient => exact Except.ok.inj h ▸ hrewrites
    | singleton => exact Except.ok.inj h ▸ hrewrites

theorem Rewrites.of_setArguments {type : TypeId} {arguments : Arguments} {recipe changed : Recipe}
    (h : recipe.setArguments arguments = .ok changed) :
    Rewrites (.setArguments type arguments) (.of type) recipe changed := by
  obtain ⟨hfrozen, rfl⟩ := Recipe.change_eq_ok_iff.mp h
  exact .setArguments type arguments hfrozen

end Command

/-! ## Events of the registry -/

namespace Registry

variable (mockOf : TypeId → TypeId)

theorem isTeardown_insert (r : Registry) (entry : Entry) :
    ∀ event ∈ (r.insert mockOf entry).2, event.isTeardown = false := by
  unfold insert
  split
  · split
    next index _ previous _ =>
      intro event hevent
      rcases List.mem_append.mp hevent with hdropped | hreplaced
      · obtain ⟨old, -, hold⟩ := List.mem_filterMap.mp hdropped
        split at hold
        · cases hold
        · exact Option.some.inj hold ▸ rfl
      · unfold replacementWarning at hreplaced
        split at hreplaced
        · rw [List.mem_singleton.mp hreplaced]
          rfl
        · cases hreplaced
    · simp
  · simp [Event.isTeardown]

theorem isTeardown_getOrCreateMock (r : Registry) (fresh : Ref) (capability : TypeId)
    (name : Option String) :
    ∀ event ∈ (r.getOrCreateMock mockOf fresh capability name).events, event.isTeardown = false := by
  unfold getOrCreateMock
  split
  · simp
  · split
    · split <;> simp
    · intro event hevent
      rcases List.mem_cons.mp hevent with rfl | hinserted
      · rfl
      · exact isTeardown_insert mockOf r _ event hinserted

theorem isTeardown_addCustomMock (r : Registry) (fresh : Ref) (capability : TypeId)
    (name : Option String) :
    ∀ event ∈ (r.addCustomMock mockOf fresh capability name).events, event.isTeardown = false := by
  unfold addCustomMock
  split
  · simp
  · exact isTeardown_insert mockOf r _

theorem isTeardown_combine (r : Registry) (fresh : Ref) (capability other : TypeId) :
    ∀ event ∈ (r.combine mockOf fresh capability other).events, event.isTeardown = false := by
  have hcreated := isTeardown_getOrCreateMock mockOf r fresh capability none
  unfold combine
  split
  · simp
  · generalize r.getOrCreateMock mockOf fresh capability none = created at hcreated ⊢
    dsimp only
    split
    · exact hcreated
    · split
      · exact hcreated
      · split
        · exact hcreated
        · split
          · exact hcreated
          · intro event hevent
            rcases List.mem_append.mp hevent with hbefore | hcombined
            · exact hcreated event hbefore
            · rw [List.mem_singleton.mp hcombined]
              rfl

/-! ## Refusals of the registry -/

section Refusals

variable {mockOf} {r : Registry} {fresh : Ref} {capability other : TypeId} {name : Option String}
  {e : Error}

/-- A double that is requested is there already, or its entry goes to the end and answers for its
key. -/
theorem getOrCreateMock_cases (mockOf : TypeId → TypeId) (r : Registry) (fresh : Ref)
    (capability : TypeId) (name : Option String) :
    (r.getOrCreateMock mockOf fresh capability name).registry = r ∨
      ∃ mock i entry, (r.getOrCreateMock mockOf fresh capability name).result = .ok mock ∧
        (r.getOrCreateMock mockOf fresh capability name).registry.position? mock.key = some i ∧
        (r.getOrCreateMock mockOf fresh capability name).registry.entries[i]? = some entry ∧
        (r.getOrCreateMock mockOf fresh capability name).registry.entries = r.entries ++ [entry] ∧
        entry.origin = .autoMock := by
  unfold getOrCreateMock
  split
  · exact .inl rfl
  next key _ =>
    split
    · exact .inl (by split <;> rfl)
    next hposition =>
      have hexact : r.exact.find? key = none := by
        unfold position? at hposition
        split at hposition
        · cases hposition
        · assumption
      refine .inr ⟨⟨key, fresh, fresh⟩, r.entries.length,
        .ofMock .autoMock (mockOf capability) ⟨key, fresh, fresh⟩, rfl, ?_, ?_, ?_, rfl⟩
      · simp [insert, Entry.ofMock, hexact, position?]
      · simp [insert, Entry.ofMock, hexact]
      · simp [insert, Entry.ofMock, hexact]

theorem registry_getOrCreateMock_of_error
    (h : (r.getOrCreateMock mockOf fresh capability name).result = .error e) :
    (r.getOrCreateMock mockOf fresh capability name).registry = r := by
  rcases getOrCreateMock_cases mockOf r fresh capability name with hsame | ⟨mock, _, _, hok, -⟩
  · exact hsame
  · cases hok.symm.trans h

theorem registry_addCustomMock_of_error
    (h : (r.addCustomMock mockOf fresh capability name).result = .error e) :
    (r.addCustomMock mockOf fresh capability name).registry = r := by
  unfold addCustomMock at h ⊢
  split at h
  · simp_all
  · cases h

/-- Nothing is combined unless the double that is to serve both is there before. -/
theorem registry_combine_of_error
    (h : (r.combine mockOf fresh capability other).result = .error e) :
    (r.combine mockOf fresh capability other).registry = r := by
  have hcreated := getOrCreateMock_cases mockOf r fresh capability none
  have hrefused := @registry_getOrCreateMock_of_error mockOf r fresh capability none
  unfold combine at h ⊢
  generalize r.getOrCreateMock mockOf fresh capability none = created at hcreated hrefused h ⊢
  dsimp only at h ⊢
  grind

end Refusals

end Registry

namespace Command.Operates

variable {mockOf : TypeId → TypeId} {command : Command} {r : Registry} {next allocated : Nat}
  {change : Registry × List Event}

theorem isTeardown (h : command.Operates mockOf r next allocated change) :
    ∀ event ∈ change.2, event.isTeardown = false := by
  cases h with
  | getMock capability name => exact r.isTeardown_getOrCreateMock mockOf ⟨next⟩ capability name
  | getObject capability => exact r.isTeardown_getOrCreateMock mockOf ⟨next⟩ capability none
  | addCustomMock capability name => exact r.isTeardown_addCustomMock mockOf ⟨next⟩ capability name
  | useInstance capability ref => exact r.isTeardown_insert mockOf _
  | useValue type datum => exact r.isTeardown_insert mockOf _
  | combine capability other => exact r.isTeardown_combine mockOf ⟨next⟩ capability other

theorem le_allocated (h : command.Operates mockOf r next allocated change) : next ≤ allocated := by
  cases h <;> omega

end Command.Operates

namespace World

variable {E : Type}

/-! ## Outcomes -/

/-- What a command comes to that creates no instance and tears nothing down. -/
inductive Registered (catalog : Catalog E) (command : Command) (w : World E) :
    Except Error Reply × World E → Prop where
  -- There is an object to hand out.
  | found {reply : Reply} (h : command.registers w.fixture = false) :
      Registered catalog command w (.ok reply, w)
  -- The registry does what is asked.
  | operated {allocated : Nat} {change : Registry × List Event} {reply : Reply}
      (h : command.registers w.fixture = true)
      (hoperates :
        command.Operates catalog.mockOf w.fixture.registry w.allocated allocated change) :
      Registered catalog command w
        (.ok reply,
          ({ w with allocated := allocated }.setRegistry change).mapFixture Fixture.configured)
  -- The registry refuses, and stays as it is.
  | refused {allocated : Nat} {change : Registry × List Event} {e : Error}
      (hoperates :
        command.Operates catalog.mockOf w.fixture.registry w.allocated allocated change)
      (hsame : change.1 = w.fixture.registry) :
      Registered catalog command w (.error e, { w with allocated := allocated }.setRegistry change)
  -- A recipe is changed.
  | rewritten {key : Key} {recipe : Recipe} {reply : Reply}
      (h : command.registers w.fixture = true)
      (hrewrites :
        command.Rewrites key ((w.fixture.recipes.find? key).getD { target := key }) recipe) :
      Registered catalog command w
        (.ok reply,
          (w.mapFixture fun f => { f with recipes := f.recipes.insert key recipe }).mapFixture
            Fixture.configured)
  -- The recipe is fixed.
  | frozen {e : Error} : Registered catalog command w (.error e, w)

namespace Registered

variable {catalog : Catalog E} {command : Command} {w : World E}

/-- An operation that may use a fresh object, and that moves the fixture on if it succeeds. -/
theorem of_register {α : Type} {operation : Registry → Ref → Registry.Outcome α} (reply : α → Reply)
    (h : command.registers w.fixture = true)
    (hoperates : command.Operates catalog.mockOf w.fixture.registry w.allocated (w.allocated + 1)
      (operation w.fixture.registry ⟨w.allocated⟩).change)
    (hrefused : ∀ e, (operation w.fixture.registry ⟨w.allocated⟩).result = .error e →
      (operation w.fixture.registry ⟨w.allocated⟩).registry = w.fixture.registry) :
    Registered catalog command w ((w.register operation).1.map reply, (w.register operation).2) := by
  have hperformed : w.onRegistry operation = ((operation w.fixture.registry ⟨w.allocated⟩).result,
      { w with allocated := w.allocated + 1 }.setRegistry
        (operation w.fixture.registry ⟨w.allocated⟩).change) := rfl
  unfold register
  rw [hperformed]
  cases hresult : (operation w.fixture.registry ⟨w.allocated⟩).result with
  | ok a => exact .operated h hoperates
  | error e => exact .refused hoperates (hrefused e hresult)

theorem of_changeRecipe {type : TypeId} {change : Recipe → Except Error Recipe}
    (h : command.registers w.fixture = true)
    (hrewrites : ∀ recipe changed, change recipe = .ok changed →
      command.Rewrites (.of type) recipe changed) :
    Registered catalog command w
      ((w.changeRecipe type change).1.map fun _ => .nothing, (w.changeRecipe type change).2) := by
  unfold changeRecipe
  split
  · exact .frozen
  next changed hchange => exact .rewritten h (hrewrites _ changed hchange)

end Registered

theorem registered (catalog : Catalog E) (run : Runner E) {command : Command}
    (hdirect : command.isDirect) (hreset : command ≠ .reset) (w : World E) :
    Registered catalog command w (w.perform catalog run command) := by
  cases command with
  | getMock capability name =>
    exact .of_register .mock rfl (.getMock capability name) fun _ herror =>
      Registry.registry_getOrCreateMock_of_error herror
  | getObject capability =>
    simp only [perform, getObject]
    split
    next object hobject => exact .found (by rw [Command.registers, hobject]; rfl)
    next hnone =>
      have hcreated : Registered catalog (.getObject capability) w
          ((w.getMock catalog.mockOf capability none).1.map fun mock => .object mock.object,
            (w.getMock catalog.mockOf capability none).2) :=
        .of_register _ (by rw [Command.registers, hnone]; rfl) (.getObject capability)
          fun _ herror => Registry.registry_getOrCreateMock_of_error herror
      split
      next h => rwa [h] at hcreated
      next h => rwa [h] at hcreated
  | addCustomMock capability name =>
    exact .of_register .mock rfl (.addCustomMock capability name) fun _ herror =>
      Registry.registry_addCustomMock_of_error herror
  | useInstance capability ref => exact .operated rfl (.useInstance capability ref)
  | useValue type datum => exact .operated rfl (.useValue type datum)
  | combine capability other =>
    exact .of_register .mock rfl (.combine capability other) fun _ herror =>
      Registry.registry_combine_of_error herror
  | addType type lifetime id => exact .of_changeRecipe rfl fun recipe changed => .of_addType
  | setArguments type arguments =>
    exact .of_changeRecipe rfl fun recipe changed => .of_setArguments
  | reset => exact absurd rfl hreset
  | create _ _ => cases hdirect
  | createBySignature _ _ => cases hdirect
  | resolve _ _ _ => cases hdirect

/-! ## What becomes of the registry -/

theorem registry_configured (w : World E) :
    (w.mapFixture Fixture.configured).fixture.registry = w.fixture.registry :=
  w.fixture.registry_configured

/-- **What a command that creates no instance does to the registry**: nothing, or one operation. -/
theorem registry_perform (catalog : Catalog E) (run : Runner E) {command : Command}
    (hdirect : command.isDirect) (hreset : command ≠ .reset) (w : World E) :
    (w.perform catalog run command).2.fixture.registry = w.fixture.registry ∨
      ∃ allocated change,
        command.Operates catalog.mockOf w.fixture.registry w.allocated allocated change ∧
          (w.perform catalog run command).2.fixture.registry = change.1 := by
  have hregistered := registered catalog run hdirect hreset w
  generalize w.perform catalog run command = result at hregistered ⊢
  cases hregistered with
  | found _ => exact .inl rfl
  | operated _ hoperates => exact .inr ⟨_, _, hoperates, registry_configured _⟩
  | refused _ hsame => exact .inl hsame
  | rewritten _ _ => exact .inl (registry_configured _)
  | frozen => exact .inl rfl

end World

end TestDoubles
