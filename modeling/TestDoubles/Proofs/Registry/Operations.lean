import TestDoubles.Proofs.Registry.Serving

/-!
# Sequences of operations on a registry

The operations on a bare registry as data, so that sequences of them can be spoken of: what one of them
does, which entry it registers if it does, and what a registry has become after a whole sequence. In a
sequence every operation has an object of its own to use, by which its double is a new one.

- `Registry.Arises.performAll`: the registries after sequences of operations arise.
- `Registry.Uniform.performAll`: sequences that combine what matches keep a registry uniform.
- `Registry.Operation.perform_of_registration`: what registers an entry inserts it, or is refused.
-/

namespace TestDoubles

namespace Registry

/-- Something done to a registry. -/
inductive Operation where
  /-- The double for a capability, created on first use. -/
  | getOrCreateMock (capability : TypeId) (name : Option String)
  /-- Register a double supplied by the test. -/
  | addCustomMock (capability : TypeId) (name : Option String)
  /-- Register a real implementation. -/
  | useInstance (capability : TypeId) (ref : Ref)
  /-- Register a value. -/
  | useValue (type : TypeId) (datum : Datum)
  /-- Let the double for `capability` serve `other` too. -/
  | combine (capability other : TypeId)
  /-- Forget everything. -/
  | clear

/-- The same outcome with another answer. -/
def Outcome.map {α β : Type} (f : α → β) (outcome : Outcome α) : Outcome β :=
  { result := outcome.result.map f, registry := outcome.registry, events := outcome.events }

namespace Operation

variable (mockOf : TypeId → TypeId)

/-- Do what the operation says, with a fresh object for the double that it may need. -/
def perform (r : Registry) (fresh : Ref) : Operation → Outcome (Option Mock)
  | getOrCreateMock capability name => (r.getOrCreateMock mockOf fresh capability name).map some
  | addCustomMock capability name => (r.addCustomMock mockOf fresh capability name).map some
  | useInstance capability ref =>
    let (registry, events) := r.useInstance mockOf capability ref
    { result := .ok none, registry := registry, events := events }
  | useValue type datum =>
    let (registry, events) := r.useValue mockOf type datum
    { result := .ok none, registry := registry, events := events }
  | combine capability other => (r.combine mockOf fresh capability other).map some
  | clear => { result := .ok none, registry := r.clear }

/-- The entry that the operation registers, whatever there is already. -/
def registration? (fresh : Ref) : Operation → Option Entry
  | addCustomMock capability name =>
    some (.ofMock .customMock (mockOf capability) ⟨⟨capability, name⟩, fresh, fresh⟩)
  | useInstance capability ref => some (.ofReal capability ref)
  | useValue type datum => some (.ofValue (.of type) (.value type datum))
  | getOrCreateMock _ _ | combine _ _ | clear => none

/-- The key under which the operation registers something, if it does. -/
def registers? : Operation → Option Key
  | addCustomMock capability name => some ⟨capability, name⟩
  | useInstance capability _ => some (.of capability)
  | useValue type _ => some (.of type)
  | getOrCreateMock _ _ | combine _ _ | clear => none

/-- Whether the operation registers something that is no double. -/
def registersPlain : Operation → Bool
  | useInstance _ _ | useValue _ _ => true
  | _ => false

/-- Only capabilities with one type of double are combined. -/
def Matches : Operation → Prop
  | combine capability other => mockOf other = mockOf capability
  | _ => True

/-- The registry after some operations; the first of them uses the object `next`. -/
def performAll : List Operation → (next : Nat) → Registry → Registry
  | [], _, r => r
  | operation :: later, next, r =>
    performAll later (next + 1) (operation.perform mockOf r ⟨next⟩).registry

variable {mockOf} {r : Registry} {operation : Operation} {fresh : Ref} {entry : Entry}

/-! ## Registering -/

/-- What registers an entry inserts it, unless it is refused, and then it changes nothing. -/
theorem perform_of_registration (r : Registry)
    (hentry : operation.registration? mockOf fresh = some entry) :
    (∃ answer, operation.perform mockOf r fresh =
        { result := .ok answer
          registry := (r.insert mockOf entry).1
          events := (r.insert mockOf entry).2 }) ∨
      ∃ e, operation.perform mockOf r fresh = { result := .error e, registry := r } := by
  cases operation with
  | addCustomMock capability name =>
    obtain rfl := Option.some.inj hentry
    rcases capabilityKey_cases capability name with ⟨-, hkey⟩ | ⟨-, hkey⟩
    · refine .inr ⟨.invalidArgument (.emptyMockName capability), ?_⟩
      simp [perform, Registry.addCustomMock, hkey, Outcome.map, Except.map]
    · refine .inl ⟨some ⟨⟨capability, name⟩, fresh, fresh⟩, ?_⟩
      simp [perform, Registry.addCustomMock, hkey, Outcome.map, Except.map]
  | useInstance capability ref =>
    obtain rfl := Option.some.inj hentry
    exact .inl ⟨none, rfl⟩
  | useValue type datum =>
    obtain rfl := Option.some.inj hentry
    exact .inl ⟨none, rfl⟩
  | getOrCreateMock _ _ => cases hentry
  | combine _ _ => cases hentry
  | clear => cases hentry

theorem registers?_of_registration (hentry : operation.registration? mockOf fresh = some entry) :
    operation.registers? = some entry.key := by
  cases operation <;> cases hentry <;> rfl

/-- What is registered is a double, or else it is plain. -/
theorem handle_of_registration (hentry : operation.registration? mockOf fresh = some entry)
    (hplain : operation.registersPlain = false) :
    ∃ handle, entry.handle = some handle ∧ handle.mockType = mockOf entry.key.type := by
  cases operation <;> cases hentry <;> cases hplain
  exact ⟨_, rfl, rfl⟩

/-- What is registered has no aliases yet. -/
theorem aliases_of_registration (hentry : operation.registration? mockOf fresh = some entry) :
    entry.aliases = [] := by
  cases operation <;> cases hentry <;> rfl

/-- What is registered was not created on demand. -/
theorem origin_of_registration (hentry : operation.registration? mockOf fresh = some entry) :
    entry.origin ≠ .autoMock := by
  cases operation <;> cases hentry <;> nofun

/-- What is registered is of the one type of double for its capability, if it is a double. -/
theorem uniform_of_registration (hentry : operation.registration? mockOf fresh = some entry) :
    entry.Uniform mockOf := by
  cases operation with
  | addCustomMock capability name =>
    obtain rfl := Option.some.inj hentry
    exact uniform_ofMock mockOf .customMock ⟨⟨capability, name⟩, fresh, fresh⟩
  | useInstance capability ref =>
    obtain rfl := Option.some.inj hentry
    exact uniform_of_handle_eq_none rfl rfl
  | useValue type datum =>
    obtain rfl := Option.some.inj hentry
    exact uniform_of_handle_eq_none rfl rfl
  | getOrCreateMock _ _ => cases hentry
  | combine _ _ => cases hentry
  | clear => cases hentry

end Operation

open Operation

variable {mockOf : TypeId → TypeId} {r : Registry} {n : Nat}

/-! ## What sequences of operations produce -/

/-- A registry arises by one operation more. -/
theorem Arises.perform (h : Arises mockOf n r) (operation : Operation) :
    Arises mockOf (n + 1) (operation.perform mockOf r ⟨n⟩).registry := by
  cases operation with
  | getOrCreateMock capability name => exact .asks (.getOrCreateMock capability name) h
  | addCustomMock capability name => exact .asks (.addCustomMock capability name) h
  | useInstance capability ref => exact .allocate (Nat.le_succ n) (.useInstance capability ref h)
  | useValue type datum => exact .allocate (Nat.le_succ n) (.useValue type datum h)
  | combine capability other => exact .asks (.combine capability other) h
  | clear => exact .empty (n + 1)

/-- By induction on the operations. -/
theorem Arises.performAll (operations : List Operation) (h : Arises mockOf n r) :
    Arises mockOf (n + operations.length) (performAll mockOf operations n r) := by
  induction operations generalizing n r with
  | nil => exact h
  | cons operation later ih =>
    have hlater := ih (h.perform operation)
    rwa [Nat.add_assoc, Nat.add_comm 1] at hlater

/-- An operation that combines what matches keeps to one type of double for each entry. -/
theorem Uniform.perform (h : r.Uniform mockOf) (operation : Operation)
    (hmatches : operation.Matches mockOf) (fresh : Ref) :
    (operation.perform mockOf r fresh).registry.Uniform mockOf := by
  have hentry {entry : Entry} (hentry : operation.registration? mockOf fresh = some entry) :
      (operation.perform mockOf r fresh).registry.Uniform mockOf := by
    rcases perform_of_registration r hentry with ⟨answer, heq⟩ | ⟨e, heq⟩
    · rw [heq]
      exact h.insert (uniform_of_registration hentry)
    · rw [heq]
      exact h
  cases operation with
  | getOrCreateMock capability name => exact (requested mockOf h.indexed _ _ _).uniform h
  | addCustomMock capability name => exact hentry rfl
  | useInstance capability ref => exact hentry rfl
  | useValue type datum => exact hentry rfl
  | combine capability other => exact (combined mockOf h.indexed _ _ _).uniform h hmatches
  | clear => exact uniform_empty mockOf

/-- By induction on the operations. -/
theorem Uniform.performAll {operations : List Operation}
    (hmatches : ∀ operation ∈ operations, operation.Matches mockOf) (n : Nat)
    (h : r.Uniform mockOf) : (performAll mockOf operations n r).Uniform mockOf := by
  induction operations generalizing n r with
  | nil => exact h
  | cons operation later ih =>
    obtain ⟨hfirst, hlater⟩ := List.forall_mem_cons.mp hmatches
    exact ih hlater (n + 1) (h.perform operation hfirst ⟨n⟩)

end Registry

end TestDoubles
