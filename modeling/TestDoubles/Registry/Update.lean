import TestDoubles.Event
import TestDoubles.Registry.Basic

/-!
# Changing the registry

Every change ends in `Registry.insert`: a key that has an entry keeps its position and, as far as the
new entry can serve them, its aliases; a new key goes to the end. Which type of double stands in for
a capability is given by a map `mockOf`, and a fresh object identity is passed in, so that the
operations themselves are plain functions.
-/

namespace TestDoubles

/-- The key of a capability, or of its double of the given name. The empty name is refused. -/
def capabilityKey (capability : TypeId) : Option String → Except Error Key
  | none => .ok (.of capability)
  | some name =>
    if name = "" then
      .error (.invalidArgument (.emptyMockName capability))
    else
      .ok ⟨capability, some name⟩

/-- A view of a double as `capability`, if it is of the type that stands in for it. -/
def Handle.viewAs? (mockOf : TypeId → TypeId) (capability : TypeId) (handle : Handle) :
    Option Stored :=
  (handle.as? (mockOf capability)).map (.object capability)

namespace Registry

/-- What came of an operation on a registry: its answer, the registry after it, and the events that
it emitted. -/
structure Outcome (α : Type) where
  /-- The answer. -/
  result : Except Error α
  /-- The registry afterwards. -/
  registry : Registry
  /-- The events, in order. -/
  events : List Event := []

variable (mockOf : TypeId → TypeId)

/-- A view of the replacement for one alias of the entry that it replaces. -/
def rebind? (replacement : Entry) (old : Alias) : Option Alias :=
  (replacement.handle.bind (Handle.viewAs? mockOf old.key.type)).map fun object =>
    { old with object := object }

/-- The aliases of a replaced entry that its replacement serves, in their old order. -/
def carriedAliases (previous replacement : Entry) : List Alias :=
  previous.aliases.filterMap (rebind? mockOf replacement)

/-- One event for each alias of a replaced entry that its replacement does not serve. -/
def droppedAliases (previous replacement : Entry) : List Event :=
  previous.aliases.filterMap fun old =>
    match rebind? mockOf replacement old with
    | some _ => none
    | none => some (.droppedAlias replacement.key old.key)

/-- The warning that a double created on demand makes way for something else. -/
def replacementWarning (previous replacement : Entry) : List Event :=
  if previous.origin = .autoMock ∧ replacement.origin ≠ .autoMock then
    [.replacedAutoMock replacement.key]
  else
    []

/-- Register an entry: in the place of the entry with the same key, whose aliases it takes over as
far as it can serve them, or else at the end. -/
def insert (r : Registry) (entry : Entry) : Registry × List Event :=
  match r.exact.find? entry.key with
  | some index =>
    match r.entries[index]? with
    | some previous =>
      ( { r with
          entries := r.entries.set index
            { entry with aliases := carriedAliases mockOf previous entry } }
      , droppedAliases mockOf previous entry ++ replacementWarning previous entry )
    | none => (r, [])
  | none =>
    ( { entries := r.entries ++ [entry], exact := r.exact.insert entry.key r.entries.length }
    , [.registeredEntry entry.key entry.origin] )

/-- The double at an entry, requested under `key`. -/
def mockAt (entry : Entry) (key : Key) : Except Error Mock :=
  match entry.handle.bind (Handle.as? (mockOf key.type)) with
  | none => .error (.invalidArgument (.notAMock key entry.origin))
  | some handle =>
    match (entry.provides? key).bind (Stored.object? key.type) with
    | none => .error (.notFound key)
    | some object => .ok ⟨key, handle, object⟩

/-- The double registered for a capability, created with the identity `fresh` on first use. -/
def getOrCreateMock (r : Registry) (fresh : Ref) (capability : TypeId) (name : Option String) :
    Outcome Mock :=
  match capabilityKey capability name with
  | .error e => { result := .error e, registry := r }
  | .ok key =>
    match r.position? key with
    | some index =>
      match r.entries[index]? with
      | some entry => { result := mockAt mockOf entry key, registry := r }
      | none => { result := .error (.notFound key), registry := r }
    | none =>
      let mock : Mock := ⟨key, fresh, fresh⟩
      let (registry, events) := r.insert mockOf (.ofMock .autoMock (mockOf capability) mock)
      { result := .ok mock
        registry := registry
        events := .createdMock key (mockOf capability) :: events }

/-- Register a double supplied by the test, which gets the identity `fresh`. -/
def addCustomMock (r : Registry) (fresh : Ref) (capability : TypeId) (name : Option String) :
    Outcome Mock :=
  match capabilityKey capability name with
  | .error e => { result := .error e, registry := r }
  | .ok key =>
    let mock : Mock := ⟨key, fresh, fresh⟩
    let (registry, events) := r.insert mockOf (.ofMock .customMock (mockOf capability) mock)
    { result := .ok mock, registry := registry, events := events }

/-- Register a real implementation of a capability. -/
def useInstance (r : Registry) (capability : TypeId) (ref : Ref) : Registry × List Event :=
  r.insert mockOf (.ofReal capability ref)

/-- Register a stored value under a key. -/
def insertValue (r : Registry) (key : Key) (value : Stored) : Registry × List Event :=
  r.insert mockOf (.ofValue key value)

/-- Register a plain value for the parameters of its type. -/
def useValue (r : Registry) (type : TypeId) (datum : Datum) : Registry × List Event :=
  r.insertValue mockOf (.of type) (.value type datum)

/-- Let the double for `capability` also answer for `other`, which the same type of double stands in
for. An entry that already answers for `other` stays as it is. -/
def combine (r : Registry) (fresh : Ref) (capability other : TypeId) : Outcome Mock :=
  if other = capability then
    { result := .error (.invalidArgument (.combinedWithItself other)), registry := r }
  else
    let created := r.getOrCreateMock mockOf fresh capability none
    match created.result with
    | .error _ => created
    | .ok mock =>
      match created.registry.position? mock.key with
      | none => { created with result := .error (.notFound mock.key) }
      | some index =>
        match created.registry.entries[index]? with
        | none => { created with result := .error (.notFound mock.key) }
        | some entry =>
          match entry.provides? (.of other) with
          | some _ => created
          | none =>
            let added : Alias := ⟨.of other, .object other mock.handle⟩
            { result := .ok mock
              registry :=
                { created.registry with
                  entries := created.registry.entries.set index
                    { entry with aliases := entry.aliases ++ [added] } }
              events := created.events ++ [.combinedMock mock.key (.of other)] }

/-- The registry after everything has been forgotten. -/
def clear (_ : Registry) : Registry :=
  empty

end Registry

end TestDoubles
