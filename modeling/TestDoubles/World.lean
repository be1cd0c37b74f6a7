import TestDoubles.Fixture

/-!
# Worlds

Operations on a fixture allocate objects, emit events and run code that is not the library's own: the
functions of constructors and the bodies of factories. A world is a fixture together with what such
an operation may touch: the count of objects allocated so far, the events emitted so far, and
surroundings `E` of which the library knows nothing.
-/

namespace TestDoubles

/-- A fixture in its surroundings. -/
structure World (E : Type) where
  /-- The fixture. -/
  fixture : Fixture := {}
  /-- The number of objects allocated so far. -/
  allocated : Nat := 0
  /-- The events so far, oldest first. -/
  events : List Event := []
  /-- Whatever the code outside the library keeps. -/
  surroundings : E

namespace World

variable {E : Type}

/-- Change the fixture. -/
def mapFixture (f : Fixture → Fixture) (w : World E) : World E :=
  { w with fixture := f w.fixture }

/-- Change the surroundings. -/
def mapSurroundings (f : E → E) (w : World E) : World E :=
  { w with surroundings := f w.surroundings }

/-- Append events. -/
def emit (events : List Event) (w : World E) : World E :=
  { w with events := w.events ++ events }

/-- Allocate an object. -/
def allocate (w : World E) : Ref × World E :=
  (⟨w.allocated⟩, { w with allocated := w.allocated + 1 })

/-- Perform an operation on the registry, which may use one fresh object. -/
def onRegistry {α : Type} (operation : Registry → Ref → Registry.Outcome α) (w : World E) :
    Except Error α × World E :=
  let (fresh, w) := w.allocate
  let outcome := operation w.fixture.registry fresh
  (outcome.result,
    (w.mapFixture fun f => { f with registry := outcome.registry }).emit outcome.events)

/-- Replace the registry by one that came about with the given events. -/
def setRegistry (change : Registry × List Event) (w : World E) : World E :=
  (w.mapFixture fun f => { f with registry := change.1 }).emit change.2

/-- Register a stored value under a key. -/
def insertValue (mockOf : TypeId → TypeId) (key : Key) (value : Stored) (w : World E) : World E :=
  w.setRegistry (w.fixture.registry.insertValue mockOf key value)

/-- Start to produce `key`. -/
def enter (key : Key) (w : World E) : Except Error (World E) :=
  match w.fixture.enter key with
  | .ok fixture => .ok { w with fixture := fixture }
  | .error e => .error e

/-- Stop producing the key that was started last. -/
def leave (w : World E) : World E :=
  w.mapFixture Fixture.leave

/-- Record a construction. -/
def record (target : Key) (construction : Construction) (w : World E) : World E :=
  (w.emit [.recorded target construction.constructor]).mapFixture fun f =>
    { f with history := f.history.record target construction }

end World

end TestDoubles
