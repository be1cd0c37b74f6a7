import TestDoubles.World

/-!
# Registering with a fixture

The operations by which a test sets its fixture up. Each of them, when it succeeds, moves the fixture
on from the stage in which nothing is set up; one that fails leaves the fixture as it was.
-/

namespace TestDoubles

namespace World

variable {E : Type} (mockOf : TypeId → TypeId)

/-- Perform an operation on the registry; if it succeeds, something has been registered. -/
def register {α : Type} (operation : Registry → Ref → Registry.Outcome α) (w : World E) :
    Except Error α × World E :=
  match w.onRegistry operation with
  | (.ok a, w) => (.ok a, w.mapFixture Fixture.configured)
  | (.error e, w) => (.error e, w)

/-- The double registered for a capability, created on first use. -/
def getMock (capability : TypeId) (name : Option String) (w : World E) :
    Except Error Mock × World E :=
  w.register fun r fresh => r.getOrCreateMock mockOf fresh capability name

/-- The object registered for a capability, or that of a double created for it. -/
def getObject (capability : TypeId) (w : World E) : Except Error Ref × World E :=
  match w.fixture.registry.object? capability with
  | some object => (.ok object, w)
  | none =>
    match w.getMock mockOf capability none with
    | (.ok mock, w) => (.ok mock.object, w)
    | (.error e, w) => (.error e, w)

/-- Use a double supplied by the test instead of one created on demand. -/
def addCustomMock (capability : TypeId) (name : Option String) (w : World E) :
    Except Error Mock × World E :=
  w.register fun r fresh => r.addCustomMock mockOf fresh capability name

/-- Use a real implementation of a capability. -/
def useInstance (capability : TypeId) (ref : Ref) (w : World E) : World E :=
  (w.setRegistry (w.fixture.registry.useInstance mockOf capability ref)).mapFixture
    Fixture.configured

/-- Use a value for every parameter of its type. -/
def useValue (type : TypeId) (datum : Datum) (w : World E) : World E :=
  (w.setRegistry (w.fixture.registry.useValue mockOf type datum)).mapFixture Fixture.configured

/-- Let the double for `capability` also serve requests for `other`. -/
def combine (capability other : TypeId) (w : World E) : Except Error Mock × World E :=
  w.register fun r fresh => r.combine mockOf fresh capability other

/-- Change the recipe for a type, starting from an empty one. -/
def changeRecipe (type : TypeId) (change : Recipe → Except Error Recipe) (w : World E) :
    Except Error Unit × World E :=
  match change ((w.fixture.recipe? type).getD { target := .of type }) with
  | .error e => (.error e, w)
  | .ok recipe =>
    (.ok (), w.mapFixture fun f =>
      ({ f with recipes := f.recipes.insert (.of type) recipe }).configured)

/-- Produce a type by a factory instead of a constructor. -/
def addType (type : TypeId) (lifetime : Lifetime) (id : FactoryId) (w : World E) :
    Except Error Unit × World E :=
  w.changeRecipe type fun recipe =>
    match recipe.setFactory ⟨id, type⟩ with
    | .error e => .error e
    | .ok recipe =>
      match lifetime with
      | .transient => .ok recipe
      | .singleton => .ok (recipe.setSingleton type)

/-- Pass these arguments whenever a type is created without explicit ones. -/
def setArguments (type : TypeId) (arguments : Arguments) (w : World E) :
    Except Error Unit × World E :=
  w.changeRecipe type fun recipe => recipe.setArguments arguments

/-- Tear the fixture down: forget every double, recipe and construction. -/
def reset (w : World E) : World E :=
  (w.emit [.resetting w.fixture.registry.size w.fixture.history.constructionCount]).mapFixture
    Fixture.reset

end World

end TestDoubles
