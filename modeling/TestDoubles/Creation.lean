import TestDoubles.Resolution

/-!
# Creating instances

Creating a type runs the factory registered for it, if there is one, and otherwise resolves one of its
constructors. The product of a singleton factory is registered and read back from there. While a type
is being created it is in progress, whatever comes of it; when it has been created, its recipe is
fixed.
-/

namespace TestDoubles

namespace World

variable {E : Type} (catalog : Catalog E) (run : Runner E)

/-- Read a stored value as one of `type`. -/
def downcast (type : TypeId) (value : Stored) : Except Error Datum :=
  match value.value? type with
  | some datum => .ok datum
  | none => .error (.constructionFailed type .wrongProduct)

/-- A stored value, if it can be read as `type`. -/
def shareAs? (type : TypeId) (value : Stored) : Option Stored :=
  (value.value? type).map (.value type)

/-- The kept product of a factory, if there is one that can be handed out. -/
def cached? (key : Key) (share : Option TypeId) (w : World E) : Option Stored :=
  share.bind fun type =>
    (w.fixture.registry.lookup key).bind fun found => shareAs? type found.1

/-- Run a factory; keep its product and hand it out again if it is shared. -/
def runFactory (target : TypeId) (key : Key) (factory : Factory) (share : Option TypeId)
    (w : World E) : Except Error Datum × World E :=
  match run factory.id w with
  | (.error e, w) => (.error e, w)
  | (.ok datum, w) =>
    let value := Stored.value factory.product datum
    match share with
    | none => (downcast target value, w)
    | some type =>
      let w := w.insertValue catalog.mockOf key value
      match shareAs? type value with
      | none => (.error (.constructionFailed target .wrongProduct), w)
      | some owned => (downcast target owned, w)

/-- Create a type whose recipe has a factory. -/
def createFromFactory (target : TypeId) (key : Key) (recipe : Recipe) (w : World E) :
    Except Error Datum × World E :=
  let share :=
    match recipe.lifetime with
    | .singleton => recipe.share
    | .transient => none
  match w.cached? key share with
  | some value => (downcast target value, w)
  | none =>
    match recipe.factory with
    | none => (.error (.constructionFailed target .noFactory), w)
    | some factory => w.runFactory catalog run target key factory share

/-- Create a type that is already marked as being in progress. -/
def createEntered (target : TypeId) (key : Key) (signature : Option Signature)
    (arguments : Option Arguments) (w : World E) : Except Error Datum × World E :=
  let recipe := w.fixture.recipes.find? key
  match recipe.filter Recipe.hasFactory with
  | some recipe =>
    (w.emit [.fromFactory key]).createFromFactory catalog run target key recipe
  | none =>
    let stored := recipe.bind Recipe.arguments
    let explicit := (arguments.or stored).getD {}
    match w.resolve catalog run target signature explicit with
    | (.ok (_, datum), w) => (.ok datum, w)
    | (.error e, w) => (.error e, w)

/-- Create an instance of a type, with a given signature or given arguments if there are any. -/
def create (target : TypeId) (signature : Option Signature) (arguments : Option Arguments)
    (w : World E) : Except Error Datum × World E :=
  let key := Key.of target
  match w.enter key with
  | .error e => (.error e, w)
  | .ok w =>
    match w.createEntered catalog run target key signature arguments with
    | (.error e, w) => (.error e, w.leave)
    | (.ok datum, w) =>
      (.ok datum, w.leave.mapFixture fun f => (f.freeze key).built)

end World

end TestDoubles
