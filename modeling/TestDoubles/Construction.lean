import TestDoubles.Event
import TestDoubles.Stored

/-!
# Constructions

A construction is one call of a constructor: its declaration, and for every parameter what was
injected and where that came from. The function of a constructor sees the injected values only; it
reads them by position, each as an object of some capability or as a value of some type, and a read
that does not fit is an error of the construction.
-/

namespace TestDoubles

/-- What one parameter received. -/
structure Injection where
  /-- The name of the parameter. -/
  parameter : String
  /-- What was looked up for it. -/
  key : Key
  /-- Where the value came from. -/
  source : Source
  /-- The value itself. -/
  value : Stored
deriving Inhabited

namespace Injection

/-- The injected object, if it is a view as `capability`. -/
def object? (injection : Injection) (capability : TypeId) : Option Ref :=
  injection.value.object? capability

/-- The injected value, if it is one of `type`. -/
def value? (injection : Injection) (type : TypeId) : Option Datum :=
  injection.value.value? type

/-- Whether the object of `mock` was injected. -/
def isMock (injection : Injection) (mock : Mock) : Bool :=
  match injection.object? mock.capability with
  | some object => mock.isObject object
  | none => false

end Injection

/-- One call of a constructor, as it is recorded. -/
structure Construction where
  /-- The constructor that was called. -/
  constructor : Declaration
  /-- What its parameters received, in order. -/
  injections : List Injection
deriving Inhabited

namespace Construction

/-- What the first parameter of that name received. -/
def injection? (construction : Construction) (parameter : String) : Option Injection :=
  construction.injections.find? fun injection => injection.parameter = parameter

end Construction

/-- What the function of a constructor is called with. -/
structure Intake where
  /-- The type under construction, for messages. -/
  target : TypeId
  /-- What the parameters received, in order. -/
  injections : List Injection
deriving Inhabited

namespace Intake

/-- The number of arguments. -/
def length (intake : Intake) : Nat :=
  intake.injections.length

/-- The argument at a position. -/
def injection (intake : Intake) (index : Nat) : Except Error Injection :=
  match intake.injections[index]? with
  | some injection => .ok injection
  | none => .error (.constructionFailed intake.target (.missingArgument index))

/-- The object at a position, viewed as `capability`. -/
def object (intake : Intake) (capability : TypeId) (index : Nat) : Except Error Ref := do
  let injection ← intake.injection index
  match injection.object? capability with
  | some ref => .ok ref
  | none => .error (.constructionFailed intake.target (.wrongArgument index capability))

/-- The value of `type` at a position. -/
def value (intake : Intake) (type : TypeId) (index : Nat) : Except Error Datum := do
  let injection ← intake.injection index
  match injection.value? type with
  | some datum => .ok datum
  | none => .error (.constructionFailed intake.target (.wrongArgument index type))

end Intake

/-- A constructor: its declaration, and the function that builds an instance. The function may also
read and change the surroundings `E` of the library, though never the library's own state. -/
structure Constructor (E : Type) extends Declaration where
  /-- The function that builds an instance. -/
  build : Intake → E → Except Error Datum × E

/-- A constructor whose function depends on its arguments alone. -/
def Constructor.ofFunction {E : Type} (declaration : Declaration)
    (build : Intake → Except Error Datum) : Constructor E :=
  { declaration with build := fun intake surroundings => (build intake, surroundings) }

/-- What the library has to know about the types it deals in. -/
structure Catalog (E : Type) where
  /-- The type of double that stands in for a capability. -/
  mockOf : TypeId → TypeId
  /-- The default of a value type or of a concrete dependency. -/
  defaultOf : TypeId → Datum
  /-- The constructors of a type under test, in the order of declaration. -/
  constructors : TypeId → List (Constructor E)

end TestDoubles
