import TestDoubles.Creation
import TestDoubles.Registration

/-!
# Commands

Everything that can be asked of a fixture and may change it, as data, and its answers. A run of a
fixture is a sequence of commands; so is what a factory does to the fixture it is run on.
-/

namespace TestDoubles

/-- Something asked of a fixture. -/
inductive Command where
  /-- The double for a capability, of a given name if there is one. -/
  | getMock (capability : TypeId) (name : Option String)
  /-- The object for a capability. -/
  | getObject (capability : TypeId)
  /-- Register a double supplied by the test. -/
  | addCustomMock (capability : TypeId) (name : Option String)
  /-- Register a real implementation. -/
  | useInstance (capability : TypeId) (ref : Ref)
  /-- Register a value. -/
  | useValue (type : TypeId) (datum : Datum)
  /-- Let the double for `capability` serve `other` too. -/
  | combine (capability other : TypeId)
  /-- Produce a type by a factory. -/
  | addType (type : TypeId) (lifetime : Lifetime) (id : FactoryId)
  /-- Store the arguments with which a type is created. -/
  | setArguments (type : TypeId) (arguments : Arguments)
  /-- Create an instance, with given arguments if there are any. -/
  | create (type : TypeId) (arguments : Option Arguments)
  /-- Create an instance by the constructor with a given signature. -/
  | createBySignature (type : TypeId) (signature : Signature)
  /-- Resolve a constructor directly. -/
  | resolve (type : TypeId) (signature : Option Signature) (explicit : Arguments)
  /-- Tear the fixture down. -/
  | reset
deriving Inhabited

/-- The answer to a command. -/
inductive Reply where
  | nothing
  | mock (mock : Mock)
  | object (ref : Ref)
  | instanceOf (datum : Datum)
  | construction (construction : Construction) (datum : Datum)
deriving Inhabited

namespace World

variable {E : Type} (catalog : Catalog E) (run : Runner E)

/-- Do what a command says. -/
def perform (command : Command) (w : World E) : Except Error Reply × World E :=
  match command with
  | .getMock capability name =>
    let (answer, w) := w.getMock catalog.mockOf capability name
    (answer.map .mock, w)
  | .getObject capability =>
    let (answer, w) := w.getObject catalog.mockOf capability
    (answer.map .object, w)
  | .addCustomMock capability name =>
    let (answer, w) := w.addCustomMock catalog.mockOf capability name
    (answer.map .mock, w)
  | .useInstance capability ref =>
    (.ok (.object ref), w.useInstance catalog.mockOf capability ref)
  | .useValue type datum =>
    (.ok .nothing, w.useValue catalog.mockOf type datum)
  | .combine capability other =>
    let (answer, w) := w.combine catalog.mockOf capability other
    (answer.map .mock, w)
  | .addType type lifetime id =>
    let (answer, w) := w.addType type lifetime id
    (answer.map fun _ => .nothing, w)
  | .setArguments type arguments =>
    let (answer, w) := w.setArguments type arguments
    (answer.map fun _ => .nothing, w)
  | .create type arguments =>
    let (answer, w) := w.create catalog run type none arguments
    (answer.map .instanceOf, w)
  | .createBySignature type signature =>
    let (answer, w) := w.create catalog run type (some signature) none
    (answer.map .instanceOf, w)
  | .resolve type signature explicit =>
    let (answer, w) := w.resolve catalog run type signature explicit
    (answer.map fun (construction, datum) => .construction construction datum, w)
  | .reset => (.ok .nothing, w.reset)

end World

end TestDoubles
