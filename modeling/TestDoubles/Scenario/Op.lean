import TestDoubles.Recipe
import TestDoubles.Samples.Double

/-!
# Operations of a scenario

A scenario is a list of operations on one session: a fixture, a bare registry beside it, and named
slots in which doubles, objects and instances are kept between operations. Factories are scripts of
the same operations.
-/

namespace TestDoubles.Scenario

open Samples (Method)

/-- Which registry an operation is about. -/
inductive Shelf where
  /-- That of the fixture. -/
  | fixture
  /-- The bare registry of the session. -/
  | bare
deriving DecidableEq, Inhabited

/-- How a scenario writes an explicit argument. -/
inductive ArgumentSpec where
  /-- A literal value of a type. -/
  | value (type : TypeId) (literal : Datum)
  /-- The object of a new double, seeded. -/
  | seeded (capability : TypeId) (seed : Datum)
  /-- The object in a slot. -/
  | slot (name : String)
deriving Inhabited

/-- What a scenario may do to a registry or to the fixture. -/
inductive Action where
  | getMock (capability : TypeId) (name : Option String)
  | getObject (capability : TypeId)
  | addCustomMock (capability : TypeId) (name : Option String) (seed : Datum)
  /-- Register a new double, seeded, as a real implementation. -/
  | useSeeded (capability : TypeId) (seed : Datum)
  /-- Register the object in a slot as a real implementation. -/
  | useSlot (capability : TypeId) (slot : String)
  | useValue (type : TypeId) (literal : Datum)
  | combine (capability other : TypeId)
  | setArguments (type : TypeId) (arguments : List ArgumentSpec)
  | create (type : TypeId) (arguments : Option (List ArgumentSpec))
  | createBySignature (type : TypeId) (signature : Signature)
  | resolve (type : TypeId) (signature : Option Signature) (arguments : List ArgumentSpec)
  | reset
deriving Inhabited

/-- The type that an action is about. -/
def Action.subject : Action → TypeId
  | .getMock capability _ | .getObject capability | .addCustomMock capability _ _
  | .useSeeded capability _ | .useSlot capability _ | .combine capability _ => capability
  | .useValue type _ | .setArguments type _ | .create type _ | .createBySignature type _
  | .resolve type _ _ => type
  | .reset => default

/-- What can be dumped. -/
inductive Subject where
  | recipe (type : TypeId)
  | constructors (type : TypeId)
  | mock (slot : String)
  | history
  | fixture
  | registry (shelf : Shelf)
  | signature (signature : Signature)
deriving Inhabited

/-- What a scenario may ask without changing anything. -/
inductive Query where
  | options
  | stage
  | value (shelf : Shelf) (type : TypeId)
  | requiredValue (type : TypeId)
  | recipe (type : TypeId)
  | history
  | historySize
  | freshHistory
  | historyContains (key : Key)
  | historyOf (type : TypeId)
  /-- The type at a position and its constructions, if there is one. -/
  | historyEntry (index : Nat)
  /-- The constructions at a position, which has to exist. -/
  | historyAt (index : Nat)
  /-- The constructions under a key, which has to exist. -/
  | historyUnder (key : Key)
  /-- What a parameter received in one of the constructions of a type. -/
  | argument (type : TypeId) (index : Nat) (parameter : String) (asObject asValue : Option TypeId)
      (slot : Option String)
  | entries (shelf : Shelf)
  | size (shelf : Shelf)
  | contains (shelf : Shelf) (key : Key)
  | indexOf (shelf : Shelf) (key : Key) (required : Bool)
  | lookup (shelf : Shelf) (key : Key)
  | dumpEntry (shelf : Shelf) (index : Nat)
  /-- Whether two slots hold the same double. -/
  | sameDouble (slot other : String)
  | dump (subject : Subject)
  /-- What plain data read as options comes to. -/
  | readOptions (data : Datum)
  /-- What options come to after switching some of them. -/
  | switchOptions (start : Datum) (switches : List (String × Bool))
  /-- All about a key, compared to a type and to another key. -/
  | key (key : Key) (type : TypeId) (other : Option Key)
  | signature (signature other : Signature)
  | accepts (type : TypeId) (signature : Signature)
  | constructors (type : TypeId)
  | error (error : Error) (other : Option Error)
deriving Inhabited

/-- How a factory ends when its steps are done. -/
inductive Ending where
  /-- With an error. -/
  | fail (error : Error)
  /-- By creating its own type. -/
  | create (arguments : Option (List ArgumentSpec)) (signature : Option Signature)
  /-- With a literal number: the base, plus how often the factory ran before. -/
  | count (base : Int)
  /-- With a literal value. -/
  | value (literal : Datum)
deriving Inhabited

mutual

/-- One operation of a scenario. -/
inductive Op where
  /-- Start over with a new fixture. -/
  | renew (options : Option Datum)
  /-- Do something to the fixture or to the bare registry; keep the outcome in a slot. -/
  | act (shelf : Shelf) (action : Action) (slot : Option String)
  /-- Register a factory. -/
  | addType (type : TypeId) (lifetime : Lifetime) (script : Script)
  /-- Empty the bare registry. -/
  | clear
  /-- Look an object up, which may be required to exist; keep it in a slot. -/
  | fetch (shelf : Shelf) (capability : TypeId) (name : Option String) (required : Bool)
      (slot : Option String)
  /-- Call a method of what a slot holds, or of an object inside the instance that it holds. -/
  | call (slot : String) (field : Option String) (method : Method)
  /-- Ask something. -/
  | ask (query : Query)
  /-- Describe explicit arguments, or dump them. -/
  | arguments (arguments : List ArgumentSpec) (dumped : Bool)
  /-- Something that is not an operation. -/
  | malformed (reason : String)

/-- The body of a factory. -/
inductive Script where
  | mk (steps : List Step) (ending : Ending)

/-- One step of a factory; an attempted step that fails ends the factory with its error. -/
inductive Step where
  | mk (op : Op) (attempted : Bool)

end

instance : Inhabited Op := ⟨.clear⟩

instance : Inhabited Script := ⟨.mk [] (.value .null)⟩

/-- The steps of a script. -/
def Script.steps : Script → List Step
  | .mk steps _ => steps

/-- The ending of a script. -/
def Script.ending : Script → Ending
  | .mk _ ending => ending

mutual

/-- The number of factories that an operation registers, those in its script included. -/
def Op.factoryCount : Op → Nat
  | .addType _ _ script => 1 + script.factoryCount
  | _ => 0

/-- The number of factories that a script registers. -/
def Script.factoryCount : Script → Nat
  | .mk steps _ => Step.factoryCounts steps

/-- The number of factories that a step registers. -/
def Step.factoryCount : Step → Nat
  | .mk op _ => op.factoryCount

/-- The number of factories that some steps register. -/
def Step.factoryCounts : List Step → Nat
  | [] => 0
  | step :: steps => step.factoryCount + Step.factoryCounts steps

end

end TestDoubles.Scenario
