import TestDoubles.Command
import TestDoubles.Scenario.Op

/-!
# Sessions

A session is a world whose surroundings are the test's side of things: the doubles' contents, the
slots, the registered factories with their call counts, the bare registry, and the numbers by which
objects are shown. Objects are numbered in the order in which they are first shown.
-/

namespace TestDoubles.Scenario

open Samples (Double)

/-- What a slot holds. -/
inductive Slot where
  /-- A double. -/
  | mock (mock : Mock)
  /-- An object, viewed as a capability. -/
  | object (capability : TypeId) (ref : Ref)
  /-- An instance of a type. -/
  | instanceOf (type : TypeId) (datum : Datum)
deriving Inhabited

/-- A registered factory. -/
structure FactoryRecord where
  /-- The type it makes. -/
  product : TypeId
  /-- Its body. -/
  script : Script
  /-- How often it ran so far. -/
  calls : Nat := 0
deriving Inhabited

/-- A factory that broke off: it asked for something that has to exist and does not. -/
structure Interruption where
  /-- What it said, unless that is withheld. -/
  message : Option String
  /-- The fixture at that moment. -/
  fixture : Fixture
deriving Inhabited

/-- The test's side of a session. -/
structure Bench where
  /-- The objects shown so far; the position of an object is its number. -/
  numbered : List Ref := []
  /-- The state of the doubles that are no longer as new. -/
  doubles : Table Ref Double := {}
  /-- What the slots hold. -/
  slots : Table String Slot := {}
  /-- The factories, by position in order of registration. -/
  factories : List FactoryRecord := []
  /-- What factories did since the last report. -/
  trace : List Shown := []
  /-- The bare registry. -/
  registry : Registry := {}
  /-- The interruption of the operation under way, if it has been interrupted. -/
  interruption : Option Interruption := none
deriving Inhabited

namespace Bench

/-- The state of the double behind an object. -/
def double (bench : Bench) (capability : TypeId) (ref : Ref) : Double :=
  (bench.doubles.find? ref).getD (.seeded capability .null)

/-- Change the state of a double. -/
def setDouble (bench : Bench) (ref : Ref) (double : Double) : Bench :=
  { bench with doubles := bench.doubles.insert ref double }

/-- Keep something in a slot, if one is named. -/
def keep (bench : Bench) (slot : Option String) (content : Slot) : Bench :=
  match slot with
  | some name => { bench with slots := bench.slots.insert name content }
  | none => bench

/-- Append to the trace. -/
def addTrace (bench : Bench) (entry : Shown) : Bench :=
  { bench with trace := bench.trace ++ [entry] }

/-- The object in a slot, with the capability that the slot was obtained as. -/
def object? (bench : Bench) (slot : String) : Option (TypeId × Ref) :=
  match bench.slots.find? slot with
  | some (.mock mock) => some (mock.capability, mock.object)
  | some (.object capability ref) => some (capability, ref)
  | _ => none

end Bench

/-- A fixture with the test's side of things. -/
abbrev Session := World Bench

/-- Keep something in a slot, if one is named. -/
def Session.keep (slot : Option String) (content : Slot) (s : Session) : Session :=
  s.mapSurroundings fun bench => bench.keep slot content

/-- Interrupt the operation under way. -/
def Session.interrupt (message : Option String) (s : Session) : Session :=
  s.mapSurroundings fun bench => { bench with interruption := some ⟨message, s.fixture⟩ }

/-- Whether the operation under way has been interrupted. -/
def Session.isInterrupted (s : Session) : Bool :=
  s.surroundings.interruption.isSome

/-- What a factory that breaks off is taken to fail with. Nobody is shown it: the operation under way
comes to the interruption. -/
def Interruption.failure : Error :=
  .invalidArgument (.stated "interrupted")

/-! ## Showing values -/

/-- A computation that may number objects. -/
abbrev Rendering := StateM (List Ref)

/-- The number of an object, given on first sight. -/
def Rendering.number (ref : Ref) : Rendering Nat := do
  let seen ← get
  match seen.idxOf? ref with
  | some number => return number
  | none =>
    set (seen ++ [ref])
    return seen.length

mutual

/-- Show a value: its objects are numbered from left to right. -/
def Rendering.datum : Datum → Rendering Shown
  | .null => return .null
  | .bool b => return .bool b
  | .int n => return .int n
  | .text s => return .text s
  | .list items => return .list (← Rendering.items items)
  | .record fields => return .record (← Rendering.fields fields)
  | .object ref => return .object (← Rendering.number ref)

/-- Show the items of a list. -/
def Rendering.items : List Datum → Rendering (List Shown)
  | [] => return []
  | item :: items => return (← Rendering.datum item) :: (← Rendering.items items)

/-- Show the fields of a record. -/
def Rendering.fields : List (String × Datum) → Rendering (List (String × Shown))
  | [] => return []
  | (name, value) :: fields => do
    let shown ← Rendering.datum value
    return (name, shown) :: (← Rendering.fields fields)

end

/-- Run a rendering on a bench. -/
def Bench.render {α : Type} (rendering : Rendering α) (bench : Bench) : α × Bench :=
  let (shown, numbered) := rendering.run bench.numbered
  (shown, { bench with numbered := numbered })

/-- Run a rendering in a session. -/
def Session.render {α : Type} (rendering : Rendering α) (s : Session) : α × Session :=
  let (shown, bench) := s.surroundings.render rendering
  (shown, { s with surroundings := bench })

end TestDoubles.Scenario
