import TestDoubles.Samples.BatchWriter
import TestDoubles.Scenario.Session

/-!
# Calling methods

A method is called on what a slot holds: a double or an object directly, an object inside an
instance, or an instance that works with the objects inside it.
-/

namespace TestDoubles.Scenario

open Samples (Method)

namespace Bench

/-- The capability as which a field of an instance holds its object. -/
def fieldCapability? : String → Option TypeId
  | "fs" | "primary" | "backup" => some Samples.fileSystem
  | "trail" => some Samples.auditTrail
  | "clock" => some Samples.clock
  | "logger" => some Samples.logger
  | _ => none

/-- The object in a field of an instance. -/
def fieldObject? (instanceOf : Datum) (field : String) : Option (TypeId × Ref) :=
  match instanceOf.field? field, fieldCapability? field with
  | some (.object ref), some capability => some (capability, ref)
  | _, _ => none

/-- Call a method of the double behind an object. -/
def callObject (bench : Bench) (capability : TypeId) (ref : Ref) (method : Method) :
    Option (Datum × Bench) :=
  ((bench.double capability ref).call method).map fun (answer, double) =>
    (answer, bench.setDouble ref double)

/-- Read the clock, and log what it shows. -/
def tick (bench : Bench) (scheduler : Datum) : Option (Datum × Bench) := do
  let (clock, clockRef) ← fieldObject? scheduler "clock"
  let (logger, loggerRef) ← fieldObject? scheduler "logger"
  let (answer, bench) ← bench.callObject clock clockRef .now
  match answer with
  | .int now =>
    let (_, bench) ← bench.callObject logger loggerRef (.log ("tick at " ++ toString now))
    return (.int now, bench)
  | _ => none

/-- Write rows in batches to the file system of a writer; how many files were written. -/
def writeBatches (bench : Bench) (writer : Datum) (stem : String) (rows : List String) :
    Option (Datum × Bench) := do
  let (capability, ref) ← fieldObject? writer "fs"
  match writer.field? "settings", bench.double capability ref with
  | some (.int size), .files store =>
    let (written, store) := Samples.BatchWriter.write size.toNat stem rows store
    return (.nat written, bench.setDouble ref (.files store))
  | _, _ => none

/-- Call a method of an instance. -/
def callInstance (bench : Bench) (instanceOf : Datum) : Method → Option (Datum × Bench)
  | .tick => bench.tick instanceOf
  | .write stem rows => bench.writeBatches instanceOf stem rows
  | _ => none

/-- Call a method of what a slot holds, or of an object inside the instance that it holds. -/
def call (bench : Bench) (slot : String) (field : Option String) (method : Method) :
    Option (Datum × Bench) := do
  match ← bench.slots.find? slot, field with
  | .mock mock, _ => bench.callObject mock.capability mock.handle method
  | .object capability ref, _ => bench.callObject capability ref method
  | .instanceOf _ datum, some name =>
    let (capability, ref) ← fieldObject? datum name
    bench.callObject capability ref method
  | .instanceOf _ datum, none => bench.callInstance datum method

end Bench

end TestDoubles.Scenario
