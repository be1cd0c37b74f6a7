import TestDoubles.Samples.Subjects
import TestDoubles.Scenario.Session

/-!
# Scripted constructors

A scenario describes the constructors of its own types as data: the declaration, which arguments the
function reads and as what, and whether it fails in the end. Every read is shown as it happens, so
that objects get their numbers then, even if the construction fails later.
-/

namespace TestDoubles.Scenario

/-- One read of a scripted constructor. -/
inductive Read where
  /-- The argument at a position, as an object. -/
  | object (capability : TypeId) (index : Nat)
  /-- The argument at a position, as a value. -/
  | value (type : TypeId) (index : Nat)
  /-- How many arguments there are. -/
  | size
deriving Inhabited

/-- A constructor as a scenario describes it. -/
structure ScriptedConstructor where
  /-- Its declaration. -/
  declaration : Declaration
  /-- What its function reads; without an opinion, every parameter as what it is. -/
  reads : Option (List Read) := none
  /-- The error with which it fails after its reads. -/
  failure : Option Error := none
deriving Inhabited

namespace ScriptedConstructor

/-- Read every parameter as what it is. -/
def standardReads (params : List Param) : List Read :=
  params.zipIdx.map fun (param, index) =>
    match param.kind with
    | .capability => .object param.key.type index
    | .value | .concrete => .value param.key.type index

/-- Perform one read. -/
def read (intake : Intake) : Read → Except Error Datum
  | .object capability index => (intake.object capability index).map .object
  | .value type index => intake.value type index
  | .size => .ok (.list [.nat intake.length, .bool (intake.length = 0)])

/-- Perform reads in order, up to the first that fails, and number the objects that they show. -/
def readAll (intake : Intake) : List Read → Bench → Except Error (List Datum) × Bench
  | [], bench => (.ok [], bench)
  | r :: reads, bench =>
    match read intake r with
    | .error e => (.error e, bench)
    | .ok datum =>
      let (_, bench) := bench.render (Rendering.datum datum)
      match readAll intake reads bench with
      | (.error e, bench) => (.error e, bench)
      | (.ok data, bench) => (.ok (datum :: data), bench)

/-- The constructor that a description stands for. -/
def toConstructor (c : ScriptedConstructor) : Constructor Bench :=
  { c.declaration with
    build := fun intake bench =>
      match readAll intake (c.reads.getD (standardReads c.declaration.params)) bench with
      | (.error e, bench) => (.error e, bench)
      | (.ok data, bench) =>
        match c.failure with
        | some e => (.error e, bench)
        | none => (.ok (Samples.scriptedInstance c.declaration.name data), bench) }

end ScriptedConstructor

/-- The catalog of a scenario: the sample types, with the constructors that it describes. -/
def catalog (scripted : List (TypeId × List ScriptedConstructor)) : Catalog Bench where
  mockOf := Samples.mockOf
  defaultOf := Samples.defaultOf
  constructors := fun type =>
    match Table.find type scripted with
    | some constructors => constructors.map ScriptedConstructor.toConstructor
    | none => Samples.subjectConstructors type

end TestDoubles.Scenario
