import TestDoubles.Key
import TestDoubles.Table
import TestDoubles.Tree

/-!
# The sample types

The types that scenarios deal in: capabilities with the doubles that stand in for them, plain values
with their defaults, and types under test. Each has a short name by which scenarios call it.
-/

namespace TestDoubles.Samples

/-! ## Capabilities -/

/-- A file system. -/
def fileSystem : TypeId := ⟨"dyn driver::test_utils::mocks::FileSystem"⟩

/-- A clock. -/
def clock : TypeId := ⟨"dyn driver::test_utils::mocks::Clock"⟩

/-- A logger. -/
def logger : TypeId := ⟨"dyn driver::test_utils::mocks::Logger"⟩

/-- An audit trail; the double of a logger can serve as one. -/
def auditTrail : TypeId := ⟨"dyn driver::test_utils::mocks::AuditTrail"⟩

/-- The first of three capabilities with one double. -/
def alpha : TypeId := ⟨"dyn driver::types::Alpha"⟩

/-- The second of three capabilities with one double. -/
def beta : TypeId := ⟨"dyn driver::types::Beta"⟩

/-- The third of three capabilities with one double. -/
def gamma : TypeId := ⟨"dyn driver::types::Gamma"⟩

/-- A capability whose double is a gadget. -/
def widget : TypeId := ⟨"dyn driver::types::Widget"⟩

/-- A capability that is its own double, and a value type as well. -/
def gadget : TypeId := ⟨"driver::types::Gadget"⟩

/-! ## Doubles -/

/-- The double of a file system. -/
def mockFileSystem : TypeId := ⟨"driver::test_utils::mocks::MockFileSystem"⟩

/-- The double of a clock. -/
def mockClock : TypeId := ⟨"driver::test_utils::mocks::MockClock"⟩

/-- The double of a logger and of an audit trail. -/
def mockLogger : TypeId := ⟨"driver::test_utils::mocks::MockLogger"⟩

/-- The double of the three counting capabilities. -/
def probe : TypeId := ⟨"driver::types::Probe"⟩

/-! ## Values -/

/-- A small natural number. -/
def natural : TypeId := ⟨"u32"⟩

/-- An integer. -/
def integer : TypeId := ⟨"i64"⟩

/-- A truth value. -/
def bool : TypeId := ⟨"bool"⟩

/-- A text. -/
def string : TypeId := ⟨"alloc::string::String"⟩

/-- Settings: the size of a batch. -/
def settings : TypeId := ⟨"driver::test_utils::fixtures::Settings"⟩

/-! ## Types under test -/

/-- The types whose constructors a scenario describes, by name. -/
def scripted : List (String × TypeId) :=
  [ ("TypeA", ⟨"driver::types::TypeA"⟩), ("TypeB", ⟨"driver::types::TypeB"⟩)
  , ("TypeC", ⟨"driver::types::TypeC"⟩), ("TypeD", ⟨"driver::types::TypeD"⟩) ]

/-- A report service, built on a file system or on nothing. -/
def reportService : TypeId := ⟨"driver::test_utils::fixtures::ReportService"⟩

/-- A scheduler, built on a clock and a logger. -/
def scheduler : TypeId := ⟨"driver::test_utils::fixtures::Scheduler"⟩

/-- Two constructors that are equally long. -/
def twinConstructors : TypeId := ⟨"driver::test_utils::fixtures::TwinConstructors"⟩

/-- Two constructors with the same parameter types. -/
def duplicated : TypeId := ⟨"driver::test_utils::fixtures::Duplicated"⟩

/-- A list of one or two numbers. -/
def pair : TypeId := ⟨"driver::test_utils::fixtures::Pair"⟩

/-- A number of attempts. -/
def retryPolicy : TypeId := ⟨"driver::test_utils::fixtures::RetryPolicy"⟩

/-- A writer of batches, built on a file system and settings. -/
def batchWriter : TypeId := ⟨"driver::test_utils::fixtures::BatchWriter"⟩

/-- Two file systems told apart by name. -/
def mirror : TypeId := ⟨"driver::test_utils::fixtures::Mirror"⟩

/-- A reader of an audit trail. -/
def auditor : TypeId := ⟨"driver::test_utils::fixtures::Auditor"⟩

/-- A type without constructors. -/
def unbuildable : TypeId := ⟨"driver::test_utils::fixtures::Unbuildable"⟩

/-- A type that factories are made to depend on themselves with. -/
def cyclic : TypeId := ⟨"driver::test_utils::fixtures::Cyclic"⟩

/-! ## Tables over the types -/

/-- The capabilities by name, each with the double that stands in for it. -/
def capabilities : List (String × TypeId × TypeId) :=
  [ ("FileSystem", fileSystem, mockFileSystem), ("Clock", clock, mockClock)
  , ("Logger", logger, mockLogger), ("AuditTrail", auditTrail, mockLogger)
  , ("Alpha", alpha, probe), ("Beta", beta, probe), ("Gamma", gamma, probe)
  , ("Widget", widget, gadget), ("Gadget", gadget, gadget) ]

/-- The other types by name. -/
def plainTypes : List (String × TypeId) :=
  [ ("u32", natural), ("i64", integer), ("bool", bool), ("String", string), ("Settings", settings)
  , ("ReportService", reportService), ("Scheduler", scheduler)
  , ("TwinConstructors", twinConstructors), ("Duplicated", duplicated), ("Pair", pair)
  , ("RetryPolicy", retryPolicy), ("BatchWriter", batchWriter), ("Mirror", mirror)
  , ("Auditor", auditor), ("Unbuildable", unbuildable), ("Cyclic", cyclic) ]

/-- All types by name. -/
def names : List (String × TypeId) :=
  capabilities.map (fun (name, capability, _) => (name, capability)) ++ plainTypes ++ scripted

/-- The type of a given name. -/
def typeNamed? (name : String) : Option TypeId :=
  Table.find name names

/-- The name of a type; its path, if it has none. -/
def nameOf (type : TypeId) : String :=
  match names.find? fun entry => entry.2 = type with
  | some (name, _) => name
  | none => type.path

/-- The double that stands in for a capability; any other type stands in for itself. -/
def mockOf (type : TypeId) : TypeId :=
  (Table.find type (capabilities.map Prod.snd)).getD type

/-- Whether a type is one of those whose constructors a scenario describes. -/
def isScripted (type : TypeId) : Bool :=
  scripted.any fun entry => entry.2 = type

/-! ## Values of the types -/

/-- An instance of a scripted type: what built it, and what it was built from. -/
def scriptedInstance (builtBy : String) (fields : List Datum) : Datum :=
  .record [("builtBy", .text builtBy), ("fields", .list fields)]

/-- The default of a type. -/
def defaultOf (type : TypeId) : Datum :=
  if type = natural ∨ type = integer ∨ type = gadget then .int 0
  else if type = bool then .bool false
  else if type = string then .text ""
  else if type = settings then .int 16
  else if isScripted type then scriptedInstance "default" []
  else .null

/-- Whether a number is a natural number of at most 32 bits. -/
def fits32 (n : Int) : Bool :=
  0 ≤ n ∧ n < 4294967296

/-- The value of a type that a scenario writes as `datum`, if it is one. -/
def literal? (type : TypeId) (datum : Datum) : Option Datum :=
  if isScripted type then
    some (scriptedInstance "literal" [datum])
  else if type = cyclic ∨ type = unbuildable then
    some (.record [])
  else
    match datum with
    | .int n =>
      if type = integer then some (.int n)
      else if !fits32 n then none
      else if type = retryPolicy then some (.record [("attempts", .int n)])
      else if type = natural ∨ type = settings ∨ type = gadget then some (.int n)
      else none
    | .bool b => if type = bool then some (.bool b) else none
    | .text s => if type = string then some (.text s) else none
    | _ => none

end TestDoubles.Samples
