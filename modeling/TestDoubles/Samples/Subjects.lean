import TestDoubles.Construction
import TestDoubles.Samples.Types

/-!
# The types under test

The constructors of the sample types. Each of them depends on its arguments alone; an instance is a
record of what it was built from.
-/

namespace TestDoubles.Samples

variable {E : Type}

/-- A record that says only which constructor built it. -/
def builtBy (constructor : String) : Datum :=
  .record [("builtBy", .text constructor)]

/-- The constructors of a report service. -/
def reportServiceConstructors : List (Constructor E) :=
  [ .ofFunction { name := "new", params := [.capability "fs" fileSystem] } fun args => do
      let fs ← args.object fileSystem 0
      return .record [("fs", .object fs), ("root", .text "/"), ("builtBy", .text "new")]
  , .ofFunction
      { name := "with_root"
        params := [.capability "fs" fileSystem, .value "root" string] } fun args => do
      let fs ← args.object fileSystem 0
      let root ← args.value string 1
      return .record [("fs", .object fs), ("root", root), ("builtBy", .text "with_root")]
  , .ofFunction { name := "empty", visibility := .nonPublic } fun _ =>
      return .record [("fs", .null), ("root", .text ""), ("builtBy", .text "empty")] ]

/-- The constructor of a scheduler. -/
def schedulerConstructors : List (Constructor E) :=
  [ .ofFunction
      { name := "new"
        params := [.capability "clock" clock, .capability "logger" logger] } fun args => do
      let clock ← args.object clock 0
      let logger ← args.object logger 1
      return .record [("clock", .object clock), ("logger", .object logger)] ]

/-- Two constructors with one parameter each. -/
def twinConstructorsConstructors : List (Constructor E) :=
  [ .ofFunction { name := "from_clock", params := [.capability "clock" clock] } fun _ =>
      return builtBy "from_clock"
  , .ofFunction { name := "from_logger", params := [.capability "logger" logger] } fun _ =>
      return builtBy "from_logger" ]

/-- Two constructors with the same parameter types. -/
def duplicatedConstructors : List (Constructor E) :=
  [ .ofFunction { name := "first", params := [.capability "clock" clock] } fun _ =>
      return builtBy "first"
  , .ofFunction { name := "second", params := [.capability "clock" clock] } fun _ =>
      return builtBy "second" ]

/-- The constructors of a list of one or two numbers. -/
def pairConstructors : List (Constructor E) :=
  [ .ofFunction { name := "one", params := [.value "a" natural] } fun args => do
      let a ← args.value natural 0
      return .record [("values", .list [a]), ("builtBy", .text "one")]
  , .ofFunction { name := "two", params := [.value "a" natural, .value "b" natural] } fun args => do
      let a ← args.value natural 0
      let b ← args.value natural 1
      return .record [("values", .list [a, b]), ("builtBy", .text "two")] ]

/-- The constructor of a number of attempts. -/
def retryPolicyConstructors : List (Constructor E) :=
  [ .ofFunction { name := "new", params := [.value "attempts" natural] } fun args => do
      let attempts ← args.value natural 0
      return .record [("attempts", attempts)] ]

/-- The constructor of a writer of batches. -/
def batchWriterConstructors : List (Constructor E) :=
  [ .ofFunction
      { name := "new"
        params := [.capability "fs" fileSystem, .concrete "settings" settings] } fun args => do
      let fs ← args.object fileSystem 0
      let settings ← args.value settings 1
      return .record [("fs", .object fs), ("settings", settings)] ]

/-- The constructor of a pair of file systems told apart by name. -/
def mirrorConstructors : List (Constructor E) :=
  [ .ofFunction
      { name := "new"
        params :=
          [ .capability "primary" fileSystem (some "primary")
          , .capability "backup" fileSystem (some "backup") ] } fun args => do
      let primary ← args.object fileSystem 0
      let backup ← args.object fileSystem 1
      return .record [("primary", .object primary), ("backup", .object backup)] ]

/-- The constructor of a reader of an audit trail. -/
def auditorConstructors : List (Constructor E) :=
  [ .ofFunction { name := "new", params := [.capability "trail" auditTrail] } fun args => do
      let trail ← args.object auditTrail 0
      return .record [("trail", .object trail)] ]

/-- The constructor of a type without any state. -/
def cyclicConstructors : List (Constructor E) :=
  [ .ofFunction { name := "new" } fun _ => return .record [] ]

/-- The constructors of a type, in the order of declaration. -/
def subjectConstructors (type : TypeId) : List (Constructor E) :=
  if type = reportService then reportServiceConstructors
  else if type = scheduler then schedulerConstructors
  else if type = twinConstructors then twinConstructorsConstructors
  else if type = duplicated then duplicatedConstructors
  else if type = pair then pairConstructors
  else if type = retryPolicy then retryPolicyConstructors
  else if type = batchWriter then batchWriterConstructors
  else if type = mirror then mirrorConstructors
  else if type = auditor then auditorConstructors
  else if type = cyclic then cyclicConstructors
  else []

end TestDoubles.Samples
