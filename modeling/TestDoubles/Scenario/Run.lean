import TestDoubles.Scenario.Interpreter

/-!
# Running scenarios

A scenario is run operation by operation on one session, and every operation is reported: its
outcome, the stage of the fixture, how much is registered and built, what factories did meanwhile,
and the events, as far as the scenario asks for them. An operation that fails does not end the run.
-/

namespace TestDoubles

open Scenario

namespace Scenario

/-- Which events are reported. -/
inductive Verbosity where
  | silent
  | warnings
  | everything
deriving DecidableEq, Inhabited

/-- Whether an event is reported. -/
def Verbosity.admits (verbosity : Verbosity) (event : Event) : Bool :=
  match verbosity with
  | .silent => false
  | .warnings => event.level = .warn
  | .everything => true

/-- A list under a name, unless it is empty. -/
def Report.listField (name : String) (items : List Shown) : List (String × Shown) :=
  if items.isEmpty then [] else [(name, .list items)]

/-- The report of an operation, given its outcome and the session after it. -/
def Session.report (verbosity : Verbosity) (outcome : Except Failure Shown) (s : Session) : Shown :=
  .record <|
    Report.outcomeFields outcome
      ++ [ ("state", .text s.fixture.stage.text)
         , ("entries", .nat s.fixture.registry.size)
         , ("built", .nat s.fixture.history.constructionCount) ]
      ++ Report.listField "trace" s.surroundings.trace
      ++ Report.listField "log" ((s.events.filter verbosity.admits).map Report.event)

/-- The session after everything in it has been reported. -/
def Session.reported (s : Session) : Session :=
  { s with events := [], surroundings := { s.surroundings with trace := [] } }

/-- The outcome of an operation and the session after it. If a factory interrupted the operation, that
is its outcome, and the fixture stays as it was at that moment: nothing is finished and nothing is
undone, and what was in progress remains so. -/
def Session.settle (outcome : Except Failure Shown) (s : Session) :
    Except Failure Shown × Session :=
  match s.surroundings.interruption with
  | none => (outcome, s)
  | some interruption =>
    ( .error (.missing interruption.message)
    , { s with
        fixture := interruption.fixture
        surroundings := { s.surroundings with interruption := none } } )

/-- The reports of operations, in order. -/
def Session.reports (catalog : Catalog Bench) (run : Runner Bench) (verbosity : Verbosity) :
    List Op → Session → List Shown
  | [], _ => []
  | op :: ops, s =>
    let (outcome, s) := op.exec catalog run s
    let (outcome, s) := Session.settle outcome s
    Session.report verbosity outcome s
      :: reports catalog run verbosity ops (Session.reported s)

end Scenario

/-- A run of a fixture, as data. -/
structure Scenario where
  /-- What is to be read as the options of the fixture, if they are not the standard ones. -/
  options : Option Datum := none
  /-- The constructors of the types that have no others. -/
  constructors : List (TypeId × List ScriptedConstructor) := []
  /-- Which events are reported. -/
  verbosity : Verbosity := .silent
  /-- What is done, in order. -/
  ops : List Op := []
deriving Inhabited

namespace Scenario

/-- How deeply factories can be nested. While nothing is torn down, the factories that run inside each
other make different types; after a teardown only those can run that are registered, anew, by the
scripts still running, and these scripts lie inside each other. -/
def depth (scenario : Scenario) : Nat :=
  let factories := scenario.ops.foldl (fun count op => count + op.factoryCount) 0
  (factories + 1) * (factories + 1)

/-- The reports of a run that starts with the given options. -/
def runWith (scenario : Scenario) (options : Options) : List Shown :=
  let catalog := catalog scenario.constructors
  Session.reports catalog (runFactories catalog scenario.depth) scenario.verbosity scenario.ops
    { fixture := .new options, surroundings := {} }

/-- The answer of a run: its reports, or a failure if the options are none. -/
def run (scenario : Scenario) : Shown :=
  match scenario.options with
  | none => .record [("steps", .list (scenario.runWith {}))]
  | some data =>
    match Options.ofTree? data with
    | some options => .record [("steps", .list (scenario.runWith options))]
    | none => .record (Report.failureFields .invalidOptions)

end Scenario

end TestDoubles
