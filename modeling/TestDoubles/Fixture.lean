import TestDoubles.History
import TestDoubles.Options
import TestDoubles.Recipe
import TestDoubles.Registry.Update

/-!
# Fixtures

A fixture is everything that one test has set up and built: the registry, the recipes, the history
of constructions, how far it has come, and the stack of types that are being produced right now,
which is what finds circular dependencies.
-/

namespace TestDoubles

/-- How far a fixture has come. It only moves forward until it is torn down. -/
inductive Stage where
  /-- Nothing has been set up. -/
  | unconfigured
  /-- Doubles, values or recipes have been registered. -/
  | configured
  /-- At least one instance has been built. -/
  | constructed
deriving DecidableEq, Inhabited

/-- The word for a stage. -/
def Stage.text : Stage → String
  | .unconfigured => "Unconfigured"
  | .configured => "Configured"
  | .constructed => "Constructed"

/-- The state of one test fixture. -/
structure Fixture where
  /-- How constructors are resolved. -/
  options : Options := {}
  /-- What has been provided. -/
  registry : Registry := {}
  /-- How instances are produced, for the types on which the test has an opinion. -/
  recipes : Table Key Recipe := {}
  /-- What has been built. -/
  history : History := {}
  /-- How far the fixture has come. -/
  stage : Stage := .unconfigured
  /-- The keys being produced right now, outermost first. -/
  inProgress : List Key := []
deriving Inhabited

namespace Fixture

/-- A fixture in which nothing has been set up. -/
def new (options : Options := {}) : Fixture :=
  { options := options }

/-- The recipe for a type. -/
def recipe? (f : Fixture) (type : TypeId) : Option Recipe :=
  f.recipes.find? (.of type)

/-- Whether a factory is registered for the key. -/
def hasFactory (f : Fixture) (key : Key) : Bool :=
  (f.recipes.find? key).any Recipe.hasFactory

/-- Start to produce `key`. A key that is already in progress depends on itself. -/
def enter (f : Fixture) (key : Key) : Except Error Fixture :=
  if key ∈ f.inProgress then
    .error (.circularDependency (.through (f.inProgress ++ [key])))
  else
    .ok { f with inProgress := f.inProgress ++ [key] }

/-- Stop producing the key that was started last. -/
def leave (f : Fixture) : Fixture :=
  { f with inProgress := f.inProgress.dropLast }

/-- Fix the recipe for `key`, if there is one. -/
def freeze (f : Fixture) (key : Key) : Fixture :=
  match f.recipes.find? key with
  | some recipe => { f with recipes := f.recipes.insert key { recipe with frozen := true } }
  | none => f

/-- Something has been registered. -/
def configured (f : Fixture) : Fixture :=
  if f.stage = .unconfigured then { f with stage := .configured } else f

/-- An instance has been built. -/
def built (f : Fixture) : Fixture :=
  { f with stage := .constructed }

/-- Forget everything but the options. -/
def reset (f : Fixture) : Fixture :=
  new f.options

/-- The object registered for a capability. -/
def requiredObject (f : Fixture) (capability : TypeId) : Except Error Ref :=
  match f.registry.object? capability with
  | some object => .ok object
  | none => .error (.notFound (.of capability))

/-- The value registered for a type. -/
def requiredValue (f : Fixture) (type : TypeId) : Except Error Datum :=
  match f.registry.value? type with
  | some value => .ok value
  | none => .error (.notFound (.of type))

end Fixture

end TestDoubles
