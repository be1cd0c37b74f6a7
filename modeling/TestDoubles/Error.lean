import TestDoubles.Declaration

/-!
# Errors

Everything that a registration or a construction can complain of, by cause. `Error.message` is the
only place where causes are put into words. Each kind of cause also has a case for a complaint that
comes in words of its own: factories and constructors raise such errors.
-/

namespace TestDoubles

/-- How an entry of the registry came to exist. -/
inductive Origin where
  /-- A double created on demand. -/
  | autoMock
  /-- A double supplied by the test. -/
  | customMock
  /-- A real implementation of a capability. -/
  | real
  /-- A plain value. -/
  | value
deriving DecidableEq, Inhabited

/-- The word for an origin. -/
def Origin.text : Origin → String
  | .autoMock => "AutoMock"
  | .customMock => "CustomMock"
  | .real => "Instance"
  | .value => "Value"

/-- Why an argument of an operation is refused. -/
inductive Misuse where
  /-- A double cannot have the empty name. -/
  | emptyMockName (capability : TypeId)
  /-- What is registered under the key is not a double. -/
  | notAMock (key : Key) (origin : Origin)
  /-- A capability cannot be combined with itself. -/
  | combinedWithItself (capability : TypeId)
  /-- The recipe of a type that has been built is fixed. -/
  | frozenRecipe (target : Key)
  /-- Any other reason. -/
  | stated (reason : String)
deriving DecidableEq, Inhabited

/-- The reason in words. -/
def Misuse.text : Misuse → String
  | .emptyMockName capability => "mock name for " ++ capability.path ++ " must not be empty"
  | .notAMock key origin => key.text ++ " is registered as " ++ origin.text ++ ", not as a mock"
  | .combinedWithItself capability => "cannot combine " ++ capability.path ++ " with itself"
  | .frozenRecipe target =>
    target.text ++ " has already been constructed; its instance model can no longer change"
  | .stated reason => reason

/-- Why a signature does not pin one constructor down. -/
inductive Ambiguity where
  /-- No visible constructor has these parameter types. -/
  | noneMatches (signature : Signature)
  /-- Several visible constructors have these parameter types. -/
  | severalMatch (count : Nat) (signature : Signature)
  /-- Any other reason. -/
  | stated (reason : String)
deriving DecidableEq, Inhabited

/-- The reason in words. -/
def Ambiguity.text : Ambiguity → String
  | .noneMatches signature => "no constructor matches " ++ signature.text
  | .severalMatch count signature => toString count ++ " constructors match " ++ signature.text
  | .stated reason => reason

/-- What stands in the way of a constructor. -/
inductive Obstacle where
  /-- The first parameter that nothing can fill. -/
  | unfilled (constructor : Declaration) (param : Param)
  /-- There is no constructor to choose. -/
  | noConstructors
  /-- Any other reason. -/
  | stated (reason : String)
deriving DecidableEq, Inhabited

/-- The obstacle in words. -/
def Obstacle.text : Obstacle → String
  | .unfilled constructor param =>
    constructor.text ++ " needs '" ++ param.name ++ "' (" ++ param.key.text ++ ")"
  | .noConstructors => "no constructors declared"
  | .stated reason => reason

/-- The way a dependency leads back to itself. -/
inductive Cycle where
  /-- The types in progress, outermost first, and the one requested again. -/
  | through (keys : List Key)
  /-- A cycle given in words. -/
  | stated (chain : String)
deriving DecidableEq, Inhabited

/-- The cycle in words. -/
def Cycle.text : Cycle → String
  | .through keys => " -> ".intercalate (keys.map Key.text)
  | .stated chain => chain

/-- Why a construction that was under way came to nothing. -/
inductive Breakdown where
  /-- The constructor asked for an argument it does not have. -/
  | missingArgument (index : Nat)
  /-- The constructor asked for an argument as something it is not. -/
  | wrongArgument (index : Nat) (expected : TypeId)
  /-- A factory made a value of another type. -/
  | wrongProduct
  /-- There is no factory to run. -/
  | noFactory
  /-- Any other reason. -/
  | stated (reason : String)
deriving DecidableEq, Inhabited

/-- The reason in words. -/
def Breakdown.text : Breakdown → String
  | .missingArgument index => "missing argument " ++ toString index
  | .wrongArgument index expected =>
    "argument " ++ toString index ++ " is not a " ++ expected.path
  | .wrongProduct => "factory produced another type"
  | .noFactory => "no factory registered"
  | .stated reason => reason

/-- Errors of registering doubles and of building types under test. -/
inductive Error where
  /-- An argument of an operation is refused. -/
  | invalidArgument (reason : Misuse)
  /-- A signature does not pin one constructor down. -/
  | ambiguousConstructor (target : TypeId) (reason : Ambiguity)
  /-- No visible constructor can be filled. -/
  | noResolvableConstructor (target : TypeId) (blocked : List Obstacle)
  /-- A parameter of the chosen constructor cannot be filled. -/
  | unresolvableParameter (target : TypeId) (parameter : String) (key : Key)
  /-- Nothing is registered under the key. -/
  | notFound (key : Key)
  /-- A type is requested while it is being built. -/
  | circularDependency (chain : Cycle)
  /-- A construction came to nothing. -/
  | constructionFailed (target : TypeId) (reason : Breakdown)
deriving DecidableEq, Inhabited

namespace Error

/-- The name of the kind of error. -/
def kind : Error → String
  | .invalidArgument _ => "InvalidArgument"
  | .ambiguousConstructor _ _ => "AmbiguousConstructor"
  | .noResolvableConstructor _ _ => "NoResolvableConstructor"
  | .unresolvableParameter _ _ _ => "UnresolvableParameter"
  | .notFound _ => "NotFound"
  | .circularDependency _ => "CircularDependency"
  | .constructionFailed _ _ => "ConstructionFailed"

/-- The error in words. -/
def message : Error → String
  | .invalidArgument reason => "Invalid argument: " ++ reason.text
  | .ambiguousConstructor target reason =>
    "Ambiguous constructor for " ++ target.path ++ ": " ++ reason.text
  | .noResolvableConstructor target blocked =>
    "No resolvable constructor for " ++ target.path ++ ": "
      ++ "; ".intercalate (blocked.map Obstacle.text)
  | .unresolvableParameter target parameter key =>
    "Unresolvable parameter '" ++ parameter ++ "' of type " ++ key.text ++ " in " ++ target.path
  | .notFound key => "Not found: " ++ key.text
  | .circularDependency chain => "Circular dependency detected: " ++ chain.text
  | .constructionFailed target reason =>
    "Failed to construct " ++ target.path ++ ": " ++ reason.text

end Error

end TestDoubles
