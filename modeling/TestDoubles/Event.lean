import TestDoubles.Error

/-!
# Events

What the library reports while it works, in order. An event is kept by what it is about; its level,
its message and its fields are read off it.
-/

namespace TestDoubles

/-- How urgent an event is. -/
inductive Level where
  | debug
  | warn
deriving DecidableEq, Inhabited

/-- The word for a level. -/
def Level.text : Level → String
  | .debug => "DEBUG"
  | .warn => "WARN"

/-- Where a resolved argument came from. -/
inductive Source where
  /-- Passed by the test. -/
  | explicit
  /-- A double created on demand. -/
  | autoMock
  /-- A double supplied by the test. -/
  | customMock
  /-- A real implementation registered for a capability. -/
  | real
  /-- A registered value. -/
  | value
  /-- Made by a registered factory. -/
  | factory
  /-- The default of a value type, where the options allow it. -/
  | defaultValue
  /-- The default of a concrete dependency. -/
  | constructed
deriving DecidableEq, Inhabited

namespace Source

/-- The source of an argument found in the registry. -/
def ofOrigin : Origin → Source
  | .autoMock => .autoMock
  | .customMock => .customMock
  | .real => .real
  | .value => .value

/-- The word for a source. -/
def text : Source → String
  | .explicit => "Explicit"
  | .autoMock => "AutoMock"
  | .customMock => "CustomMock"
  | .real => "Instance"
  | .value => "Value"
  | .factory => "Factory"
  | .defaultValue => "DefaultValue"
  | .constructed => "Constructed"

end Source

/-- One report. -/
inductive Event where
  /-- A double of type `mock` was created on demand. -/
  | createdMock (key : Key) (mock : TypeId)
  /-- A key got its first entry. -/
  | registeredEntry (key : Key) (origin : Origin)
  /-- The new entry under `key` cannot stand in for `other` as the old one did. -/
  | droppedAlias (key other : Key)
  /-- A double created on demand was replaced by something else. -/
  | replacedAutoMock (key : Key)
  /-- The double of `capability` now also serves `other`. -/
  | combinedMock (capability other : Key)
  /-- A constructor was passed over for the named parameter. -/
  | notResolvable (constructor : Declaration) (parameter : String)
  /-- A constructor was chosen. -/
  | selected (constructor : Declaration)
  /-- A parameter was filled. -/
  | resolvedArgument (parameter : String) (source : Source)
  /-- Explicit arguments were left over. -/
  | unusedArguments (constructor : Declaration) (count : Nat)
  /-- A construction went into the history. -/
  | recorded (target : Key) (constructor : Declaration)
  /-- A type with a factory was requested. -/
  | fromFactory (target : Key)
  /-- The fixture is about to be torn down. -/
  | resetting (entries : Nat) (constructions : Nat)
deriving DecidableEq, Inhabited

namespace Event

/-- Only changes that a test may not have meant are warnings. -/
def level : Event → Level
  | .droppedAlias _ _ | .replacedAutoMock _ | .unusedArguments _ _ => .warn
  | _ => .debug

/-- The event in words. -/
def message : Event → String
  | .createdMock _ _ => "Created mock"
  | .registeredEntry _ _ => "Registered entry"
  | .droppedAlias _ _ => "Replacement cannot serve combined capability; alias dropped"
  | .replacedAutoMock _ => "Replacing auto-created mock; instances built earlier keep the old one"
  | .combinedMock _ _ => "Combined mock"
  | .notResolvable _ _ => "Constructor not resolvable"
  | .selected _ => "Selected constructor"
  | .resolvedArgument _ _ => "Resolved argument"
  | .unusedArguments _ _ => "Explicit arguments did not match any parameter"
  | .recorded _ _ => "Recorded construction"
  | .fromFactory _ => "Creating instance from factory"
  | .resetting _ _ => "Resetting mocker"

/-- The particulars of the event, by name. -/
def fields : Event → List (String × String)
  | .createdMock key mock => [("capability", key.text), ("mock", mock.path)]
  | .registeredEntry key origin => [("key", key.text), ("origin", origin.text)]
  | .droppedAlias key other => [("key", key.text), ("alias", other.text)]
  | .replacedAutoMock key => [("key", key.text)]
  | .combinedMock capability other => [("capability", capability.text), ("alias", other.text)]
  | .notResolvable constructor parameter =>
    [("constructor", constructor.text), ("parameter", parameter)]
  | .selected constructor => [("constructor", constructor.text)]
  | .resolvedArgument parameter source => [("parameter", parameter), ("source", source.text)]
  | .unusedArguments constructor count =>
    [("constructor", constructor.text), ("unused", toString count)]
  | .recorded target constructor =>
    [("target_type", target.text), ("constructor", constructor.text)]
  | .fromFactory target => [("target_type", target.text)]
  | .resetting entries constructions =>
    [("entries", toString entries), ("constructions", toString constructions)]

end Event

end TestDoubles
