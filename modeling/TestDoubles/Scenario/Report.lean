import TestDoubles.Dump.Error
import TestDoubles.Scenario.Session

/-!
# Reports

How answers are shown: keys and constructors by their texts, objects by number, stored values with
the name of their type.
-/

namespace TestDoubles.Scenario

/-- Why an operation of a scenario came to nothing. -/
inductive Failure where
  /-- The library refused. -/
  | refused (error : Error)
  /-- Something that has to exist does not; the message may be withheld. -/
  | missing (message : Option String)
  /-- Data that should have been options is not. -/
  | invalidOptions
  /-- The scenario itself makes no sense. -/
  | badInput (reason : String)
deriving Inhabited

namespace Report

/-- An error with its kind and its message. -/
def error (e : Error) : Shown :=
  .record [("error", .text e.kind), ("message", .text e.message)]

/-- A failure as fields of a report. -/
def failureFields : Failure → List (String × Shown)
  | .refused e => [("error", .text e.kind), ("message", .text e.message)]
  | .missing none => [("error", .text "Panic")]
  | .missing (some message) => [("error", .text "Panic"), ("message", .text message)]
  | .invalidOptions => [("error", .text "InvalidOptions")]
  | .badInput reason => [("error", .text "BadInput"), ("message", .text reason)]

/-- The outcome of an operation as fields of a report. -/
def outcomeFields : Except Failure Shown → List (String × Shown)
  | .ok shown => [("result", shown)]
  | .error failure => failureFields failure

/-- A text, or nothing. -/
def optionalText (text : Option String) : Shown :=
  .orNull (text.map .text)

/-- An object by number. -/
def object (ref : Ref) : Rendering Shown :=
  Rendering.datum (.object ref)

/-- Something that may be missing. -/
def optional {α : Type} (render : α → Rendering Shown) : Option α → Rendering Shown
  | some a => render a
  | none => return .null

/-- A stored value: an object by number, or a value with the name of its type. -/
def stored : Stored → Rendering Shown
  | .object _ ref => return .record [("object", ← object ref)]
  | .value type datum =>
    return .record [("type", .text (Samples.nameOf type)), ("value", ← Rendering.datum datum)]

/-- A double: its key, its object, and whether that is the double itself. -/
def mock (mock : Mock) : Rendering Shown :=
  return .record
    [ ("key", .text mock.key.text), ("object", ← object mock.object)
    , ("handleIsObject", .bool (mock.handle = mock.object)) ]

/-- What a parameter received, as fields. -/
def injectionFields (injection : Injection) : Rendering (List (String × Shown)) := do
  let value ← stored injection.value
  return [("parameter", .text injection.parameter), ("key", .text injection.key.text),
    ("source", .text injection.source.text), ("value", value)]

/-- A construction: its constructor, and what the parameters received. -/
def construction (c : Construction) : Rendering Shown := do
  let arguments ← c.injections.mapM fun injection => return .record (← injectionFields injection)
  return .record [("constructor", .text c.constructor.text), ("arguments", .list arguments)]

/-- Several constructions. -/
def constructions (cs : List Construction) : Rendering Shown :=
  return .list (← cs.mapM construction)

/-- A key with its constructions. -/
def historyEntry (entry : Key × List Construction) : Rendering Shown :=
  return .list [.text entry.1.text, ← constructions entry.2]

/-- A recipe. -/
def recipe (r : Recipe) : Shown :=
  .record
    [ ("type", .text r.target.text), ("hasFactory", .bool r.hasFactory)
    , ("arguments", optionalText (r.arguments.map fun args => args.signature.text))
    , ("lifetime", .text r.lifetime.text), ("sealed", .bool r.frozen) ]

/-- An entry of a registry; its object is what a look-up of its key finds. -/
def entry (registry : Registry) (e : Entry) : Rendering Shown := do
  let found ← optional (fun found => stored found.1) (registry.lookup e.key)
  return .record
    [ ("key", .text e.key.text), ("origin", .text e.origin.text), ("isMock", .bool e.isMock)
    , ("aliases", .texts (e.aliasKeys.map Key.text)), ("object", found) ]

/-- A parameter. -/
def param (p : Param) : Shown :=
  .record
    [ ("text", .text p.text), ("name", .text p.name), ("key", .text p.key.text)
    , ("kind", .text p.kind.text) ]

/-- The description of a constructor. -/
def declaration (d : Declaration) : Shown :=
  .record
    [ ("text", .text d.text), ("name", .text d.name), ("visibility", .text d.visibility.text)
    , ("params", .list (d.params.map param)), ("count", .nat d.params.length)
    , ("signature", .text d.signature.text) ]

/-- A signature, compared to another one. -/
def signature (s other : Signature) : Shown :=
  .record
    [ ("text", .text s.text), ("len", .nat s.length), ("empty", .bool (s.length = 0))
    , ("types", .texts (s.types.map Key.text)), ("equal", .bool (s = other)) ]

/-- Explicit arguments. -/
def arguments (args : Arguments) : Shown :=
  .record
    [ ("len", .nat args.length), ("empty", .bool (args.length = 0))
    , ("signature", .text args.signature.text) ]

/-- A key, compared to a type and to another key. -/
def key (k : Key) (type : TypeId) (other : Option Key) : Shown :=
  let equal (o : Key) : Shown := .list [.bool (k = o), .bool (k.unnamed = o.unnamed)]
  .record
    [ ("text", .text k.text), ("typeName", .text k.type.path), ("name", optionalText k.name)
    , ("unnamed", .text k.unnamed.text)
    , ("is", .list [.bool (k.type = type), .bool (k.type = type)])
    , ("equal", .orNull (other.map equal)) ]

/-- An event. -/
def event (e : Event) : Shown :=
  .record
    [ ("level", .text e.level.text), ("message", .text e.message)
    , ("fields", .record (e.fields.map fun (name, value) => (name, .text value))) ]

end Report

end TestDoubles.Scenario
