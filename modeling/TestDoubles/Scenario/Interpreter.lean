import TestDoubles.Scenario.Answer
import TestDoubles.Scenario.Method

/-!
# Interpreting operations

An action is done in three parts: preparing it, which may set up new doubles on the bench; performing
the command that it stands for, which alone touches the fixture; and concluding it, which keeps its
outcome and shows it. Factories are run by interpreting their scripts one level deeper, so that the
interpreter recurs on the depth of nesting and on nothing else.
-/

namespace TestDoubles.Scenario

open Samples (Double)

/-! ## Preparing -/

/-- Set up a new double, with its state. -/
def Session.newDouble (capability : TypeId) (seed : Datum) (s : Session) : Ref × Session :=
  let (ref, s) := s.allocate
  (ref, s.mapSurroundings fun bench => bench.setDouble ref (Double.seeded capability seed))

/-- The argument that a scenario writes. -/
def ArgumentSpec.prepare (spec : ArgumentSpec) (s : Session) : Except Failure Stored × Session :=
  match spec with
  | .value type literal =>
    match Samples.literal? type literal with
    | some datum => (.ok (.value type datum), s)
    | none => (.error (.badInput ("not a value of " ++ type.path)), s)
  | .seeded capability seed =>
    let (ref, s) := s.newDouble capability seed
    (.ok (.object capability ref), s)
  | .slot name =>
    match s.surroundings.object? name with
    | some (capability, ref) => (.ok (.object capability ref), s)
    | none => (.error (.badInput ("no object in " ++ name)), s)

/-- The arguments that a scenario writes. -/
def ArgumentSpec.prepareAll : List ArgumentSpec → Session → Except Failure Arguments × Session
  | [], s => (.ok {}, s)
  | spec :: specs, s =>
    match spec.prepare s with
    | (.error failure, s) => (.error failure, s)
    | (.ok first, s) =>
      match prepareAll specs s with
      | (.error failure, s) => (.error failure, s)
      | (.ok rest, s) => (.ok ⟨first :: rest.values⟩, s)

/-- The arguments that a scenario writes, if it does. -/
def ArgumentSpec.prepareOptional (specs : Option (List ArgumentSpec)) (s : Session) :
    Except Failure (Option Arguments) × Session :=
  match specs with
  | none => (.ok none, s)
  | some specs =>
    match ArgumentSpec.prepareAll specs s with
    | (.error failure, s) => (.error failure, s)
    | (.ok arguments, s) => (.ok (some arguments), s)

/-- The command that an action stands for. -/
def Action.prepare (catalog : Catalog Bench) (action : Action) (s : Session) :
    Except Failure Command × Session :=
  match action with
  | .getMock capability name => (.ok (.getMock capability name), s)
  | .getObject capability => (.ok (.getObject capability), s)
  | .addCustomMock capability name _ => (.ok (.addCustomMock capability name), s)
  | .useSeeded capability seed =>
    let (ref, s) := s.newDouble capability seed
    (.ok (.useInstance capability ref), s)
  | .useSlot capability slot =>
    match s.surroundings.object? slot with
    | some (_, ref) => (.ok (.useInstance capability ref), s)
    | none => (.error (.badInput ("no object in " ++ slot)), s)
  | .useValue type literal =>
    match Samples.literal? type literal with
    | some datum => (.ok (.useValue type datum), s)
    | none => (.error (.badInput ("not a value of " ++ type.path)), s)
  | .combine capability other =>
    if catalog.mockOf capability = catalog.mockOf other then
      (.ok (.combine capability other), s)
    else
      (.error (.badInput "no double stands in for both"), s)
  | .setArguments type arguments =>
    match ArgumentSpec.prepareAll arguments s with
    | (.error failure, s) => (.error failure, s)
    | (.ok arguments, s) => (.ok (.setArguments type arguments), s)
  | .create type arguments =>
    match ArgumentSpec.prepareOptional arguments s with
    | (.error failure, s) => (.error failure, s)
    | (.ok arguments, s) => (.ok (.create type arguments), s)
  | .createBySignature type signature => (.ok (.createBySignature type signature), s)
  | .resolve type signature arguments =>
    match ArgumentSpec.prepareAll arguments s with
    | (.error failure, s) => (.error failure, s)
    | (.ok arguments, s) => (.ok (.resolve type signature arguments), s)
  | .reset => (.ok .reset, s)

/-! ## Concluding -/

/-- Keep the outcome of an action on the bench, and show it. -/
def Action.conclude (action : Action) (slot : Option String) (reply : Reply) (s : Session) :
    Shown × Session :=
  match reply with
  | .nothing => (.null, s)
  | .mock mock =>
    let s : Session := s.mapSurroundings fun bench =>
      match action with
      | .addCustomMock capability _ seed =>
        bench.setDouble mock.handle (Double.seeded capability seed)
      | _ => bench
    (s.keep slot (.mock mock)).render (Report.mock mock)
  | .object ref => (s.keep slot (.object action.subject ref)).render (Report.object ref)
  | .instanceOf datum =>
    (s.keep slot (.instanceOf action.subject datum)).render (Rendering.datum datum)
  | .construction construction datum =>
    (s.keep slot (.instanceOf action.subject datum)).render do
      let model ← Report.construction construction
      let shown ← Rendering.datum datum
      return .record [("model", model), ("instance", shown)]

/-! ## The bare registry -/

/-- Perform an operation on the bare registry, which may use one fresh object. -/
def Session.onBareRegistry {α : Type} (operation : Registry → Ref → Registry.Outcome α)
    (s : Session) : Except Error α × Session :=
  let (fresh, s) := s.allocate
  let outcome := operation s.surroundings.registry fresh
  (outcome.result,
    (s.mapSurroundings fun bench => { bench with registry := outcome.registry }).emit outcome.events)

/-- Do what a command says to the bare registry, if it is about a registry. -/
def Session.performBare (mockOf : TypeId → TypeId) (command : Command) (s : Session) :
    Except Failure Reply × Session :=
  let refuse (answer : Except Error Mock × Session) : Except Failure Reply × Session :=
    match answer with
    | (.ok mock, s) => (.ok (.mock mock), s)
    | (.error e, s) => (.error (.refused e), s)
  let change (registry : Registry) (events : List Event) : Session :=
    (s.mapSurroundings fun bench => { bench with registry := registry }).emit events
  let registry := s.surroundings.registry
  match command with
  | .getMock capability name =>
    refuse (s.onBareRegistry fun r fresh => r.getOrCreateMock mockOf fresh capability name)
  | .addCustomMock capability name =>
    refuse (s.onBareRegistry fun r fresh => r.addCustomMock mockOf fresh capability name)
  | .combine capability other =>
    refuse (s.onBareRegistry fun r fresh => r.combine mockOf fresh capability other)
  | .useInstance capability ref =>
    let (registry, events) := registry.useInstance mockOf capability ref
    (.ok (.object ref), change registry events)
  | .useValue type datum =>
    let (registry, events) := registry.useValue mockOf type datum
    (.ok .nothing, change registry events)
  | _ => (.error (.badInput "not an operation of a registry"), s)

/-! ## Operations -/

variable (catalog : Catalog Bench) (run : Runner Bench)

/-- Do what a command says on a shelf. -/
def Session.performOn (shelf : Shelf) (command : Command) (s : Session) :
    Except Failure Reply × Session :=
  match shelf with
  | .bare => s.performBare catalog.mockOf command
  | .fixture =>
    match s.perform catalog run command with
    | (.ok reply, s) => (.ok reply, s)
    | (.error e, s) => (.error (.refused e), s)

/-- Do an action. -/
def Action.exec (action : Action) (shelf : Shelf) (slot : Option String) (s : Session) :
    Except Failure Shown × Session :=
  match action.prepare catalog s with
  | (.error failure, s) => (.error failure, s)
  | (.ok command, s) =>
    match s.performOn catalog run shelf command with
    | (.error failure, s) => (.error failure, s)
    | (.ok reply, s) =>
      let (shown, s) := action.conclude slot reply s
      (.ok shown, s)

/-- Interpret one operation. -/
def Op.exec (op : Op) (s : Session) : Except Failure Shown × Session :=
  match op with
  | .renew options =>
    match options with
    | none => (.ok .null, s.mapFixture fun _ => .new)
    | some data =>
      match Options.ofTree? data with
      | some options => (.ok .null, s.mapFixture fun _ => .new options)
      | none => (.error .invalidOptions, s)
  | .act shelf action slot => action.exec catalog run shelf slot s
  | .addType type lifetime script =>
    let id : FactoryId := ⟨s.surroundings.factories.length⟩
    let s := s.mapSurroundings fun bench =>
      { bench with factories := bench.factories ++ [{ product := type, script := script }] }
    match s.perform catalog run (.addType type lifetime id) with
    | (.ok _, s) => (.ok .null, s)
    | (.error e, s) => (.error (.refused e), s)
  | .clear =>
    (.ok .null, s.mapSurroundings fun bench => { bench with registry := bench.registry.clear })
  | .fetch shelf capability name required slot =>
    match s.fetch shelf capability name required with
    | .error e => (.error (.refused e), s)
    | .ok none => (.ok .null, s)
    | .ok (some ref) =>
      let (shown, s) := (s.keep slot (.object capability ref)).render (Report.object ref)
      (.ok shown, s)
  | .call slot field method =>
    match s.surroundings.call slot field method with
    | some (answer, bench) =>
      let s : Session := s.mapSurroundings fun _ => bench
      let (shown, s) := s.render (Rendering.datum answer)
      (.ok shown, s)
    | none => (.error (.badInput ("no such method on " ++ slot)), s)
  | .ask query =>
    match s.answer catalog query with
    | .ok rendering =>
      let (shown, s) := s.render rendering
      (.ok shown, s)
    | .error failure => (.error failure, s)
  | .arguments specs dumped =>
    match ArgumentSpec.prepareAll specs s with
    | (.ok args, s) => (.ok (if dumped then .text args.dump.text else Report.arguments args), s)
    | (.error failure, s) => (.error failure, s)
  | .malformed reason => (.error (.badInput reason), s)

/-! ## Factories -/

/-- Interpret the steps of a factory, and trace their outcomes. The error of an attempted step ends
the factory. A step that breaks off interrupts everything under way, and leaves no trace. -/
def Step.execAll : List Step → Session → Option Error × Session
  | [], s => (none, s)
  | .mk op attempted :: steps, s =>
    match op.exec catalog run s with
    | (.error (.missing message), s) => (some Interruption.failure, Session.interrupt message s)
    | (outcome, s) =>
      if Session.isInterrupted s then
        (some Interruption.failure, s)
      else
        let s := s.mapSurroundings fun bench =>
          bench.addTrace (.record (Report.outcomeFields outcome))
        match attempted, outcome with
        | true, .error (.refused e) => (some e, s)
        | _, _ => execAll steps s

/-- A literal value of the type that a factory makes. -/
def FactoryRecord.literal (factory : FactoryRecord) (literal : Datum) : Except Error Datum :=
  match Samples.literal? factory.product literal with
  | some datum => .ok datum
  | none => .error (.constructionFailed factory.product .wrongProduct)

/-- What a factory comes to when its steps are done. -/
def FactoryRecord.finish (factory : FactoryRecord) (s : Session) : Except Error Datum × Session :=
  match factory.script.ending with
  | .fail e => (.error e, s)
  | .count base => (factory.literal (.int (base + factory.calls)), s)
  | .value literal => (factory.literal literal, s)
  | .create _ (some signature) =>
    s.create catalog run factory.product (some signature) none
  | .create arguments none =>
    match ArgumentSpec.prepareOptional arguments s with
    | (.ok arguments, s) => s.create catalog run factory.product none arguments
    | (.error _, s) => (.error (.constructionFailed factory.product .wrongProduct), s)

/-- Run one factory: count and trace the call, interpret its steps, and finish. -/
def FactoryRecord.exec (factory : FactoryRecord) (id : FactoryId) (s : Session) :
    Except Error Datum × Session :=
  let call : Shown :=
    .record [("factory", .text factory.product.path), ("call", .nat factory.calls)]
  let s := s.mapSurroundings fun bench =>
    { bench.addTrace call with
      factories := bench.factories.set id.index { factory with calls := factory.calls + 1 } }
  match Step.execAll catalog run factory.script.steps s with
  | (some e, s) => (.error e, s)
  | (none, s) => factory.finish catalog run s

/-- Run registered factories, nested in each other at most so deep; one that cannot be run breaks
off. -/
def runFactories : Nat → Runner Bench
  | 0, _, s => (.error Interruption.failure, Session.interrupt none s)
  | depth + 1, id, s =>
    match s.surroundings.factories[id.index]? with
    | some factory => factory.exec catalog (runFactories depth) id s
    | none => (.error Interruption.failure, Session.interrupt none s)

end TestDoubles.Scenario
