import TestDoubles.Dump.State
import TestDoubles.Scenario.Report
import TestDoubles.Scenario.Scripted

/-!
# Answering queries

What a query comes to, in a session that it leaves as it is: a rendering, since showing an answer may
number objects, or a failure.
-/

namespace TestDoubles.Scenario

/-- The registry that a shelf stands for. -/
def Session.registryOn (s : Session) : Shelf → Registry
  | .fixture => s.fixture.registry
  | .bare => s.surroundings.registry

/-- Look an object up. Only a fixture can be required to have one, and that without a name. -/
def Session.fetch (shelf : Shelf) (capability : TypeId) (name : Option String) (required : Bool)
    (s : Session) : Except Error (Option Ref) :=
  if required then
    (s.fixture.requiredObject capability).map some
  else
    .ok ((s.registryOn shelf).object? capability name)

/-- The dump of something. -/
def Session.dump (catalog : Catalog Bench) (s : Session) : Subject → Option Dump
  | .recipe type => (s.fixture.recipe? type).map Recipe.dump
  | .constructors type => some (.list ((catalog.constructors type).map Constructor.dump))
  | .mock slot =>
    match s.surroundings.slots.find? slot with
    | some (.mock mock) => some (mock.dump (catalog.mockOf mock.capability))
    | _ => none
  | .history => some s.fixture.history.dump
  | .fixture => some s.fixture.dump
  | .registry shelf => some (s.registryOn shelf).dump
  | .signature signature => some signature.dump

/-- What one parameter received, and how else that can be read. -/
def Session.showArgument (s : Session) (injection : Injection) (asObject asValue : Option TypeId)
    (slot : Option String) : Rendering Shown := do
  let fields ← Report.injectionFields injection
  let objectFields ←
    match asObject with
    | some capability =>
      pure [("asObject", ← Report.optional Report.object (injection.object? capability))]
    | none => pure []
  let valueFields ←
    match asValue with
    | some type =>
      pure [("asValue", ← Report.optional Rendering.datum (injection.value? type))]
    | none => pure []
  let mockFields :=
    match slot.bind s.surroundings.slots.find? with
    | some (.mock mock) => [("isMock", .bool (injection.isMock mock))]
    | _ => []
  return .record (fields ++ objectFields ++ valueFields ++ mockFields)

/-- Switch options one after the other; a name stands for one of the two switches. -/
def Query.switched (options : Options) (switches : List (String × Bool)) : Options :=
  switches.foldl (fun o (name, enabled) =>
    if name = "default_values" then
      { o with defaultValues := enabled }
    else
      { o with nonPublicConstructors := enabled }) options

/-- The answer to a query. -/
def Session.answer (catalog : Catalog Bench) (s : Session) : Query → Except Failure (Rendering Shown)
  | .options => .ok (return s.fixture.options.toTree)
  | .stage => .ok (return .text s.fixture.stage.text)
  | .value shelf type =>
    .ok (Report.optional Rendering.datum ((s.registryOn shelf).value? type))
  | .requiredValue type =>
    match s.fixture.requiredValue type with
    | .ok datum => .ok (Rendering.datum datum)
    | .error e => .error (.refused e)
  | .recipe type => .ok (return .orNull ((s.fixture.recipe? type).map Report.recipe))
  | .history =>
    .ok (return .list (← s.fixture.history.records.entries.mapM Report.historyEntry))
  | .historySize =>
    let h := s.fixture.history
    .ok (return .list [.nat h.size, .bool (h.size = 0), .nat h.constructionCount])
  | .freshHistory =>
    let h := History.empty
    .ok (return .list [.nat h.size, .bool (h.size = 0), .nat h.constructionCount,
      .nat h.records.entries.length])
  | .historyContains key =>
    let h := s.fixture.history
    .ok (return .list [.bool (h.contains key.unnamed), .bool (h.contains key)])
  | .historyOf type =>
    .ok (Report.optional Report.constructions (s.fixture.history.find? (.of type)))
  | .historyEntry index => .ok (Report.optional Report.historyEntry (s.fixture.history.at? index))
  | .historyAt index =>
    match s.fixture.history.at? index with
    | some (_, constructions) => .ok (Report.constructions constructions)
    | none => .error (.missing none)
  | .historyUnder key =>
    match s.fixture.history.find? key with
    | some constructions => .ok (Report.constructions constructions)
    | none => .error (.missing (some ("no constructions recorded for " ++ key.text)))
  | .argument type index parameter asObject asValue slot =>
    let found := do
      let constructions ← s.fixture.history.find? (.of type)
      let construction ← constructions[index]?
      construction.injection? parameter
    .ok (Report.optional (s.showArgument · asObject asValue slot) found)
  | .entries shelf =>
    let r := s.registryOn shelf
    .ok (return .list (← r.entries.mapM (Report.entry r)))
  | .size shelf =>
    let r := s.registryOn shelf
    .ok (return .list [.nat r.size, .bool (r.size = 0)])
  | .contains shelf key => .ok (return .bool ((s.registryOn shelf).contains key))
  | .indexOf shelf key required =>
    match (s.registryOn shelf).indexOf key required with
    | .ok index => .ok (return .orNull (index.map .nat))
    | .error e => .error (.refused e)
  | .lookup shelf key =>
    let render (found : Stored × Origin) : Rendering Shown :=
      return .list [← Report.stored found.1, .text found.2.text]
    .ok (Report.optional render ((s.registryOn shelf).lookup key))
  | .dumpEntry shelf index =>
    .ok (return Report.optionalText ((s.registryOn shelf).entries[index]?.map (·.dump.text)))
  | .sameDouble slot other =>
    match s.surroundings.slots.find? slot, s.surroundings.slots.find? other with
    | some (.mock a), some (.mock b) => .ok (return .bool (a.sameAs b))
    | some (.mock a), some (.object _ ref) => .ok (return .bool (a.isObject ref))
    | _, _ => .error (.badInput "these slots cannot be compared")
  | .dump subject => .ok (return Report.optionalText ((s.dump catalog subject).map Dump.text))
  | .readOptions data =>
    match Options.ofTree? data with
    | some options => .ok (return options.toTree)
    | none => .ok (return .record (Report.failureFields .invalidOptions))
  | .switchOptions start switches =>
    match Options.ofTree? start with
    | some options =>
      let options := Query.switched options switches
      .ok (return .list [options.toTree, .bool (options = {})])
    | none => .error .invalidOptions
  | .key key type other => .ok (return Report.key key type other)
  | .signature signature other => .ok (return Report.signature signature other)
  | .accepts type signature =>
    .ok (return .list ((catalog.constructors type).map fun c => .bool (signature.accepts c.params)))
  | .constructors type =>
    .ok (return .list ((catalog.constructors type).map fun c => Report.declaration c.toDeclaration))
  | .error e other =>
    let same : Shown := .orNull (other.map fun o => .bool (e.sameAs o))
    .ok (return .list [Report.error e, .text e.dump.text, same])

end TestDoubles.Scenario
