import TestDoubles.Dump.Basic
import TestDoubles.Fixture

/-!
# Dumps of the state of a fixture

Keys, constructors, arguments, the registry, the history and the fixture itself as dumps. Identities
of types and stored values are left blank.
-/

namespace TestDoubles

/-- The dump of a key; the identity of its type is left blank. -/
def Key.dump (key : Key) : Dump :=
  .record "TypeKey"
    [ ("type_id", .applied "TypeId" [.word "_"]), ("type_name", .quoted key.type.path)
    , ("name", .option (key.name.map .quoted)) ] false

/-- The dump of a parameter. -/
def Param.dump (param : Param) : Dump :=
  .record "Param"
    [("name", .quoted param.name), ("key", param.key.dump), ("kind", .word param.kind.text)] false

/-- The dump of the description of a constructor. -/
def Declaration.dump (d : Declaration) : Dump :=
  .record "ConstructorInfo"
    [ ("name", .quoted d.name), ("visibility", .word d.visibility.text)
    , ("params", .list (d.params.map Param.dump)) ] false

/-- The dump of a constructor, whose function cannot be shown. -/
def Constructor.dump {E : Type} (c : Constructor E) : Dump :=
  .record "Constructor" [("info", c.toDeclaration.dump)] true

/-- The dump of a signature. -/
def Signature.dump (s : Signature) : Dump :=
  .applied "Signature" [.list (s.types.map Key.dump)]

/-- The dump of explicit arguments. -/
def Arguments.dump (args : Arguments) : Dump :=
  .record "Arguments"
    [("values", .list (args.values.map fun v => .applied "" [(Key.of v.type).dump, .stored]))] false

/-- The dump of a test's handle on a double, by the type of the double. -/
def Mock.dump (mock : Mock) (mockType : TypeId) : Dump :=
  .record "Mock" [("key", mock.key.dump), ("mock", .quoted mockType.path)] false

/-- The dump of an alias. -/
def Alias.dump (a : Alias) : Dump :=
  .record "Alias" [("key", a.key.dump)] true

/-- The dump of an entry of the registry. -/
def Entry.dump (entry : Entry) : Dump :=
  .record "MockEntry"
    [ ("key", entry.key.dump), ("origin", .word entry.origin.text), ("object", .stored)
    , ("handle", .option (entry.handle.map fun _ => .stored))
    , ("aliases", .list (entry.aliases.map Alias.dump)) ] false

/-- The dump of a registry. -/
def Registry.dump (r : Registry) : Dump :=
  .record "MockRegistry"
    [ ("entries", .list (r.entries.map Entry.dump))
    , ("exact", .table (r.exact.entries.map fun (key, index) => (key.dump, .nat index))) ] false

/-- The dump of what one parameter received. -/
def Injection.dump (injection : Injection) : Dump :=
  .record "ArgumentRecord"
    [ ("parameter", .quoted injection.parameter), ("key", injection.key.dump)
    , ("source", .word injection.source.text), ("value", .stored) ] false

/-- The dump of a construction. -/
def Construction.dump (construction : Construction) : Dump :=
  .record "ConstructorModel"
    [ ("constructor", construction.constructor.dump)
    , ("arguments", .list (construction.injections.map Injection.dump)) ] false

/-- The dump of a history. -/
def History.dump (h : History) : Dump :=
  .record "ConstructionHistory"
    [ ("records", .table (h.records.entries.map fun (key, constructions) =>
        (key.dump, .list (constructions.map Construction.dump)))) ] false

/-- The dump of a recipe; of its arguments only the number is shown. -/
def Recipe.dump (recipe : Recipe) : Dump :=
  .record "InstanceModel"
    [ ("instance_type", recipe.target.dump), ("has_factory", .bool recipe.hasFactory)
    , ("arguments", .option (recipe.arguments.map fun args => .nat args.length))
    , ("lifetime", .word recipe.lifetime.text), ("sealed", .bool recipe.frozen) ] false

/-- The dump of options. -/
def Options.dump (o : Options) : Dump :=
  .record "MockerOptions"
    [ ("default_values", .bool o.defaultValues)
    , ("non_public_constructors", .bool o.nonPublicConstructors) ] false

/-- The dump of a whole fixture. -/
def Fixture.dump (f : Fixture) : Dump :=
  .record "Mocker"
    [ ("options", f.options.dump), ("registry", f.registry.dump)
    , ("models", .table (f.recipes.entries.map fun (key, recipe) => (key.dump, recipe.dump)))
    , ("history", f.history.dump), ("state", .word f.stage.text)
    , ("resolving", .list (f.inProgress.map Key.dump)) ] false

end TestDoubles
