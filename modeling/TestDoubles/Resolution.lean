import TestDoubles.Selection
import TestDoubles.World

/-!
# Resolving arguments

How the parameters of the selected constructor are filled, one after the other, each from the first
of these that has something for it: the explicit arguments, the registry, a registered factory, and
last what the kind of the parameter offers. Factories are code from outside the library; they run
through a runner that is passed in, and they may do anything to the fixture meanwhile.
-/

namespace TestDoubles

/-- How a registered factory is run: on the whole world, to a product or an error. -/
abbrev Runner (E : Type) := FactoryId → World E → Except Error Datum × World E

namespace World

variable {E : Type} (catalog : Catalog E) (run : Runner E)

/-- Run the factory registered for `key`, if there is one, and keep its product if that is its
lifetime. -/
def produce (key : Key) (w : World E) : Except Error (Option Stored) × World E :=
  match w.fixture.recipes.find? key with
  | none => (.ok none, w)
  | some recipe =>
    match recipe.factory with
    | none => (.ok none, w)
    | some factory =>
      match w.enter key with
      | .error e => (.error e, w)
      | .ok w =>
        match run factory.id w with
        | (.error e, w) => (.error e, w.leave)
        | (.ok datum, w) =>
          let value := Stored.value factory.product datum
          let w := w.leave
          let w :=
            match recipe.lifetime with
            | .singleton => w.insertValue catalog.mockOf key value
            | .transient => w
          (.ok (some value), w.mapFixture (Fixture.freeze · key))

/-- Fill a parameter for which there is neither an argument nor an entry nor a factory. -/
def fallBack (target : TypeId) (param : Param) (w : World E) :
    Except Error (Source × Stored) × World E :=
  match param.kind with
  | .capability =>
    match w.onRegistry fun r fresh =>
        r.getOrCreateMock catalog.mockOf fresh param.key.type param.key.name with
    | (.ok mock, w) => (.ok (.autoMock, .object mock.capability mock.object), w)
    | (.error e, w) => (.error e, w)
  | .value =>
    if w.fixture.options.defaultValues then
      (.ok (.defaultValue, .value param.key.type (catalog.defaultOf param.key.type)), w)
    else
      (.error (.unresolvableParameter target param.name param.key), w)
  | .concrete =>
    (.ok (.constructed, .value param.key.type (catalog.defaultOf param.key.type)), w)

/-- Fill a parameter without an explicit argument. -/
def provide (target : TypeId) (param : Param) (w : World E) :
    Except Error (Source × Stored) × World E :=
  match w.fixture.registry.lookup param.key with
  | some (value, origin) => (.ok (.ofOrigin origin, value), w)
  | none =>
    match w.produce catalog run param.key.unnamed with
    | (.error e, w) => (.error e, w)
    | (.ok (some value), w) => (.ok (.factory, value), w)
    | (.ok none, w) => w.fallBack catalog target param

/-- Fill a parameter; the mask says which explicit arguments are used, before and after. -/
def resolveArgument (target : TypeId) (explicit : Arguments) (param : Param) (used : List Bool)
    (w : World E) : Except Error (Injection × List Bool) × World E :=
  match explicit.find? param.key.type used with
  | some (index, value) =>
    (.ok (⟨param.name, param.key, .explicit, value⟩, used.set index true), w)
  | none =>
    match w.provide catalog run target param with
    | (.ok (source, value), w) => (.ok (⟨param.name, param.key, source, value⟩, used), w)
    | (.error e, w) => (.error e, w)

/-- Fill parameters in order, up to the first that fails. -/
def resolveParams (target : TypeId) (explicit : Arguments) :
    List Param → List Bool → World E → Except Error (List Injection × List Bool) × World E
  | [], used, w => (.ok ([], used), w)
  | param :: params, used, w =>
    match w.resolveArgument catalog run target explicit param used with
    | (.error e, w) => (.error e, w)
    | (.ok (injection, used), w) =>
      let w := w.emit [.resolvedArgument injection.parameter injection.source]
      match resolveParams target explicit params used w with
      | (.error e, w) => (.error e, w)
      | (.ok (injections, used), w) => (.ok (injection :: injections, used), w)

/-- The warning that explicit arguments are left over. -/
def unusedWarning (constructor : Declaration) (used : List Bool) : List Event :=
  let unused := used.count false
  if 0 < unused then [.unusedArguments constructor unused] else []

/-- Fill all parameters of a constructor. -/
def resolveArguments (target : TypeId) (constructor : Declaration) (explicit : Arguments)
    (w : World E) : Except Error (List Injection) × World E :=
  match w.resolveParams catalog run target explicit constructor.params explicit.noneUsed with
  | (.error e, w) => (.error e, w)
  | (.ok (injections, used), w) => (.ok injections, w.emit (unusedWarning constructor used))

/-- Call the function of a constructor with what its parameters received. -/
def invoke (target : TypeId) (constructor : Constructor E) (injections : List Injection)
    (w : World E) : Except Error Datum × World E :=
  let (built, surroundings) := constructor.build ⟨target, injections⟩ w.surroundings
  (built, { w with surroundings := surroundings })

/-- Build an instance with one of the constructors of its type, and record the construction. -/
def resolve (target : TypeId) (signature : Option Signature) (explicit : Arguments)
    (w : World E) : Except Error (Construction × Datum) × World E :=
  let candidates := w.fixture.visible (catalog.constructors target)
  let (choice, events) := w.fixture.select target candidates signature explicit
  let w := w.emit events
  match choice with
  | .error e => (.error e, w)
  | .ok (constructor, _) =>
    let w := w.emit [.selected constructor.toDeclaration]
    match w.resolveArguments catalog run target constructor.toDeclaration explicit with
    | (.error e, w) => (.error e, w)
    | (.ok injections, w) =>
      match w.invoke target constructor injections with
      | (.error e, w) => (.error e, w)
      | (.ok datum, w) =>
        let construction : Construction := ⟨constructor.toDeclaration, injections⟩
        (.ok (construction, datum), w.record (.of target) construction)

end World

end TestDoubles
