import TestDoubles.Fixture

/-!
# Selecting a constructor

Which of its visible constructors a type is built with:

1. with a signature, the single constructor with exactly these parameter types;
2. otherwise, of those whose parameters can all be filled, the one with the most parameters;
3. of several with equally many parameters, the one declared first.

Selecting creates nothing. That a parameter can be filled is judged on the fixture as it is, and each
explicit argument counts for a single parameter of a constructor.
-/

namespace TestDoubles

namespace Fixture

variable {E : Type}

/-- Whether a parameter could be filled without an explicit argument. -/
def canFill (f : Fixture) (param : Param) : Bool :=
  f.registry.contains param.key
    || f.hasFactory param.key.unnamed
    || match param.kind with
      | .capability | .concrete => true
      | .value => f.options.defaultValues

/-- The first of some parameters that could not be filled, given which explicit arguments have been
used for the parameters before them. -/
def firstUnfilled (f : Fixture) (explicit : Arguments) : List Param → List Bool → Option Param
  | [], _ => none
  | param :: params, used =>
    match explicit.find? param.key.type used with
    | some (index, _) => f.firstUnfilled explicit params (used.set index true)
    | none => if f.canFill param then f.firstUnfilled explicit params used else some param

/-- The first parameter of a constructor that could not be filled. -/
def obstacle? (f : Fixture) (explicit : Arguments) (constructor : Declaration) : Option Param :=
  f.firstUnfilled explicit constructor.params explicit.noneUsed

/-- Whether all parameters of a constructor could be filled. -/
def isResolvable (f : Fixture) (explicit : Arguments) (constructor : Declaration) : Bool :=
  (f.obstacle? explicit constructor).isNone

/-- The constructors that the options admit. -/
def visible (f : Fixture) (constructors : List (Constructor E)) : List (Constructor E) :=
  constructors.filter fun c => f.options.nonPublicConstructors || c.visibility = .isPublic

/-- The longer of two candidates; the former of two that are equally long. -/
def longer (best : Option (Constructor E × Nat)) (candidate : Constructor E × Nat) :
    Option (Constructor E × Nat) :=
  match best with
  | none => some candidate
  | some current =>
    if current.1.params.length < candidate.1.params.length then some candidate else some current

/-- The first of the candidates with the most parameters. -/
def longest (candidates : List (Constructor E × Nat)) : Option (Constructor E × Nat) :=
  candidates.foldl longer none

/-- Why none of the candidates is resolvable: one obstacle for each of them. -/
def blocked (f : Fixture) (explicit : Arguments) (candidates : List (Constructor E)) :
    List Obstacle :=
  if candidates.isEmpty then
    [.noConstructors]
  else
    candidates.filterMap fun c =>
      (f.obstacle? explicit c.toDeclaration).map (.unfilled c.toDeclaration)

/-- One event for each candidate that is passed over. -/
def passedOver (f : Fixture) (explicit : Arguments) (candidates : List (Constructor E)) :
    List Event :=
  candidates.filterMap fun c =>
    (f.obstacle? explicit c.toDeclaration).map fun param =>
      .notResolvable c.toDeclaration param.name

/-- The resolvable candidate with the most parameters, with its position among the candidates. -/
def selectGreedy (f : Fixture) (target : TypeId) (candidates : List (Constructor E))
    (explicit : Arguments) : Except Error (Constructor E × Nat) :=
  match longest (candidates.zipIdx.filter fun c => f.isResolvable explicit c.1.toDeclaration) with
  | some choice => .ok choice
  | none => .error (.noResolvableConstructor target (f.blocked explicit candidates))

/-- The only candidate with the given parameter types, with its position among the candidates. -/
def selectExact (target : TypeId) (candidates : List (Constructor E)) (signature : Signature) :
    Except Error (Constructor E × Nat) :=
  match candidates.zipIdx.filter fun c => signature.accepts c.1.params with
  | [choice] => .ok choice
  | [] => .error (.ambiguousConstructor target (.noneMatches signature))
  | several => .error (.ambiguousConstructor target (.severalMatch several.length signature))

/-- The constructor to use, and the events of looking for it. -/
def select (f : Fixture) (target : TypeId) (candidates : List (Constructor E))
    (signature : Option Signature) (explicit : Arguments) :
    Except Error (Constructor E × Nat) × List Event :=
  match signature with
  | some signature => (selectExact target candidates signature, [])
  | none => (f.selectGreedy target candidates explicit, f.passedOver explicit candidates)

end Fixture

end TestDoubles
