import TestDoubles.Arguments
import TestDoubles.Error

/-!
# Recipes

A recipe says how instances of one type come to be when the test has an opinion on it: a factory in
place of the constructors, with the lifetime of what it makes, and arguments for the constructors
when none are passed. A recipe is fixed once an instance has been built from it.
-/

namespace TestDoubles

/-- How long a factory's product is kept. -/
inductive Lifetime where
  /-- The factory runs for every request. -/
  | transient
  /-- The factory runs once, and its product is registered. -/
  | singleton
deriving DecidableEq, Inhabited

/-- The word for a lifetime. -/
def Lifetime.text : Lifetime → String
  | .transient => "Transient"
  | .singleton => "Singleton"

/-- The identity of a registered factory. What it does is known to its runner only. -/
structure FactoryId where
  /-- The position in order of registration. -/
  index : Nat
deriving DecidableEq, Inhabited

/-- A factory as a recipe holds it. -/
structure Factory where
  /-- Which factory to run. -/
  id : FactoryId
  /-- The type of value it makes. -/
  product : TypeId
deriving DecidableEq, Inhabited

/-- How to produce an instance of one type. -/
structure Recipe where
  /-- The type. -/
  target : Key
  /-- The factory to run in place of the constructors. -/
  factory : Option Factory := none
  /-- The type as which a kept product is read back and handed out again. -/
  share : Option TypeId := none
  /-- The arguments for the constructors when none are passed. -/
  arguments : Option Arguments := none
  /-- How long the factory's product is kept. -/
  lifetime : Lifetime := .transient
  /-- Whether an instance has been built, so that the recipe is fixed. -/
  frozen : Bool := false
deriving Inhabited

namespace Recipe

/-- Whether there is a factory. -/
def hasFactory (recipe : Recipe) : Bool :=
  recipe.factory.isSome

/-- A change, unless the recipe is fixed. -/
def change (recipe : Recipe) (f : Recipe → Recipe) : Except Error Recipe :=
  if recipe.frozen then
    .error (.invalidArgument (.frozenRecipe recipe.target))
  else
    .ok (f recipe)

theorem change_eq_ok_iff {recipe changed : Recipe} {f : Recipe → Recipe} :
    recipe.change f = .ok changed ↔ recipe.frozen = false ∧ changed = f recipe := by
  unfold change
  cases recipe.frozen <;> simp [eq_comm]

/-- Use a factory, whose products are not kept. -/
def setFactory (recipe : Recipe) (factory : Factory) : Except Error Recipe :=
  recipe.change fun r => { r with factory := some factory, lifetime := .transient, share := none }

/-- Keep the factory's product, and hand it out as a value of `type`. -/
def setSingleton (recipe : Recipe) (type : TypeId) : Recipe :=
  { recipe with lifetime := .singleton, share := some type }

/-- Use these arguments whenever none are passed. -/
def setArguments (recipe : Recipe) (arguments : Arguments) : Except Error Recipe :=
  recipe.change fun r => { r with arguments := some arguments }

end Recipe

end TestDoubles
