import TestDoubles.Declaration
import TestDoubles.Stored

/-!
# Explicit arguments

A test may pass arguments of its own. Each of them fills the first parameter of its type that is
still unfilled; which ones have been used is kept in a mask of the same length.
-/

namespace TestDoubles

/-- Arguments passed by a test, in order. -/
structure Arguments where
  /-- The arguments; each carries its type. -/
  values : List Stored := []
deriving Inhabited

namespace Arguments

/-- The number of arguments. -/
def length (args : Arguments) : Nat :=
  args.values.length

/-- The types of the arguments, in order. -/
def signature (args : Arguments) : Signature :=
  .ofTypes (args.values.map Stored.type)

/-- The mask in which no argument has been used. -/
def noneUsed (args : Arguments) : List Bool :=
  List.replicate args.length false

/-- The first of `values` that is of `type` and not marked in `used`, with its position. -/
def firstUnused (type : TypeId) : List Stored → List Bool → Option (Nat × Stored)
  | [], _ => none
  | value :: values, used =>
    if used.headD false = false ∧ value.type = type then
      some (0, value)
    else
      (firstUnused type values used.tail).map fun (index, found) => (index + 1, found)

/-- The first argument of `type` that has not been used, with its position. -/
def find? (args : Arguments) (type : TypeId) (used : List Bool) : Option (Nat × Stored) :=
  firstUnused type args.values used

end Arguments

end TestDoubles
