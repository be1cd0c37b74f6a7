import TestDoubles.Tree

/-!
# Options

The two switches that steer how constructors are resolved, and their reading from plain data.
-/

namespace TestDoubles

/-- How constructors are resolved. -/
structure Options where
  /-- Fill value parameters that have nothing registered with the default of their type. -/
  defaultValues : Bool := false
  /-- Consider constructors that are not public. -/
  nonPublicConstructors : Bool := true
deriving DecidableEq, Inhabited

namespace Options

/-- A switch as it stands in plain data: absent means its default, and only truth values count. -/
def readSwitch {ρ : Type} (byDefault : Bool) : Option (Tree ρ) → Option Bool
  | none => some byDefault
  | some (.bool b) => some b
  | some _ => none

/-- Both switches, each absent or given. -/
def ofSwitches? {ρ : Type} (defaultValues nonPublicConstructors : Option (Tree ρ)) :
    Option Options := do
  let standard : Options := {}
  let d ← readSwitch standard.defaultValues defaultValues
  let n ← readSwitch standard.nonPublicConstructors nonPublicConstructors
  return ⟨d, n⟩

/-- Options from plain data: a record, whose other fields do not matter, or a list of at most two
switches by position. Nothing else is read as options. -/
def ofTree? {ρ : Type} : Tree ρ → Option Options
  | .record fields =>
    let tree := Tree.record fields
    ofSwitches? (tree.field? "defaultValues") (tree.field? "nonPublicConstructors")
  | .list items => if items.length ≤ 2 then ofSwitches? items[0]? items[1]? else none
  | _ => none

/-- Options as plain data. -/
def toTree {ρ : Type} (o : Options) : Tree ρ :=
  .record
    [("defaultValues", .bool o.defaultValues), ("nonPublicConstructors", .bool o.nonPublicConstructors)]

end Options

end TestDoubles
