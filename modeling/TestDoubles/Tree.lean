/-!
# Value trees

Values cross the library without their types: a registered value, a constructor argument and a built
instance are all trees of plain data whose leaves may point at shared objects. A tree is generic in
how it names those objects: `Datum` names them by identity, `Shown` by a number given on first sight.
-/

namespace TestDoubles

/-- The identity of a shared object: when it was allocated. -/
structure Ref where
  /-- The position in order of allocation. -/
  index : Nat
deriving DecidableEq, Inhabited

/-- Plain data with leaves of type `ρ` for shared objects. -/
inductive Tree (ρ : Type) where
  | null
  | bool (value : Bool)
  | int (value : Int)
  | text (value : String)
  | list (items : List (Tree ρ))
  | record (fields : List (String × Tree ρ))
  | object (leaf : ρ)
deriving Inhabited

/-- A value that points at objects by identity. -/
abbrev Datum := Tree Ref

/-- A value that is ready to be written down: objects are numbered. -/
abbrev Shown := Tree Nat

namespace Tree

variable {ρ : Type}

/-- A natural number as a tree. -/
def nat (n : Nat) : Tree ρ :=
  .int n

/-- A list of texts as a tree. -/
def texts (items : List String) : Tree ρ :=
  .list (items.map .text)

/-- A tree, or `null` in place of one. -/
def orNull : Option (Tree ρ) → Tree ρ
  | some tree => tree
  | none => .null

/-- The field of that name of a record. -/
def field? : Tree ρ → String → Option (Tree ρ)
  | .record fields, name => (fields.find? (fun f => f.1 = name)).map Prod.snd
  | _, _ => none

end Tree

end TestDoubles
