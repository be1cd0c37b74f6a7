import TestDoubles.Construction
import TestDoubles.Table

/-!
# The construction history

An append-only record of constructions, grouped by the type constructed, in the order in which those
types were first constructed.
-/

namespace TestDoubles

/-- All constructions so far, grouped by type. -/
structure History where
  /-- The constructions of each type, oldest first. -/
  records : Table Key (List Construction) := {}
deriving Inhabited

namespace History

/-- The history without constructions. -/
def empty : History := {}

/-- Append a construction to those of `key`. -/
def record (h : History) (key : Key) (construction : Construction) : History :=
  ⟨h.records.insert key ((h.records.find? key).getD [] ++ [construction])⟩

/-- The number of distinct types constructed. -/
def size (h : History) : Nat :=
  h.records.size

/-- All constructions, type by type. -/
def constructions (h : History) : List Construction :=
  h.records.entries.flatMap Prod.snd

/-- The total number of constructions. -/
def constructionCount (h : History) : Nat :=
  h.constructions.length

/-- Whether something was constructed under the key. -/
def contains (h : History) (key : Key) : Bool :=
  h.records.contains key

/-- The constructions under a key. -/
def find? (h : History) (key : Key) : Option (List Construction) :=
  h.records.find? key

/-- The type at a position in the order of first construction, with its constructions. -/
def at? (h : History) (index : Nat) : Option (Key × List Construction) :=
  h.records.entries[index]?

end History

end TestDoubles
