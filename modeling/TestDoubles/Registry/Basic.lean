import TestDoubles.Error
import TestDoubles.Stored
import TestDoubles.Table

/-!
# The registry

A registry holds what a test has provided: doubles, real implementations and plain values, in the
order of registration. An entry answers for its own key, and a double may in addition answer for
other capabilities that were combined into it, its aliases. An index leads from a key to the position
of the entry with exactly that key; aliases are searched only when the index has nothing.
-/

namespace TestDoubles

/-- Another capability that the double of an entry serves. -/
structure Alias where
  /-- The key of the other capability. -/
  key : Key
  /-- The double, viewed as that capability. -/
  object : Stored
deriving Inhabited

/-- One registered double, real implementation or value. -/
structure Entry where
  /-- The key it was registered under. -/
  key : Key
  /-- How it came to exist. -/
  origin : Origin
  /-- What is injected for its key. -/
  object : Stored
  /-- The double itself, if it is one. -/
  handle : Option Handle := none
  /-- The capabilities combined into it, in the order of combining. -/
  aliases : List Alias := []
deriving Inhabited

namespace Entry

/-- Whether the entry is a double. -/
def isMock (entry : Entry) : Bool :=
  entry.handle.isSome

/-- The keys of the aliases, in the order of combining. -/
def aliasKeys (entry : Entry) : List Key :=
  entry.aliases.map Alias.key

/-- Whether an alias of the entry has this key. -/
def hasAlias (entry : Entry) (key : Key) : Bool :=
  entry.aliases.any fun a => a.key = key

/-- What the entry provides for a key: its own object, or that of the first alias with the key. -/
def provides? (entry : Entry) (key : Key) : Option Stored :=
  if entry.key = key then
    some entry.object
  else
    (entry.aliases.find? fun a => a.key = key).map Alias.object

/-- A new entry for a double, under the key it was requested with. -/
def ofMock (origin : Origin) (mockType : TypeId) (mock : Mock) : Entry :=
  { key := mock.key
    origin := origin
    object := .object mock.capability mock.object
    handle := some ⟨mockType, mock.handle⟩ }

/-- A new entry for a real implementation of a capability. -/
def ofReal (capability : TypeId) (ref : Ref) : Entry :=
  { key := .of capability, origin := .real, object := .object capability ref }

/-- A new entry for a stored value. -/
def ofValue (key : Key) (value : Stored) : Entry :=
  { key := key, origin := .value, object := value }

end Entry

/-- What a test has provided so far. -/
structure Registry where
  /-- The entries, in the order of registration. -/
  entries : List Entry := []
  /-- The position of the entry with a given own key. -/
  exact : Table Key Nat := {}
deriving Inhabited

namespace Registry

/-- The registry without entries. -/
def empty : Registry := {}

/-- The number of entries. -/
def size (r : Registry) : Nat :=
  r.entries.length

/-- The position of the entry that answers for a key: the one with that own key, otherwise the first
one with such an alias. -/
def position? (r : Registry) (key : Key) : Option Nat :=
  match r.exact.find? key with
  | some index => some index
  | none => r.entries.findIdx? fun entry => entry.hasAlias key

/-- The entry that answers for a key. -/
def entry? (r : Registry) (key : Key) : Option Entry :=
  (r.position? key).bind fun index => r.entries[index]?

/-- Whether an entry answers for the key. -/
def contains (r : Registry) (key : Key) : Bool :=
  (r.position? key).isSome

/-- The position of the entry that answers for a key. A missing one is an error only if `required`. -/
def indexOf (r : Registry) (key : Key) (required : Bool) : Except Error (Option Nat) :=
  match r.position? key with
  | some index => .ok (some index)
  | none => if required then .error (.notFound key) else .ok none

/-- What is registered for a key, and how it came to exist. -/
def lookup (r : Registry) (key : Key) : Option (Stored × Origin) :=
  (r.entry? key).bind fun entry => (entry.provides? key).map fun object => (object, entry.origin)

/-- The object registered for a capability, or for its double of the given name. -/
def object? (r : Registry) (capability : TypeId) (name : Option String := none) : Option Ref :=
  (r.lookup ⟨capability, name⟩).bind fun found => found.1.object? capability

/-- The value registered for a type. -/
def value? (r : Registry) (type : TypeId) : Option Datum :=
  (r.lookup (.of type)).bind fun found => found.1.value? type

end Registry

end TestDoubles
