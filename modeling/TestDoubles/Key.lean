/-!
# Keys

What a test asks for is named by a key: a type, and for a capability optionally the name of one of
several doubles of it. Types are identified by their path, which is also how they appear in texts.
-/

namespace TestDoubles

/-- The identity of a type: its full path. -/
structure TypeId where
  /-- The path, as it is written in keys and messages. -/
  path : String
deriving DecidableEq, Inhabited

/-- A requested type, optionally scoped by the name of a double. -/
structure Key where
  /-- The requested type. -/
  type : TypeId
  /-- The name that tells apart several doubles of one capability. -/
  name : Option String := none
deriving DecidableEq, Inhabited

namespace Key

/-- The key of a type without a name. -/
def of (type : TypeId) : Key :=
  { type := type }

/-- The same type without its name. -/
def unnamed (key : Key) : Key :=
  of key.type

/-- A key reads as its path, followed by its name in brackets if it has one. -/
def text (key : Key) : String :=
  match key.name with
  | some name => key.type.path ++ "[" ++ name ++ "]"
  | none => key.type.path

@[simp] theorem type_of (type : TypeId) : (of type).type = type := rfl

@[simp] theorem name_of (type : TypeId) : (of type).name = none := rfl

@[simp] theorem unnamed_of (type : TypeId) : (of type).unnamed = of type := rfl

@[simp] theorem type_unnamed (key : Key) : key.unnamed.type = key.type := rfl

@[simp] theorem text_of (type : TypeId) : (of type).text = type.path := rfl

/-- Keys without a name are as different as their types. -/
theorem of_inj {a b : TypeId} : of a = of b ↔ a = b := by
  simp [of]

/-- Of keys listed once each, one more comes last, unless it is among them. -/
theorem eraseDups_concat (keys : List Key) (key : Key) :
    (keys ++ [key]).eraseDups =
      if key ∈ keys.eraseDups then keys.eraseDups else keys.eraseDups ++ [key] := by
  rw [List.eraseDups_append]
  by_cases hkey : key ∈ keys <;> simp [List.removeAll, List.mem_eraseDups, List.eraseDups_cons, hkey]

end Key

end TestDoubles
