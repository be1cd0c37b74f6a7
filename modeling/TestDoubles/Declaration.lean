import TestDoubles.Key

/-!
# Constructor declarations

A type under test declares its constructors: a name, a visibility and the parameters in order. A
parameter says under which key it is looked up, and by its kind what stands in when nothing is
registered for it. A signature is an ordered list of types that pins one constructor down.
-/

namespace TestDoubles

/-- Who may see a constructor. -/
inductive Visibility where
  | isPublic
  | nonPublic
deriving DecidableEq, Inhabited

/-- The word for a visibility. -/
def Visibility.text : Visibility → String
  | .isPublic => "Public"
  | .nonPublic => "NonPublic"

/-- How a parameter is filled when nothing is registered for it. -/
inductive ParamKind where
  /-- A dependency behind an interface: a double is created for it. -/
  | capability
  /-- A plain value: its type's default, if the options allow that. -/
  | value
  /-- A concrete dependency: always its type's default. -/
  | concrete
deriving DecidableEq, Inhabited

/-- The word for a kind. -/
def ParamKind.text : ParamKind → String
  | .capability => "Capability"
  | .value => "Value"
  | .concrete => "Concrete"

/-- One constructor parameter. -/
structure Param where
  /-- The name of the parameter. -/
  name : String
  /-- What is looked up for it. -/
  key : Key
  /-- What stands in when the look-up finds nothing. -/
  kind : ParamKind
deriving DecidableEq, Inhabited

namespace Param

/-- A parameter for a capability, or for the double of it with the given name. -/
def capability (name : String) (type : TypeId) (mockName : Option String := none) : Param :=
  ⟨name, ⟨type, mockName⟩, .capability⟩

/-- A parameter for a plain value. -/
def value (name : String) (type : TypeId) : Param :=
  ⟨name, .of type, .value⟩

/-- A parameter for a concrete dependency. -/
def concrete (name : String) (type : TypeId) : Param :=
  ⟨name, .of type, .concrete⟩

/-- A parameter reads as its name and its key. -/
def text (param : Param) : String :=
  param.name ++ ": " ++ param.key.text

end Param

/-- Ordered parameter types that pin one constructor down. -/
structure Signature where
  /-- The types, each as a key. -/
  types : List Key := []
deriving DecidableEq, Inhabited

namespace Signature

/-- The signature of a list of types. -/
def ofTypes (types : List TypeId) : Signature :=
  ⟨types.map Key.of⟩

/-- The number of types. -/
def length (s : Signature) : Nat :=
  s.types.length

/-- Exact match on parameter types, in order and count. Names of doubles are ignored. -/
def accepts (s : Signature) (params : List Param) : Bool :=
  s.types.length = params.length
    && (s.types.zip params).all fun (expected, param) => expected.type = param.key.type

/-- A signature reads as its types in parentheses. -/
def text (s : Signature) : String :=
  "(" ++ ", ".intercalate (s.types.map Key.text) ++ ")"

end Signature

/-- The description of one constructor. -/
structure Declaration where
  /-- The name of the constructor. -/
  name : String
  /-- Who may see it. -/
  visibility : Visibility := .isPublic
  /-- Its parameters, in order. -/
  params : List Param := []
deriving DecidableEq, Inhabited

namespace Declaration

/-- The types of the parameters, without names of doubles. -/
def signature (d : Declaration) : Signature :=
  ⟨d.params.map fun p => p.key.unnamed⟩

/-- A constructor reads as its name and its parameters. -/
def text (d : Declaration) : String :=
  d.name ++ "(" ++ ", ".intercalate (d.params.map Param.text) ++ ")"

end Declaration

end TestDoubles
