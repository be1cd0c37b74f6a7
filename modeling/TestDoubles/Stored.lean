import TestDoubles.Key
import TestDoubles.Tree

/-!
# Stored values

Registered things, explicit arguments and recorded arguments are kept without their static type. A
stored value remembers what it was stored as, and reading it back as anything else fails: a view of
an object can only be read as the capability it views, a plain value only as its own type. The two
never mix, not even for a type that is both a capability and a value type.
-/

namespace TestDoubles

/-- A value whose type is known only when it is read. -/
inductive Stored where
  /-- A view of a shared object as `capability`. -/
  | object (capability : TypeId) (ref : Ref)
  /-- A plain value of `type`. -/
  | value (type : TypeId) (datum : Datum)
deriving Inhabited

namespace Stored

/-- The type a value was stored as. -/
def type : Stored → TypeId
  | .object capability _ => capability
  | .value type _ => type

/-- The object, if this is a view of one as `capability`. -/
def object? (capability : TypeId) : Stored → Option Ref
  | .object c ref => if c = capability then some ref else none
  | .value _ _ => none

/-- The value, if this is a plain value of `type`. -/
def value? (type : TypeId) : Stored → Option Datum
  | .object _ _ => none
  | .value t datum => if t = type then some datum else none

@[simp] theorem type_object (capability : TypeId) (ref : Ref) :
    (object capability ref).type = capability := rfl

@[simp] theorem type_value (t : TypeId) (datum : Datum) : (value t datum).type = t := rfl

@[simp] theorem object?_object_self (capability : TypeId) (ref : Ref) :
    (object capability ref).object? capability = some ref := by
  simp [object?]

@[simp] theorem value?_value_self (t : TypeId) (datum : Datum) :
    (value t datum).value? t = some datum := by
  simp [value?]

/-- A stored value reads as a plain value exactly when it is one of that type. -/
theorem value?_eq_some_iff {s : Stored} {t : TypeId} {datum : Datum} :
    s.value? t = some datum ↔ s = .value t datum := by
  cases s with
  | object c r => simp [value?]
  | value t' d =>
    by_cases h : t' = t <;> simp [value?, h]

end Stored

/-- A double without its static type: the type it was created as, and the object it is. -/
structure Handle where
  /-- The type of the double. -/
  mockType : TypeId
  /-- The double itself. -/
  ref : Ref
deriving DecidableEq, Inhabited

namespace Handle

/-- The double, if it is one of type `mockType`. -/
def as? (mockType : TypeId) (handle : Handle) : Option Ref :=
  if handle.mockType = mockType then some handle.ref else none

@[simp] theorem as?_self (mockType : TypeId) (ref : Ref) :
    (Handle.mk mockType ref).as? mockType = some ref := by
  simp [as?]

theorem as?_eq_some_iff {handle : Handle} {mockType : TypeId} {ref : Ref} :
    handle.as? mockType = some ref ↔ handle = ⟨mockType, ref⟩ := by
  obtain ⟨m, r⟩ := handle
  by_cases h : m = mockType <;> simp [as?, h]

end Handle

/-- What a test holds of a registered double: the double itself, to configure and inspect it, and
the object that constructors receive in its place. -/
structure Mock where
  /-- The key it was requested under; its type is the capability that `object` is a view as. -/
  key : Key
  /-- The double. -/
  handle : Ref
  /-- The view of it that is injected. -/
  object : Ref
deriving DecidableEq, Inhabited

namespace Mock

/-- The capability that the double is viewed as. -/
def capability (mock : Mock) : TypeId :=
  mock.key.type

/-- Whether two handles are of one double. -/
def sameAs (mock other : Mock) : Bool :=
  mock.handle = other.handle

/-- Whether `object` is the object of this double. -/
def isObject (mock : Mock) (object : Ref) : Bool :=
  mock.object = object

end Mock

end TestDoubles
