import TestDoubles.Dump.Basic
import TestDoubles.Error

/-!
# Dumps of errors

The kind of an error with its parts; reasons appear in words. Two errors are the same for a test when
their dumps are.
-/

namespace TestDoubles.Error

/-- The dump of an error. -/
def dump (e : Error) : Dump :=
  match e with
  | .invalidArgument reason => .applied e.kind [.quoted reason.text]
  | .ambiguousConstructor target reason =>
    .record e.kind
      [("type_name", .quoted target.path), ("reason", .quoted reason.text)] false
  | .noResolvableConstructor target blocked =>
    .record e.kind
      [ ("type_name", .quoted target.path)
      , ("blocked", .list (blocked.map fun obstacle => .quoted obstacle.text)) ] false
  | .unresolvableParameter target parameter key =>
    .record e.kind
      [ ("type_name", .quoted target.path), ("parameter", .quoted parameter)
      , ("parameter_type", .quoted key.text) ] false
  | .notFound key => .applied e.kind [.quoted key.text]
  | .circularDependency chain => .applied e.kind [.quoted chain.text]
  | .constructionFailed target reason =>
    .record e.kind
      [("type_name", .quoted target.path), ("reason", .quoted reason.text)] false

/-- Whether two errors say the same. -/
def sameAs (e other : Error) : Bool :=
  e.dump.text = other.dump.text

end TestDoubles.Error
