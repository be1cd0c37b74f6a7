import TestDoubles.Text.Quoted

/-!
# Dumps

A dump is the full text of a piece of state, for a reader who wants to see all of it on one line:
names of types, names of fields, quoted texts, lists and tables. Parts that have no readable form are
cut short.
-/

namespace TestDoubles

/-- The shape of a dump. -/
inductive Dump where
  /-- A word as it is. -/
  | word (text : String)
  /-- A quoted text. -/
  | quoted (text : String)
  /-- A named record of fields; `cut` says that some fields are left out. -/
  | record (name : String) (fields : List (String × Dump)) (cut : Bool)
  /-- A name applied to items; without a name, the items alone. -/
  | applied (name : String) (items : List Dump)
  /-- A list. -/
  | list (items : List Dump)
  /-- A table from dumps to dumps. -/
  | table (entries : List (Dump × Dump))
deriving Inhabited

namespace Dump

mutual

/-- A dump on one line. -/
def text : Dump → String
  | .word text => text
  | .quoted text => Text.quoted text
  | .record name [] false => name
  | .record name [] true => name ++ " \x7b .. \x7d"
  | .record name (field :: fields) cut =>
    name ++ " \x7b " ++ ", ".intercalate (fieldTexts (field :: fields))
      ++ (if cut then ", .. \x7d" else " \x7d")
  | .applied name items => name ++ "(" ++ ", ".intercalate (texts items) ++ ")"
  | .list items => "[" ++ ", ".intercalate (texts items) ++ "]"
  | .table entries => "\x7b" ++ ", ".intercalate (entryTexts entries) ++ "\x7d"

/-- Each dump of a list on one line. -/
def texts : List Dump → List String
  | [] => []
  | item :: items => item.text :: texts items

/-- Each field of a record, after its name. -/
def fieldTexts : List (String × Dump) → List String
  | [] => []
  | (name, value) :: fields => (name ++ ": " ++ value.text) :: fieldTexts fields

/-- Each entry of a table, after its key. -/
def entryTexts : List (Dump × Dump) → List String
  | [] => []
  | (key, value) :: entries => (key.text ++ ": " ++ value.text) :: entryTexts entries

end

/-- A truth value. -/
def bool (b : Bool) : Dump :=
  .word (if b then "true" else "false")

/-- A number in decimal. -/
def nat (n : Nat) : Dump :=
  .word (toString n)

/-- Something that may be missing. -/
def option : Option Dump → Dump
  | some dump => .applied "Some" [dump]
  | none => .word "None"

/-- A stored value, of which nothing can be shown. -/
def stored : Dump :=
  .record "Any" [] true

end Dump

end TestDoubles
