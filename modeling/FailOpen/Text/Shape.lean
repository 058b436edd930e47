/-!
# The shape of shown values

How structured values are written on one line: records with named fields, lists, optional values
and constructors with one argument.
-/

namespace FailOpen
namespace Text
namespace Shape

/-- One field of a record. -/
def field (name value : String) : String :=
  name ++ ": " ++ value

/-- A record with at least one field. -/
def record (name : String) (fields : List (String × String)) : String :=
  name ++ " \x7b " ++ ", ".intercalate (fields.map fun f => field f.1 f.2) ++ " \x7d"

/-- A constructor applied to one argument. -/
def applied (name argument : String) : String :=
  name ++ "(" ++ argument ++ ")"

/-- A list of shown items. -/
def list (items : List String) : String :=
  "[" ++ ", ".intercalate items ++ "]"

/-- An optional value. -/
def optional : Option String → String
  | none => "None"
  | some shown => applied "Some" shown

/-- A truth value. -/
def flag (b : Bool) : String :=
  if b then "true" else "false"

/-- A number of any width. -/
def number (n : Nat) : String :=
  n.repr

/-- What is shown in place of a secret. -/
def redacted : String := "\"<redacted>\""

end Shape
end Text
end FailOpen
