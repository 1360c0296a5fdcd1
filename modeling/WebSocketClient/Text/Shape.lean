/-!
# Shapes of descriptive texts

Values are described in three shapes: a name with one value in parentheses, a name with named
fields in braces, and the same with an ellipsis for the fields that are not shown.
-/

namespace WebSocketClient.Text

set_option autoImplicit false

/-- A name with one value: `Name(value)`. -/
def wrapped (name value : String) : String :=
  name ++ "(" ++ value ++ ")"

/-- The text of one named field. -/
def field (name value : String) : String :=
  name ++ ": " ++ value

/-- A name with its fields in braces. -/
def record (name : String) (fields : List String) : String :=
  name ++ " \x7b " ++ ", ".intercalate fields ++ " \x7d"

/-- A name with some of its fields in braces, and an ellipsis for the others. -/
def openRecord (name : String) (fields : List String) : String :=
  record name (fields ++ [".."])

/-- An optional value: `None` or `Some(value)`. -/
def optional : Option String → String
  | none => "None"
  | some value => wrapped "Some" value

/-- The words for the two truth values. -/
def truth (value : Bool) : String :=
  if value then "true" else "false"

end WebSocketClient.Text
