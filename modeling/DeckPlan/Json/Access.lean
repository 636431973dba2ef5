import DeckPlan.Fault

/-!
# Access to parts of values

Replies from the outside can have any form. These functions take a value apart where a certain
form is expected, and fail with the fault that tells which form was found.
-/

namespace DeckPlan.Json

/-- The fields that a value must have. -/
def fields (value : Json) : Except Fault Fields :=
  match value with
  | .obj fields => .ok fields
  | other => .error (.missingOperation other.shape "get")

/-- The field of an object; `default` if the object has no such field. -/
def field (value : Json) (key : String) (default : Json) : Except Fault Json :=
  value.fields.map fun fields => (Fields.get? fields key).getD default

/-- The field that an object must have. -/
def require (value : Json) (key : String) : Except Fault Json :=
  match value with
  | .obj fields =>
    match Fields.get? fields key with
    | some found => .ok found
    | none => .error (.missingField key)
  | other => .error (.noFields other.shape)

/-- The items of a value: those of an array, the characters of a string and the keys of an
object. -/
def items : Json → Except Fault (List Json)
  | .arr items => .ok items
  | .str text => .ok (text.toList.map fun c => .str (String.singleton c))
  | .obj fields => .ok (fields.map fun field => .str field.1)
  | other => .error (.noItems other.shape)

/-- The string that a value must be for an operation of strings. -/
def text (value : Json) (operation : String) : Except Fault String :=
  match value with
  | .str text => .ok text
  | other => .error (.missingOperation other.shape operation)

/-- The string that a value must be for an operation of strings, where a value that is not given
stands for the empty string. -/
def givenText (value : Json) (operation : String) : Except Fault String :=
  if value.isGiven then value.text operation else .ok ""

/-- The number that a value must be for a comparison with a whole number. -/
def comparable (value : Json) (comparison : String) : Except Fault Number :=
  match value.number? with
  | some number => .ok number
  | none => .error (.notComparable value.shape comparison)

/-- The first item of an array. -/
def first? : Json → Option Json
  | .arr items => items.head?
  | _ => none

/-- The field of an object, if the value is an object with such a field. -/
def field? (value : Json) (key : String) : Option Json :=
  match value with
  | .obj fields => Fields.get? fields key
  | _ => none

end DeckPlan.Json
