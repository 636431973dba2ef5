import DeckPlan.Number.Basic

/-!
# JSON values

Values as they come in replies and go out in requests. Whole numbers are exact and apart from
floating-point numbers. The fields of an object keep their order:

* `Fields.get?` finds the value of a key,
* `Fields.put` replaces the value of a key in its place, or adds the field at the end,
* `Fields.erase` removes a key and leaves the order of the others,

with one lemma for each of the two writers and the reader (`get?_put_self`, `get?_put_of_ne`,
`get?_erase_self`, `get?_erase_of_ne`).
-/

namespace DeckPlan

/-- A JSON value. -/
inductive Json where
  | null
  | bool (value : Bool)
  | int (value : Int)
  | float (value : Binary64)
  | str (value : String)
  | arr (items : List Json)
  | obj (fields : List (String × Json))
  deriving Inhabited

/-- The fields of an object, in order. -/
abbrev Fields := List (String × Json)

namespace Fields

/-- The value of a key. -/
def get? (fields : Fields) (key : String) : Option Json :=
  fields.lookup key

/-- Gives a key a value, in the place of its earlier value if it has one. -/
def put (key : String) (value : Json) : Fields → Fields
  | [] => [(key, value)]
  | field :: rest =>
    if field.1 = key then (key, value) :: rest else field :: put key value rest

/-- Removes a key with its value. -/
def erase (key : String) (fields : Fields) : Fields :=
  fields.filter fun field => field.1 != key

/-- The object with the given fields: of a repeated key the last value, at the first place. -/
def ofMembers (members : List (String × Json)) : Fields :=
  members.foldl (fun fields member => put member.1 member.2 fields) []

@[simp]
theorem get?_nil (key : String) : get? [] key = none := rfl

/-- The first field with a key counts. -/
theorem get?_cons (field : String × Json) (rest : Fields) (key : String) :
    get? (field :: rest) key = if field.1 = key then some field.2 else get? rest key := by
  obtain ⟨k, v⟩ := field
  by_cases h : k = key
  · subst h; simp [get?]
  · have h' : (key == k) = false := by simpa using fun e => h e.symm
    simp [get?, List.lookup_cons, h, h']

/-- A field that is set is found. -/
@[simp]
theorem get?_put_self (key : String) (value : Json) (fields : Fields) :
    get? (put key value fields) key = some value := by
  induction fields with
  | nil => simp [put, get?_cons]
  | cons field rest ih => by_cases h : field.1 = key <;> simp [put, get?_cons, h, ih]

/-- Setting a field changes no other one. -/
theorem get?_put_of_ne {key other : String} (h : other ≠ key) (value : Json) (fields : Fields) :
    get? (put key value fields) other = get? fields other := by
  induction fields with
  | nil => simp [put, get?_cons, h.symm]
  | cons field rest ih =>
    by_cases hk : field.1 = key
    · simp [put, get?_cons, hk, h.symm]
    · simp [put, get?_cons, hk, ih]

theorem erase_cons (key : String) (field : String × Json) (rest : Fields) :
    erase key (field :: rest) =
      if field.1 = key then erase key rest else field :: erase key rest := by
  by_cases h : field.1 = key <;> simp [erase, h]

/-- A field that is removed is not found. -/
@[simp]
theorem get?_erase_self (key : String) (fields : Fields) : get? (erase key fields) key = none := by
  induction fields with
  | nil => rfl
  | cons field rest ih => by_cases h : field.1 = key <;> simp [erase_cons, get?_cons, h, ih]

/-- Removing a field changes no other one. -/
theorem get?_erase_of_ne {key other : String} (h : other ≠ key) (fields : Fields) :
    get? (erase key fields) other = get? fields other := by
  induction fields with
  | nil => rfl
  | cons field rest ih =>
    by_cases hk : field.1 = key
    · simp [erase_cons, get?_cons, hk, ih, h.symm]
    · simp [erase_cons, get?_cons, hk, ih]

end Fields

namespace Json

/-- What sort of value a JSON value is. -/
inductive Shape where
  | null | bool | int | float | str | arr | obj
  deriving DecidableEq, Repr

/-- The sort of a value. -/
def shape : Json → Shape
  | .null => .null
  | .bool _ => .bool
  | .int _ => .int
  | .float _ => .float
  | .str _ => .str
  | .arr _ => .arr
  | .obj _ => .obj

/-- Whether a value counts as given: `null`, `false`, zero and what is empty do not. -/
def isGiven : Json → Bool
  | .null => false
  | .bool value => value
  | .int value => value != 0
  | .float value => !value.isZero
  | .str value => !value.isEmpty
  | .arr items => !items.isEmpty
  | .obj fields => !fields.isEmpty

/-- A field that counts as given. -/
def given? (fields : Fields) (key : String) : Option Json :=
  (Fields.get? fields key).filter isGiven

/-- The number that a value is. -/
def number? : Json → Option Number
  | .int value => some (.int value)
  | .float value => some (.float value)
  | _ => none

/-- A number as a value. -/
def ofNumber : Number → Json
  | .int value => .int value
  | .float value => .float value

/-- A number is read back from its value. -/
@[simp]
theorem number?_ofNumber (n : Number) : number? (ofNumber n) = some n := by
  cases n <;> rfl

end Json

end DeckPlan
