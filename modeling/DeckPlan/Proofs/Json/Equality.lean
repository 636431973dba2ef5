import DeckPlan.Json.Basic

/-!
# Equality of values

Whether two values are equal is decidable, by comparing them part by part (`Json.same`). Fields are
compared with their order, so values are equal that are written in the same way.
-/

namespace DeckPlan.Json

mutual

/-- Whether two values are equal. -/
def same : Json → Json → Bool
  | .null, .null => true
  | .bool first, .bool second => first = second
  | .int first, .int second => first = second
  | .float first, .float second => first = second
  | .str first, .str second => first = second
  | .arr first, .arr second => sameItems first second
  | .obj first, .obj second => sameFields first second
  | _, _ => false

/-- Whether two lists have equal items. -/
def sameItems : List Json → List Json → Bool
  | [], [] => true
  | item :: items, other :: others => same item other && sameItems items others
  | _, _ => false

/-- Whether two lists have equal fields. -/
def sameFields : List (String × Json) → List (String × Json) → Bool
  | [], [] => true
  | (key, value) :: fields, (key', value') :: fields' =>
    key = key' && (same value value' && sameFields fields fields')
  | _, _ => false

end

mutual

/-- The test for equal values finds exactly the equal ones. -/
theorem same_iff : ∀ first second : Json, same first second = true ↔ first = second
  | .null, second => by cases second <;> simp [same]
  | .bool value, second => by cases second <;> simp [same]
  | .int value, second => by cases second <;> simp [same]
  | .float value, second => by cases second <;> simp [same]
  | .str text, second => by cases second <;> simp [same]
  | .arr items, second => by
    cases second with
    | arr others => simp [same, sameItems_iff items others]
    | _ => simp [same]
  | .obj fields, second => by
    cases second with
    | obj others => simp [same, sameFields_iff fields others]
    | _ => simp [same]

/-- Lists are the same if their items are. -/
theorem sameItems_iff : ∀ first second : List Json, sameItems first second = true ↔ first = second
  | [], second => by cases second <;> simp [sameItems]
  | item :: items, second => by
    cases second with
    | nil => simp [sameItems]
    | cons other others => simp [sameItems, same_iff item other, sameItems_iff items others]

/-- Fields are the same if their keys and their values are, in order. -/
theorem sameFields_iff :
    ∀ first second : List (String × Json), sameFields first second = true ↔ first = second
  | [], second => by cases second <;> simp [sameFields]
  | (key, value) :: fields, second => by
    cases second with
    | nil => simp [sameFields]
    | cons other others =>
      simp [sameFields, same_iff value other.2, sameFields_iff fields others, Prod.ext_iff,
        and_assoc]

end

instance : DecidableEq Json :=
  fun first second => decidable_of_iff _ (same_iff first second)

end DeckPlan.Json
