import DeckPlan.Json.Access
import Mathlib.Data.List.Forall2

/-!
# When access succeeds

Each way to take a value apart succeeds on values of one form only (`field_eq_ok`,
`require_eq_ok`, `text_eq_ok`), and what it yields is what the total readers `field?`, `textOf?` and
`entries` find.
`HasTexts` says of an object that it has nothing but strings under some keys, which can then be read
(`HasTexts.field_eq`).
`forall₂_of_mapM` and `mapM_eq_ok_map` speak of all items of a list at once. A key has a value
exactly if it is there (`exists_get?_of_mem`, `mem_of_get?`).
-/

namespace DeckPlan

/-- A computation that goes on succeeds if both of its parts do. -/
theorem bind_eq_ok {α β : Type} {first : Except Fault α} {next : α → Except Fault β}
    {result : β} :
    first >>= next = .ok result ↔ ∃ value, first = .ok value ∧ next value = .ok result := by
  cases first with
  | error fault =>
    constructor
    · intro h
      cases h
    · rintro ⟨value, h, -⟩
      cases h
  | ok value =>
    constructor
    · intro h
      exact ⟨value, rfl, h⟩
    · rintro ⟨value', h, hnext⟩
      cases h
      exact hnext

/-- A text is read as it is, be it given or empty. -/
@[simp]
theorem givenText_str (text operation : String) :
    (Json.str text).givenText operation = .ok text := by
  by_cases hempty : text = ""
  · rw [hempty]
    rfl
  · have hgiven : (Json.str text).isGiven = true := by simpa [Json.isGiven] using hempty
    exact if_pos hgiven

/-- If a computation succeeds on a whole list, it succeeds on every item. -/
theorem forall₂_of_mapM {α β : Type} {f : α → Except Fault β} {items : List α} {results : List β}
    (h : items.mapM f = .ok results) :
    List.Forall₂ (fun item result => f item = .ok result) items results := by
  induction items generalizing results with
  | nil =>
    rw [List.mapM_nil] at h
    cases h
    exact .nil
  | cons item items ih =>
    rw [List.mapM_cons] at h
    obtain ⟨first, hfirst, h⟩ := bind_eq_ok.1 h
    obtain ⟨later, hlater, h⟩ := bind_eq_ok.1 h
    cases h
    exact .cons hfirst (ih hlater)

/-- If a computation yields the value of `g` wherever it succeeds, then on a whole list it yields
the values of `g`. -/
theorem eq_map_of_mapM {α β : Type} {f : α → Except Fault β} {g : α → β} {items : List α}
    {results : List β} (h : items.mapM f = .ok results)
    (hg : ∀ item result, f item = .ok result → result = g item) : results = items.map g := by
  have hall := forall₂_of_mapM h
  clear h
  induction hall with
  | nil => rfl
  | cons hfirst _ ih => rw [List.map_cons, hg _ _ hfirst, ih]

/-- If all items of a list are read, each of them is. -/
theorem exists_of_mem_mapM {α β : Type} {f : α → Except Fault β} {item : α} {items : List α}
    {results : List β} (h : items.mapM f = .ok results) (hmem : item ∈ items) :
    ∃ result, f item = .ok result := by
  have hall := forall₂_of_mapM h
  clear h
  induction hall with
  | nil => cases hmem
  | cons hfirst _ ih =>
    rcases List.mem_cons.1 hmem with rfl | hmem
    · exact ⟨_, hfirst⟩
    · exact ih hmem

/-- If a computation succeeds on every item, it succeeds on the whole list. -/
theorem mapM_eq_ok_map {α β : Type} {f : α → Except Fault β} {g : α → β} {items : List α}
    (h : ∀ item ∈ items, f item = .ok (g item)) : items.mapM f = .ok (items.map g) := by
  induction items with
  | nil => rfl
  | cons item items ih =>
    obtain ⟨hfirst, hlater⟩ := List.forall_mem_cons.1 h
    rw [List.mapM_cons, hfirst, ih hlater]
    rfl

namespace Fields

variable {fields : Fields} {key : String}

/-- A field that is found is there. -/
theorem mem_of_get? {value : Json} (h : get? fields key = some value) : (key, value) ∈ fields := by
  induction fields with
  | nil => cases h
  | cons field rest ih =>
    rw [get?_cons] at h
    split at h
    · next hkey =>
      cases h
      exact hkey ▸ List.mem_cons_self
    · exact List.mem_cons_of_mem _ (ih h)

/-- A field with the key is found. -/
theorem exists_get?_of_mem (h : key ∈ fields.map Prod.fst) :
    ∃ value, get? fields key = some value := by
  induction fields with
  | nil => cases h
  | cons field rest ih =>
    rw [get?_cons]
    split
    · exact ⟨_, rfl⟩
    · next hkey =>
      rcases List.mem_cons.1 h with heq | hmem
      · exact absurd heq.symm hkey
      · exact ih hmem

end Fields

namespace Json

variable {value found : Json} {key operation : String}

/-- The string in a field, if the value is an object with a string there. -/
def textOf? (value : Json) (key : String) : Option String :=
  match value.field? key with
  | some (.str text) => some text
  | _ => none

/-- The text in a field is the text of its value. -/
theorem textOf?_eq_some {text : String} :
    value.textOf? key = some text ↔ value.field? key = some (.str text) := by
  rw [textOf?]
  split
  · next found hfound => simp [hfound]
  · next hno =>
    constructor
    · intro h
      cases h
    · intro h
      exact absurd h (hno text)

/-- Fields are read of objects only, and a missing one is the default. -/
theorem field_eq_ok {default : Json} :
    value.field key default = .ok found ↔
      ∃ fields, value = .obj fields ∧ found = (value.field? key).getD default := by
  cases value <;> simp [field, Json.fields, field?, Except.map, eq_comm]

/-- A field that is read as a string, and as an empty one if it is missing. -/
theorem eq_textOf?_getD {text : String} (h : value.field key (.str "") = .ok (.str text)) :
    text = (value.textOf? key).getD "" := by
  obtain ⟨-, -, hfound⟩ := field_eq_ok.1 h
  rw [textOf?]
  cases hfield : value.field? key with
  | none => simpa [hfield] using hfound
  | some field =>
    rw [hfield, Option.getD_some] at hfound
    rw [← hfound]
    rfl

/-- The entries of the array in a field; empty entries are skipped. -/
def entries (value : Json) (key : String) : List Json :=
  match value.field? key with
  | some (.arr items) => items.filter isGiven
  | _ => []

/-- A string has no fields, so the fields of strings can be read only if all strings are skipped. -/
theorem eq_nil_of_strings {default : Json} {items parts : List Json} (texts : List String)
    (hitems : texts.map str = items)
    (h : (items.filter isGiven).mapM (fun entry => entry.field key default) = .ok parts) :
    parts = [] := by
  cases hgiven : items.filter isGiven with
  | nil =>
    rw [hgiven, List.mapM_nil] at h
    cases h
    rfl
  | cons entry later =>
    rw [hgiven, List.mapM_cons] at h
    obtain ⟨first, hfirst, -⟩ := bind_eq_ok.1 h
    obtain ⟨fields, rfl, -⟩ := field_eq_ok.1 hfirst
    have hmem : obj fields ∈ items := List.mem_of_mem_filter (hgiven ▸ List.mem_cons_self)
    rw [← hitems] at hmem
    obtain ⟨text, -, htext⟩ := List.mem_map.1 hmem
    cases htext

/-- The parts of the entries of a field, where they can be read at all. -/
theorem eq_map_entries {part : String} {default : Json} {items parts : List Json}
    (hfound : value.field key (.arr []) = .ok found) (hitems : found.items = .ok items)
    (hparts : (items.filter isGiven).mapM (fun entry => entry.field part default) = .ok parts) :
    parts = (value.entries key).map fun entry => (entry.field? part).getD default := by
  have hread : ∀ {entries : List Json},
      entries.mapM (fun entry => entry.field part default) = .ok parts →
        parts = entries.map fun entry => (entry.field? part).getD default := by
    intro entries hentries
    refine eq_map_of_mapM hentries fun entry result hresult => ?_
    obtain ⟨-, -, hresult⟩ := field_eq_ok.1 hresult
    exact hresult
  obtain ⟨-, -, rfl⟩ := field_eq_ok.1 hfound
  rw [entries]
  cases hfield : value.field? key with
  | none =>
    rw [hfield] at hitems
    cases hitems
    exact hread hparts
  | some found =>
    rw [hfield, Option.getD_some] at hitems
    cases found with
    | arr items =>
      cases hitems
      exact hread hparts
    -- Characters and keys have no fields, so there can be none of them.
    | str text =>
      refine eq_nil_of_strings (text.toList.map String.singleton) ?_ hparts
      rw [List.map_map, ← Except.ok.inj hitems]
      rfl
    | obj fields =>
      refine eq_nil_of_strings (fields.map Prod.fst) ?_ hparts
      rw [List.map_map, ← Except.ok.inj hitems]
      rfl
    | null | bool | int | float => cases hitems

/-- A field that has to be there is read exactly if it is there. -/
theorem require_eq_ok : value.require key = .ok found ↔ value.field? key = some found := by
  cases value with
  | obj fields => cases h : Fields.get? fields key <;> simp [require, field?, h]
  | _ => simp [require, field?]

/-- Only a text is read as a text. -/
theorem text_eq_ok {text : String} : value.text operation = .ok text ↔ value = .str text := by
  cases value <;> simp [Json.text]

/-- The value is an object, and its fields with the given keys are strings. Any of them may be
missing. -/
structure HasTexts (value : Json) (keys : List String) : Prop where
  isObject : ∃ fields, value = .obj fields
  isText : ∀ key ∈ keys, ∀ found, value.field? key = some found → ∃ text, found = .str text

/-- A value has texts under some keys if it is an object and nothing else stands under them. -/
theorem hasTexts_iff {keys : List String} :
    value.HasTexts keys ↔ value.fields.isOk = true ∧
      ∀ key ∈ keys, value.field? key = none ∨ (value.textOf? key).isSome := by
  have hobject : (∃ fields, value = .obj fields) ↔ value.fields.isOk = true := by
    cases value <;> simp [Json.fields, Except.isOk, Except.toBool]
  have htext : ∀ key, (∀ found, value.field? key = some found → ∃ text, found = .str text) ↔
      value.field? key = none ∨ (value.textOf? key).isSome := by
    intro key
    rw [textOf?]
    cases value.field? key with
    | none => simp
    | some found => cases found <;> simp
  constructor
  · rintro ⟨h, hkeys⟩
    exact ⟨hobject.1 h, fun key hkey => (htext key).1 (hkeys key hkey)⟩
  · rintro ⟨h, hkeys⟩
    exact ⟨hobject.2 h, fun key hkey => (htext key).2 (hkeys key hkey)⟩

instance (value : Json) (keys : List String) : Decidable (value.HasTexts keys) :=
  decidable_of_iff' _ hasTexts_iff

/-- A text is read as it is, and as an empty one if it is missing. -/
theorem HasTexts.field_eq {keys : List String} (h : value.HasTexts keys) (hkey : key ∈ keys) :
    value.field key (.str "") = .ok (.str ((value.textOf? key).getD "")) := by
  obtain ⟨fields, rfl⟩ := h.isObject
  refine field_eq_ok.2 ⟨fields, rfl, ?_⟩
  rw [textOf?]
  cases hfound : (obj fields).field? key with
  | none => rfl
  | some found =>
    obtain ⟨text, rfl⟩ := h.isText key hkey found hfound
    rfl

end Json

end DeckPlan
