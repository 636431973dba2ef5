import DeckPlan.Proofs.Json.Fields
import DeckPlan.Proofs.Topics.Schema

/-!
# What is kept of the data of a topic

A point that the model sent is kept if it has a label that is not blank and a finite number
(`isUsable`, `Point.ofJson?_eq_some`). `Gives` says the same without the cleaning functions, and
`Sifts` what is left of a list where some items give something and the others are passed over.

`isCleaned_sanitize` says what cleaning comes to for every topic: which points are kept, what becomes
of the data and of the mark, and that all other fields stay as they are and where they are.
-/

namespace DeckPlan.Topics

/-! ## Usable points -/

/-- The label of a point that the model sent, as it is written. -/
def labelOf : Json → String
  | .obj fields => Text.trimmed (fieldText fields "label")
  | _ => ""

/-- A point that the model sent is kept if it has a label that is not blank and a finite number. -/
def isUsable (point : Json) : Bool :=
  labelOf point ≠ "" && ((point.field? "value").bind Json.number?).any Number.isFinite

/-- The points that are kept of the data that the model sent. -/
def survivors (fields : Fields) : List Json :=
  ((Dataset.rawPoints fields).take 20).filter isUsable

theorem number?_eq_some {value : Json} {number : Number} :
    value.number? = some number ↔ value = .ofNumber number := by
  constructor
  · intro h
    cases value <;> cases h <;> rfl
  · rintro rfl
    exact Json.number?_ofNumber number

/-- A point is kept with the label and the number that were sent. -/
theorem Point.ofJson?_eq_some {raw : Json} {point : Point} :
    Point.ofJson? raw = some point ↔ point.label = labelOf raw ∧ labelOf raw ≠ "" ∧
      raw.field? "value" = some (.ofNumber point.value) ∧ point.value.isFinite = true := by
  obtain ⟨label, value⟩ := point
  cases raw with
  | obj fields =>
    simp only [Point.ofJson?, labelOf, fieldNumber?, Json.field?, Option.ite_none_left_eq_some,
      Option.map_eq_some_iff, Option.filter_eq_some_iff, Option.bind_eq_some_iff, number?_eq_some,
      exists_eq_right, String.isEmpty_iff, Point.mk.injEq]
    constructor
    · rintro ⟨hlabel, number, ⟨hnumber, hfinite⟩, rfl, rfl⟩
      exact ⟨rfl, hlabel, hnumber, hfinite⟩
    · rintro ⟨rfl, hlabel, hnumber, hfinite⟩
      exact ⟨hlabel, value, ⟨hnumber, hfinite⟩, rfl, rfl⟩
  | _ => simp [Point.ofJson?, labelOf]

/-- A point is kept exactly if it is usable. -/
theorem isSome_ofJson? (raw : Json) : (Point.ofJson? raw).isSome = isUsable raw := by
  rw [Bool.eq_iff_iff, Option.isSome_iff_exists]
  simp only [Point.ofJson?_eq_some, isUsable, Bool.and_eq_true, decide_eq_true_eq,
    Option.any_eq_true, Option.bind_eq_some_iff, number?_eq_some, exists_eq_right]
  constructor
  · rintro ⟨point, -, hlabel, hvalue, hfinite⟩
    exact ⟨hlabel, point.value, hvalue, hfinite⟩
  · rintro ⟨hlabel, number, hvalue, hfinite⟩
    exact ⟨⟨labelOf raw, number⟩, rfl, hlabel, hvalue, hfinite⟩

section Data

variable {fields : Fields} {dataset : Dataset}

/-- The points of data are the usable ones among the first twenty. -/
theorem points_of_ofFields? (h : Dataset.ofFields? fields = some dataset) :
    dataset.points = ((Dataset.rawPoints fields).take 20).filterMap Point.ofJson? := by
  obtain ⟨-, hdataset⟩ := Option.ite_none_left_eq_some.1 h
  obtain rfl := Option.some.inj hdataset
  rfl

/-- The unit of data is what is given as one, as a text. -/
theorem unit_of_ofFields? (h : Dataset.ofFields? fields = some dataset) :
    dataset.unit = (Json.given? fields "unit").map Json.display := by
  obtain ⟨-, hdataset⟩ := Option.ite_none_left_eq_some.1 h
  obtain rfl := Option.some.inj hdataset
  rfl

/-- Data are dropped if no point of them is kept. -/
theorem ofFields?_eq_none_iff :
    Dataset.ofFields? fields = none ↔
      ((Dataset.rawPoints fields).take 20).filterMap Point.ofJson? = [] := by
  change (if (Dataset.usablePoints fields).isEmpty then none else _) = none ↔
    Dataset.usablePoints fields = []
  simp

end Data

/-! ## The points that are kept, said apart -/

/-- A whole number or a finite one with a fraction. Truth values are no numbers. -/
inductive IsNumeral : Json → Prop
  | int (value : Int) : IsNumeral (.int value)
  | float {value : Binary64} : value.isFinite = true → IsNumeral (.float value)

/-- A value is a numeral if it is a finite number. -/
theorem isNumeral_iff {value : Json} :
    IsNumeral value ↔ ∃ number : Number, value = .ofNumber number ∧ number.isFinite = true := by
  constructor
  · rintro (n | ⟨hfinite⟩)
    · exact ⟨.int n, rfl, rfl⟩
    · exact ⟨.float _, rfl, hfinite⟩
  · rintro ⟨n | x, rfl, hfinite⟩
    · exact .int n
    · exact .float hfinite

/-- An entry gives a point if it is an object with a label, whose text is not blank, and a number. The
point has the text without the blanks around it, and the number as it is. -/
inductive Gives : Json → Json → Prop
  | point {fields : Fields} {label value : Json} :
      Fields.get? fields "label" = some label → label.isGiven = true →
        Text.trimmed label.display ≠ "" → Fields.get? fields "value" = some value →
          IsNumeral value →
            Gives (.obj fields)
              (.obj [("label", .str (Text.trimmed label.display)), ("value", value)])

/-- A label that is missing, or that does not count as given, has no text. -/
theorem labelOf_ne_empty_iff {fields : Fields} :
    labelOf (.obj fields) ≠ "" ↔ ∃ label, Fields.get? fields "label" = some label ∧
      label.isGiven = true ∧ Text.trimmed label.display ≠ "" := by
  have hempty : Text.trimmed "" = "" := by decide
  rw [labelOf, fieldText, Json.given?]
  cases hlabel : Fields.get? fields "label" with
  | none => simp [hempty]
  | some label =>
    rw [Option.filter_some]
    by_cases hgiven : label.isGiven = true
    · simp [hgiven]
    · simp [hgiven, hempty]

theorem labelOf_eq {fields : Fields} {label : Json}
    (hlabel : Fields.get? fields "label" = some label) (hgiven : label.isGiven = true) :
    labelOf (.obj fields) = Text.trimmed label.display := by
  rw [labelOf, fieldText, Json.given?, hlabel, Option.filter_some, if_pos hgiven]
  rfl

/-- What an entry gives is the point that is read from it. -/
theorem gives_iff {entry kept : Json} :
    Gives entry kept ↔ (Point.ofJson? entry).map Point.toJson = some kept := by
  rw [Option.map_eq_some_iff]
  constructor
  · rintro ⟨hlabel, hgiven, hblank, hvalue, hnumeral⟩
    obtain ⟨number, rfl, hfinite⟩ := isNumeral_iff.1 hnumeral
    have heq := labelOf_eq hlabel hgiven
    have hne : labelOf (.obj _) ≠ "" := heq ▸ hblank
    exact ⟨⟨_, number⟩, Point.ofJson?_eq_some.2 ⟨heq.symm, hne, hvalue, hfinite⟩, rfl⟩
  · rintro ⟨point, hpoint, rfl⟩
    obtain ⟨hname, hne, hvalue, hfinite⟩ := Point.ofJson?_eq_some.1 hpoint
    cases entry with
    | obj fields =>
      obtain ⟨label, hlabel, hgiven, hblank⟩ := labelOf_ne_empty_iff.1 hne
      rw [Point.toJson, hname, labelOf_eq hlabel hgiven]
      exact .point hlabel hgiven hblank hvalue (isNumeral_iff.2 ⟨_, rfl, hfinite⟩)
    | _ => exact absurd rfl hne

/-- The second list holds what the items of the first one give, in their order. Items that give
nothing are passed over. -/
inductive Sifts {α β : Type} (gives : α → β → Prop) : List α → List β → Prop
  | nil : Sifts gives [] []
  | keep {item : α} {kept : β} {items : List α} {rest : List β} :
      gives item kept → Sifts gives items rest → Sifts gives (item :: items) (kept :: rest)
  | drop {item : α} {items : List α} {rest : List β} :
      (∀ kept, ¬ gives item kept) → Sifts gives items rest → Sifts gives (item :: items) rest

/-- There is one way to sift a list by what a function gives. -/
theorem sifts_iff {α β : Type} {gives : α → β → Prop} {f : α → Option β}
    (hf : ∀ item kept, gives item kept ↔ f item = some kept) {items : List α} {rest : List β} :
    Sifts gives items rest ↔ items.filterMap f = rest := by
  constructor
  · intro h
    induction h with
    | nil => rfl
    | keep hgives _ ih => rw [List.filterMap_cons_some ((hf _ _).1 hgives), ih]
    | @drop item items rest hno _ ih =>
      have hnone : f item = none := by
        rw [Option.eq_none_iff_forall_ne_some]
        intro kept hkept
        exact hno kept ((hf _ _).2 hkept)
      rw [List.filterMap_cons_none hnone, ih]
  · rintro rfl
    -- The result is not fixed in advance, so the induction is on the items.
    induction items with
    | nil => exact .nil
    | cons item items ih =>
      cases hitem : f item with
      | none =>
        rw [List.filterMap_cons_none hitem]
        refine .drop (fun kept hgives => ?_) ih
        rw [(hf _ _).1 hgives] at hitem
        cases hitem
      | some kept =>
        rw [List.filterMap_cons_some hitem]
        exact .keep ((hf _ _).2 hitem) ih

/-- The points that are kept of a list are what its entries give. -/
theorem sifts_gives_iff {entries points : List Json} :
    Sifts Gives entries points ↔ (entries.filterMap Point.ofJson?).map Point.toJson = points := by
  have hgives : ∀ entry kept, Gives entry kept ↔
      (Point.ofJson? entry).map Point.toJson = some kept := fun _ _ => gives_iff
  rw [List.map_filterMap]
  exact sifts_iff hgives

/-! ## Cleaning a topic -/

/-- Neither the data of a topic nor its mark. -/
def isOther (field : String × Json) : Bool :=
  field.1 ≠ "dataset" && field.1 ≠ "quantifiable"

/-- The topic has neither data nor a mark. -/
structure IsBare (topic : Fields) : Prop where
  dataset : Fields.get? topic "dataset" = none
  mark : Fields.get? topic "quantifiable" = none

/-- The topic is marked and has data with the points and one of the three kinds. -/
structure Holds (topic : Fields) (points : List Json) : Prop where
  mark : Fields.get? topic "quantifiable" = some (.bool true)
  dataset : ∃ fields, Fields.get? topic "dataset" = some (.obj fields) ∧
    Fields.get? fields "points" = some (.arr points) ∧
      ∃ name ∈ ["timeseries", "category", "comparison"], Fields.get? fields "type" = some (.str name)

/-- What becomes of a topic when its data are cleaned. -/
structure IsCleaned (topic cleaned : Fields) : Prop where
  /-- All fields but the data and the mark stay as they are and in their order. -/
  others : cleaned.filter isOther = topic.filter isOther
  /-- Of the first twenty entries of the list of points, those that give a point are kept. -/
  points : ∀ fields entries, Fields.get? topic "dataset" = some (.obj fields) →
    Fields.get? fields "points" = some (.arr entries) →
      ∃ points, Sifts Gives (entries.take 20) points ∧
        (points = [] → IsBare cleaned) ∧ (points ≠ [] → Holds cleaned points)
  /-- Data without a list of points are dropped. -/
  noPoints : ∀ fields, Fields.get? topic "dataset" = some (.obj fields) →
    (∀ entries, Fields.get? fields "points" ≠ some (.arr entries)) → IsBare cleaned
  /-- Of what is no object nothing is kept, and the mark stays only if it is `true`. -/
  noData : (∀ fields, Fields.get? topic "dataset" ≠ some (.obj fields)) →
    Fields.get? cleaned "dataset" = none ∧
      ∀ mark, Fields.get? cleaned "quantifiable" = some mark ↔
        mark = .bool true ∧ Fields.get? topic "quantifiable" = some (.bool true)

section Cases

variable {topic : Fields}

/-- A topic is quantifiable only if it says that it is. -/
theorem isQuantifiable_iff :
    isQuantifiable topic = true ↔ Fields.get? topic "quantifiable" = some (.bool true) := by
  rw [isQuantifiable]
  split
  · next h => simp [h]
  · next hno => simpa using hno

/-- A topic with data keeps the cleaned data and is quantifiable. -/
theorem sanitize_of_data {fields : Fields} {dataset : Dataset}
    (hfields : Fields.get? topic "dataset" = some (.obj fields))
    (hdataset : Dataset.ofFields? fields = some dataset) :
    sanitize topic =
      Fields.put "quantifiable" (.bool true) (Fields.put "dataset" dataset.toJson topic) := by
  rw [sanitize, hfields]
  simp only [hdataset]

/-- A topic whose data have no points loses them and its mark. -/
theorem sanitize_of_noPoints {fields : Fields}
    (hfields : Fields.get? topic "dataset" = some (.obj fields))
    (hnone : Dataset.ofFields? fields = none) :
    sanitize topic = Fields.erase "quantifiable" (Fields.erase "dataset" topic) := by
  rw [sanitize, hfields]
  simp only [hnone]

/-- A topic that never had data keeps its mark. -/
theorem sanitize_of_noData (hno : ∀ fields, Fields.get? topic "dataset" ≠ some (.obj fields)) :
    sanitize topic =
      if isQuantifiable topic then Fields.erase "dataset" topic
      else Fields.erase "quantifiable" (Fields.erase "dataset" topic) := by
  have hmark : isQuantifiable (Fields.erase "dataset" topic) = isQuantifiable topic := by
    rw [isQuantifiable, isQuantifiable, Fields.get?_erase_of_ne (by decide)]
  rw [sanitize]
  split
  · next fields hfields => exact absurd hfields (hno fields)
  · simp only [hmark]

/-- A topic that lost both has neither data nor mark. -/
theorem isBare_erase (topic : Fields) :
    IsBare (Fields.erase "quantifiable" (Fields.erase "dataset" topic)) where
  dataset := by rw [Fields.get?_erase_of_ne (by decide), Fields.get?_erase_self]
  mark := Fields.get?_erase_self _ _

end Cases

/-- Cleaning writes and removes no other field than the data and the mark. -/
theorem filter_sanitize (topic : Fields) :
    (sanitize topic).filter isOther = topic.filter isOther := by
  have hdataset : ∀ value, isOther ("dataset", value) = false := fun _ => rfl
  have hmark : ∀ value, isOther ("quantifiable", value) = false := fun _ => rfl
  rw [sanitize]
  split
  · split
    · rw [Fields.filter_put hmark, Fields.filter_put hdataset]
    · rw [Fields.filter_erase hmark, Fields.filter_erase hdataset]
  · dsimp only
    split
    · rw [Fields.filter_erase hdataset]
    · rw [Fields.filter_erase hmark, Fields.filter_erase hdataset]

theorem exists_fields_toJson (dataset : Dataset) : ∃ fields, dataset.toJson = .obj fields ∧
    Fields.get? fields "points" = some (.arr (dataset.points.map Point.toJson)) ∧
      Fields.get? fields "type" = some (.str dataset.category.name) := by
  obtain ⟨title, unit, kind, points⟩ := dataset
  cases title <;> cases unit <;> exact ⟨_, rfl, rfl, rfl⟩

/-- Data with a point that is kept are replaced by what is kept of them. -/
theorem holds_put (topic : Fields) (dataset : Dataset) :
    Holds (Fields.put "quantifiable" (.bool true) (Fields.put "dataset" dataset.toJson topic))
      (dataset.points.map Point.toJson) := by
  obtain ⟨fields, hfields, hpoints, hkind⟩ := exists_fields_toJson dataset
  refine ⟨Fields.get?_put_self _ _ _, fields, ?_, hpoints, _, dataset.category.name_mem, hkind⟩
  rw [Fields.get?_put_of_ne (by decide), Fields.get?_put_self, hfields]

/-- The points that are kept decide what becomes of the data. -/
theorem holds_sanitize {topic fields : Fields}
    (hfields : Fields.get? topic "dataset" = some (.obj fields)) {points : List Json}
    (hpoints : (((Dataset.rawPoints fields).take 20).filterMap Point.ofJson?).map Point.toJson =
      points) :
    (points = [] → IsBare (sanitize topic)) ∧ (points ≠ [] → Holds (sanitize topic) points) := by
  cases hdataset : Dataset.ofFields? fields with
  | none =>
    have hempty : points = [] := by rw [← hpoints, ofFields?_eq_none_iff.1 hdataset, List.map_nil]
    rw [sanitize_of_noPoints hfields hdataset]
    exact ⟨fun _ => isBare_erase topic, fun hne => absurd hempty hne⟩
  | some dataset =>
    rw [← points_of_ofFields? hdataset] at hpoints
    rw [sanitize_of_data hfields hdataset, ← hpoints]
    refine ⟨fun hempty => ?_, fun _ => holds_put topic dataset⟩
    -- Data with no point would have been dropped.
    rw [List.map_eq_nil_iff, points_of_ofFields? hdataset, ← ofFields?_eq_none_iff, hdataset]
      at hempty
    cases hempty

/-- What is no object is removed, and the mark stays only if it is `true`. -/
theorem noData_sanitize {topic : Fields}
    (hno : ∀ fields, Fields.get? topic "dataset" ≠ some (.obj fields)) :
    Fields.get? (sanitize topic) "dataset" = none ∧
      ∀ mark, Fields.get? (sanitize topic) "quantifiable" = some mark ↔
        mark = .bool true ∧ Fields.get? topic "quantifiable" = some (.bool true) := by
  rw [sanitize_of_noData hno]
  by_cases hquantifiable : isQuantifiable topic = true
  · have hmark := isQuantifiable_iff.1 hquantifiable
    rw [if_pos hquantifiable, Fields.get?_erase_self, Fields.get?_erase_of_ne (by decide), hmark]
    exact ⟨rfl, fun mark => by simp [eq_comm]⟩
  · obtain ⟨hdataset, hmark⟩ := isBare_erase topic
    rw [if_neg hquantifiable, hdataset, hmark]
    refine ⟨rfl, fun mark => ⟨fun h => (nomatch h), fun h => ?_⟩⟩
    exact absurd (isQuantifiable_iff.2 h.2) hquantifiable

/-- What cleaning comes to, whatever the topic is. -/
theorem isCleaned_sanitize (topic : Fields) : IsCleaned topic (sanitize topic) := by
  refine ⟨filter_sanitize topic, fun fields entries hfields hentries => ?_,
    fun fields hfields hno => ?_, fun hno => ?_⟩
  · have hraw : Dataset.rawPoints fields = entries := by rw [Dataset.rawPoints, hentries]
    exact ⟨_, sifts_gives_iff.2 rfl, holds_sanitize hfields (by rw [hraw])⟩
  · have hraw : Dataset.rawPoints fields = [] := by
      rw [Dataset.rawPoints]
      split
      · next entries hentries => exact absurd hentries (hno entries)
      · rfl
    exact (holds_sanitize hfields (by rw [hraw]; rfl)).1 rfl
  · exact noData_sanitize hno

end DeckPlan.Topics
