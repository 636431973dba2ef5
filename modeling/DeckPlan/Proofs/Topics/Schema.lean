import DeckPlan.Proofs.Json.Access
import DeckPlan.Proofs.Text.Numeral
import DeckPlan.Topics.Dataset
import Mathlib.Data.List.Nodup
import Mathlib.Tactic.SplitIfs

/-!
# The schema of topics

A `Member` of a form is a key, whether a field with the key is required, and what its value has to
be. Fields fit a form (`Fits`) if each of them is a member of the form, none is there twice, and all
that are required are there. `topicForm`, `datasetForm` and `pointForm` are the forms of a topic,
its data and a point.

Whatever the model sends as a topic fits the schema after `normalize` (`isTopic_normalize`), so no
`null`, no infinity and no `nan` is left in it at any depth (`IsTopic.isProper`).
-/

namespace DeckPlan.Topics

/-! ## Forms -/

/-- A member of a form. -/
structure Member where
  key : String
  isRequired : Bool
  /-- What the value has to be. -/
  holds : Json → Prop

/-- The fields are members of the form, each at most once, and none that is required is missing. -/
structure Fits (form : List Member) (fields : Fields) : Prop where
  nodup : (fields.map Prod.fst).Nodup
  known : ∀ field ∈ fields, ∃ member ∈ form, member.key = field.1 ∧ member.holds field.2
  complete : ∀ member ∈ form, member.isRequired = true → member.key ∈ fields.map Prod.fst

/-- The value is an object with the fields of a form. -/
def IsObject (form : List Member) (value : Json) : Prop :=
  ∃ fields, value = .obj fields ∧ Fits form fields

/-- No `null`, no infinity and no `nan` is in the value at any depth. -/
inductive IsProper : Json → Prop
  | bool (value : Bool) : IsProper (.bool value)
  | int (value : Int) : IsProper (.int value)
  | float {value : Binary64} : value.isFinite = true → IsProper (.float value)
  | str (text : String) : IsProper (.str text)
  | arr {items : List Json} : (∀ item ∈ items, IsProper item) → IsProper (.arr items)
  | obj {fields : Fields} : (∀ field ∈ fields, IsProper field.2) → IsProper (.obj fields)

theorem fits_nil : Fits [] [] :=
  ⟨List.nodup_nil, fun _ hmem => (nomatch hmem), fun _ hmem => (nomatch hmem)⟩

namespace Fits

variable {form : List Member} {fields : Fields} {member : Member}

/-- A field in front fits a form with one more member. -/
theorem cons (h : Fits form fields) (hkey : member.key ∉ form.map Member.key) {value : Json}
    (hvalue : member.holds value) : Fits (member :: form) ((member.key, value) :: fields) := by
  refine ⟨List.nodup_cons.2 ⟨fun hmem => hkey ?_, h.nodup⟩, ?_, ?_⟩
  · obtain ⟨field, hfield, heq⟩ := List.mem_map.1 hmem
    obtain ⟨other, hother, hsame, -⟩ := h.known field hfield
    exact List.mem_map.2 ⟨other, hother, hsame.trans heq⟩
  · refine List.forall_mem_cons.2 ⟨⟨member, List.mem_cons_self, rfl, hvalue⟩, ?_⟩
    intro field hfield
    obtain ⟨other, hother, hsame⟩ := h.known field hfield
    exact ⟨other, List.mem_cons_of_mem _ hother, hsame⟩
  · refine List.forall_mem_cons.2 ⟨fun _ => List.mem_cons_self, fun other hother hrequired => ?_⟩
    exact List.mem_cons_of_mem _ (h.complete other hother hrequired)

/-- A field that is not required may be missing. -/
theorem skip (h : Fits form fields) (hoptional : member.isRequired = false) :
    Fits (member :: form) fields := by
  refine ⟨h.nodup, fun field hfield => ?_, List.forall_mem_cons.2 ⟨fun hrequired => ?_, h.complete⟩⟩
  · obtain ⟨other, hother, hsame⟩ := h.known field hfield
    exact ⟨other, List.mem_cons_of_mem _ hother, hsame⟩
  · rw [hoptional] at hrequired
    cases hrequired

/-- No field has a key that no member has. -/
theorem get?_eq_none {key : String} (h : Fits form fields) (hkey : key ∉ form.map Member.key) :
    Fields.get? fields key = none := by
  refine List.lookup_eq_none_iff.2 fun field hfield => bne_iff_ne.2 ?_
  rintro rfl
  obtain ⟨member, hmember, heq, -⟩ := h.known field hfield
  exact hkey (List.mem_map.2 ⟨member, hmember, heq⟩)

/-- The value of a member is what it has to be. -/
theorem holds {value : Json} (h : Fits form fields) (hkeys : (form.map Member.key).Nodup)
    (hmember : member ∈ form) (hvalue : Fields.get? fields member.key = some value) :
    member.holds value := by
  obtain ⟨other, hother, hkey, hholds⟩ := h.known _ (Fields.mem_of_get? hvalue)
  obtain rfl := List.inj_on_of_nodup_map hkeys hother hmember hkey
  exact hholds

/-- A required member is there. -/
theorem exists_holds (h : Fits form fields) (hkeys : (form.map Member.key).Nodup)
    (hmember : member ∈ form) (hrequired : member.isRequired = true) :
    ∃ value, Fields.get? fields member.key = some value ∧ member.holds value := by
  obtain ⟨value, hvalue⟩ := Fields.exists_get?_of_mem (h.complete member hmember hrequired)
  exact ⟨value, hvalue, h.holds hkeys hmember hvalue⟩

/-- The order of the fields does not matter. -/
theorem perm {other : Fields} (h : Fits form fields) (hperm : fields.Perm other) :
    Fits form other where
  nodup := (hperm.map Prod.fst).nodup_iff.1 h.nodup
  known field hfield := h.known field (hperm.mem_iff.2 hfield)
  complete member hmember hrequired :=
    (hperm.map Prod.fst).mem_iff.1 (h.complete member hmember hrequired)

/-- An object is proper if the members of its form are. -/
theorem isProper (h : Fits form fields)
    (hform : ∀ member ∈ form, ∀ value, member.holds value → IsProper value) :
    IsProper (.obj fields) := by
  refine .obj fun field hfield => ?_
  obtain ⟨member, hmember, -, hvalue⟩ := h.known field hfield
  exact hform member hmember field.2 hvalue

end Fits

/-! ## The forms of topics, their data and points -/

/-- A text without blanks at its ends. -/
def IsTrimmed (text : String) : Prop :=
  ∀ c, text.toList.head? = some c ∨ text.toList.getLast? = some c → Text.isBlank c = false

/-- A text that is not empty and has no blanks at its ends. -/
def Member.label : Member where
  key := "label"
  isRequired := true
  holds value := ∃ text, value = .str text ∧ text ≠ "" ∧ IsTrimmed text

/-- A finite number. -/
def Member.number : Member where
  key := "value"
  isRequired := true
  holds value := ∃ number, value = .ofNumber number ∧ number.isFinite = true

/-- The form of a point. -/
def pointForm : List Member :=
  [.label, .number]

/-- A text that is not empty, if it is there at all. -/
def Member.caption (key : String) : Member where
  key
  isRequired := false
  holds value := ∃ text, value = .str text ∧ text ≠ ""

/-- One of the three kinds of data. -/
def Member.kind : Member where
  key := "type"
  isRequired := true
  holds value := ∃ name ∈ ["timeseries", "category", "comparison"], value = .str name

/-- From one to twenty points. -/
def Member.points : Member where
  key := "points"
  isRequired := true
  holds value := ∃ points, value = .arr points ∧ 1 ≤ points.length ∧ points.length ≤ 20 ∧
    ∀ point ∈ points, IsObject pointForm point

/-- The form of the data of a topic. -/
def datasetForm : List Member :=
  [.caption "title", .caption "unit", .kind, .points]

/-- A text without blanks at its ends. -/
def Member.heading (key : String) : Member where
  key
  isRequired := true
  holds value := ∃ text, value = .str text ∧ IsTrimmed text

/-- The mark of a topic that can be counted. -/
def Member.mark : Member where
  key := "quantifiable"
  isRequired := false
  holds value := value = .bool true

/-- The data of a topic. -/
def Member.dataset : Member where
  key := "dataset"
  isRequired := false
  holds := IsObject datasetForm

/-- The form of a topic. -/
def topicForm : List Member :=
  [.heading "topic", .heading "summary", .mark, .dataset]

/-- The fields fit the form of a topic, and where there are data there is the mark. -/
structure IsTopic (topic : Fields) : Prop where
  fits : Fits topicForm topic
  marked : (Fields.get? topic "dataset").isSome →
    Fields.get? topic "quantifiable" = some (.bool true)

theorem nodup_topicForm : (topicForm.map Member.key).Nodup := by decide

theorem nodup_datasetForm : (datasetForm.map Member.key).Nodup := by decide

theorem nodup_pointForm : (pointForm.map Member.key).Nodup := by decide

/-! ### What fits is proper -/

/-- A finite number is a proper value. -/
theorem isProper_ofNumber {number : Number} (h : number.isFinite = true) :
    IsProper (.ofNumber number) := by
  cases number with
  | int value => exact .int value
  | float value => exact .float h

theorem IsObject.isProper_point {point : Json} (h : IsObject pointForm point) : IsProper point := by
  obtain ⟨fields, rfl, hfits⟩ := h
  refine hfits.isProper fun member hmember => ?_
  simp only [pointForm, List.mem_cons, List.not_mem_nil, or_false] at hmember
  rcases hmember with rfl | rfl
  · rintro _ ⟨text, rfl, -⟩
    exact .str text
  · rintro _ ⟨number, rfl, hfinite⟩
    exact isProper_ofNumber hfinite

theorem isProper_of_caption {key : String} {value : Json} (h : (Member.caption key).holds value) :
    IsProper value := by
  obtain ⟨text, rfl, -⟩ := h
  exact .str text

/-- Data in their form are a proper value. -/
theorem IsObject.isProper_dataset {dataset : Json} (h : IsObject datasetForm dataset) :
    IsProper dataset := by
  obtain ⟨fields, rfl, hfits⟩ := h
  refine hfits.isProper fun member hmember => ?_
  simp only [datasetForm, List.mem_cons, List.not_mem_nil, or_false] at hmember
  rcases hmember with rfl | rfl | rfl | rfl
  · exact fun _ hvalue => isProper_of_caption hvalue
  · exact fun _ hvalue => isProper_of_caption hvalue
  · rintro _ ⟨name, -, rfl⟩
    exact .str name
  · rintro _ ⟨points, rfl, -, -, hpoints⟩
    exact .arr fun point hpoint => (hpoints point hpoint).isProper_point

theorem isProper_of_heading {key : String} {value : Json} (h : (Member.heading key).holds value) :
    IsProper value := by
  obtain ⟨text, rfl, -⟩ := h
  exact .str text

/-- Nothing in a topic is `null`, infinite or `nan`. -/
theorem IsTopic.isProper {topic : Fields} (h : IsTopic topic) : IsProper (.obj topic) := by
  refine h.fits.isProper fun member hmember => ?_
  simp only [topicForm, List.mem_cons, List.not_mem_nil, or_false] at hmember
  rcases hmember with rfl | rfl | rfl | rfl
  · exact fun _ hvalue => isProper_of_heading hvalue
  · exact fun _ hvalue => isProper_of_heading hvalue
  · rintro _ rfl
    exact .bool true
  · exact fun _ hvalue => IsObject.isProper_dataset hvalue

/-! ## Texts of values -/

/-- A text that is trimmed has no blanks around it. -/
theorem isTrimmed_trimmed (text : String) : IsTrimmed (Text.trimmed text) := by
  intro c hc
  rw [Text.toList_trimmed] at hc
  rcases hc with hhead | hlast
  · exact Text.head?_trimOff hhead
  · exact Text.getLast?_trimOff hlast

theorem append_ne_empty {first : String} (h : first ≠ "") (second : String) :
    first ++ second ≠ "" :=
  fun heq => h (String.append_eq_empty_iff.1 heq).1

theorem toString_int_ne_empty (value : Int) : toString value ≠ "" := by
  cases value with
  | ofNat n => exact fun h => Text.numeral_ne_nil n (congrArg String.toList h)
  | negSucc n => exact append_ne_empty (by decide) _

theorem digitsText_ne_nil (digits : List Char) (exponent : Int) :
    Binary64.digitsText digits exponent ≠ [] := by
  simp only [Binary64.digitsText]
  split_ifs
  · simp
  · simp
  · simp
  · split <;> simp

/-- A number has a numeral. -/
theorem decimalText_ne_empty (number : Binary64) : number.decimalText ≠ "" := by
  cases number with
  | nan => simp [Binary64.decimalText]
  | infinity negative => cases negative <;> simp [Binary64.decimalText]
  | finite negative significand exponent =>
    have htext : ∀ text : List Char, text ≠ [] →
        String.ofList (if negative then '-' :: text else text) ≠ "" := by
      intro text hne
      split <;> simp [hne]
    rw [Binary64.decimalText]
    refine htext _ ?_
    split
    · exact List.cons_ne_nil _ _
    · generalize Binary64.shortest significand exponent = found
      obtain ⟨digits, e⟩ := found
      exact digitsText_ne_nil _ _

/-- What counts as given has a text that is not empty. -/
theorem display_ne_empty {value : Json} (h : value.isGiven = true) : value.display ≠ "" := by
  cases value with
  | null => cases h
  | bool value =>
    obtain rfl : value = true := h
    simp [Json.display, Json.inspect]
  | int value => simpa only [Json.display, Json.inspect] using toString_int_ne_empty value
  | float value => simpa only [Json.display, Json.inspect] using decimalText_ne_empty value
  | str text => simpa [Json.isGiven, Json.display] using h
  | arr items => simp [Json.display, Json.inspect]
  | obj fields => simp [Json.display, Json.inspect]

/-! ## Data -/

/-- The label is a text without blanks at its ends, and the value is finite. -/
structure Point.IsClean (point : Point) : Prop where
  label_ne_empty : point.label ≠ ""
  isTrimmed : IsTrimmed point.label
  isFinite : point.value.isFinite = true

/-- Texts that are there are not empty, and there are points, all of them clean. -/
structure Dataset.IsClean (dataset : Dataset) : Prop where
  title : ∀ text ∈ dataset.title, text ≠ ""
  unit : ∀ text ∈ dataset.unit, text ≠ ""
  one_le_length : 1 ≤ dataset.points.length
  length_le : dataset.points.length ≤ 20
  points : ∀ point ∈ dataset.points, point.IsClean

/-- A point that is kept is clean. -/
theorem Point.isClean_of_ofJson? {value : Json} {point : Point}
    (h : Point.ofJson? value = some point) : point.IsClean := by
  unfold Point.ofJson? at h
  split at h
  · next fields =>
    simp only at h
    split at h
    · cases h
    · next hlabel =>
      obtain ⟨number, hnumber, rfl⟩ := Option.map_eq_some_iff.1 h
      obtain ⟨-, hfinite⟩ := Option.filter_eq_some_iff.1 hnumber
      exact ⟨by simpa using hlabel, isTrimmed_trimmed _, hfinite⟩
  · cases h

theorem ne_empty_of_mem_given? {fields : Fields} {key text : String}
    (h : text ∈ (Json.given? fields key).map Json.display) : text ≠ "" := by
  obtain ⟨value, hvalue, rfl⟩ := Option.map_eq_some_iff.1 h
  exact display_ne_empty (Option.filter_eq_some_iff.1 hvalue).2

/-- Data that are kept are clean. -/
theorem Dataset.isClean_of_ofFields? {fields : Fields} {dataset : Dataset}
    (h : Dataset.ofFields? fields = some dataset) : dataset.IsClean := by
  unfold Dataset.ofFields? at h
  simp only at h
  split at h
  · cases h
  · next hpoints =>
    obtain rfl := Option.some.inj h
    refine ⟨fun _ => ne_empty_of_mem_given?, fun _ => ne_empty_of_mem_given?, ?_, ?_, ?_⟩
    · exact List.length_pos_of_ne_nil (by simpa using hpoints)
    · exact Nat.le_trans (List.length_filterMap_le _ _) (List.length_take_le _ _)
    · intro point hpoint
      obtain ⟨value, -, hvalue⟩ := List.mem_filterMap.1 hpoint
      exact Point.isClean_of_ofJson? hvalue

/-- A clean point has the form of a point. -/
theorem Point.IsClean.isObject {point : Point} (h : point.IsClean) :
    IsObject pointForm point.toJson := by
  have hvalue : Fits [.number] [("value", .ofNumber point.value)] :=
    fits_nil.cons List.not_mem_nil ⟨point.value, rfl, h.isFinite⟩
  exact ⟨_, rfl, hvalue.cons (by decide) ⟨point.label, rfl, h.label_ne_empty, h.isTrimmed⟩⟩

theorem Category.name_mem (kind : Category) :
    kind.name ∈ ["timeseries", "category", "comparison"] := by
  cases kind <;> decide

/-- An optional text may be put in front. -/
theorem Fits.textField {form : List Member} {fields : Fields} {key : String} {text : Option String}
    (h : Fits form fields) (hkey : key ∉ form.map Member.key) (htext : ∀ t ∈ text, t ≠ "") :
    Fits (.caption key :: form) (Dataset.textField key text ++ fields) := by
  cases text with
  | none => exact h.skip rfl
  | some text => exact h.cons hkey ⟨text, rfl, htext text rfl⟩

/-- Clean data fit their form. -/
theorem Dataset.IsClean.isObject {dataset : Dataset} (h : dataset.IsClean) :
    IsObject datasetForm dataset.toJson := by
  have hpoints : Fits [.points] [("points", .arr (dataset.points.map Point.toJson))] := by
    refine fits_nil.cons List.not_mem_nil ⟨_, rfl, ?_, ?_, fun point hpoint => ?_⟩
    · rw [List.length_map]
      exact h.one_le_length
    · rw [List.length_map]
      exact h.length_le
    · obtain ⟨clean, hclean, rfl⟩ := List.mem_map.1 hpoint
      exact (h.points clean hclean).isObject
  have hkind : Fits [.kind, .points] [("type", .str dataset.category.name),
      ("points", .arr (dataset.points.map Point.toJson))] :=
    hpoints.cons (by decide) ⟨_, dataset.category.name_mem, rfl⟩
  have hunit := hkind.textField (by decide : "unit" ∉ [Member.kind, .points].map Member.key) h.unit
  have htitle := hunit.textField
    (by decide : "title" ∉ [Member.caption "unit", .kind, .points].map Member.key) h.title
  exact ⟨_, rfl, by rwa [List.append_assoc]⟩

/-! ## Topics -/

/-- Title and summary of a topic. -/
def headings (topic : Fields) : Fields :=
  [("topic", .str (Text.trimmed (fieldText topic "topic"))),
    ("summary", .str (Text.trimmed (fieldText topic "summary")))]

theorem get?_dataset_knownFields (topic : Fields) :
    Fields.get? (knownFields topic) "dataset" = Fields.get? topic "dataset" := by
  rw [knownFields]
  cases isQuantifiable topic <;> cases Fields.get? topic "dataset" <;> simp [Fields.get?_cons]

/-- What is left of a topic: its title and its summary, the mark, or the mark and clean data. -/
theorem normalize_cases (topic : Fields) :
    normalize topic = headings topic ∨
      normalize topic = headings topic ++ [("quantifiable", .bool true)] ∨
      ∃ dataset : Dataset, dataset.IsClean ∧
        (normalize topic = headings topic ++
            [("quantifiable", .bool true), ("dataset", dataset.toJson)] ∨
          normalize topic = headings topic ++
            [("dataset", dataset.toJson), ("quantifiable", .bool true)]) := by
  rw [normalize, sanitize, get?_dataset_knownFields]
  split
  · next fields hfields =>
    rw [knownFields, hfields]
    split
    · next dataset hdataset =>
      refine .inr (.inr ⟨dataset, Dataset.isClean_of_ofFields? hdataset, ?_⟩)
      -- A mark that was there keeps its place before the data.
      cases isQuantifiable topic with
      | true => exact .inl (by simp [headings, Fields.put])
      | false => exact .inr (by simp [headings, Fields.put])
    · left
      cases isQuantifiable topic <;> simp [headings, Fields.erase]
  · rw [knownFields]
    cases hmark : isQuantifiable topic with
    | true =>
      right; left
      cases Fields.get? topic "dataset" <;>
        simp [headings, Fields.erase, isQuantifiable, Fields.get?_cons]
    | false =>
      left
      cases Fields.get? topic "dataset" <;>
        simp [headings, Fields.erase, isQuantifiable, Fields.get?_cons]

/-- The headings come in front of what is known of a topic. -/
theorem Fits.withHeadings {form : List Member} {fields : Fields} (h : Fits form fields)
    (hsummary : "summary" ∉ form.map Member.key) (htopic : "topic" ∉ form.map Member.key)
    (topic : Fields) :
    Fits (.heading "topic" :: .heading "summary" :: form) (headings topic ++ fields) := by
  have hholds : ∀ key, (Member.heading key).holds (.str (Text.trimmed (fieldText topic key))) :=
    fun key => ⟨_, rfl, isTrimmed_trimmed _⟩
  have hkeys : "topic" ∉ (Member.heading "summary" :: form).map Member.key := by
    simpa [Member.heading] using htopic
  exact (h.cons hsummary (hholds "summary")).cons hkeys (hholds "topic")

/-- Whatever the model sends as a topic, what is kept of it fits the schema. -/
theorem isTopic_normalize (topic : Fields) : IsTopic (normalize topic) := by
  have hfits : ∀ {fields : Fields}, Fits [.mark, .dataset] fields →
      Fits topicForm (headings topic ++ fields) :=
    fun h => h.withHeadings (by decide) (by decide) topic
  -- Behind the headings stand nothing, the mark alone, or mark and data in one order or the other.
  rcases normalize_cases topic with h | h | ⟨dataset, hclean, h⟩
  · have hnothing : Fits [.mark, .dataset] [] := (fits_nil.skip rfl).skip rfl
    rw [h, ← List.append_nil (headings topic)]
    exact ⟨hfits hnothing, by simp [headings, Fields.get?_cons]⟩
  · have hmark : Fits [.mark, .dataset] [("quantifiable", .bool true)] :=
      (fits_nil.skip rfl).cons (by decide) rfl
    rw [h]
    exact ⟨hfits hmark, by simp [headings, Fields.get?_cons]⟩
  · have hdataset : Fits [.dataset] [("dataset", dataset.toJson)] :=
      fits_nil.cons List.not_mem_nil hclean.isObject
    have hboth : Fits [.mark, .dataset]
        [("quantifiable", .bool true), ("dataset", dataset.toJson)] :=
      hdataset.cons (by decide) rfl
    rcases h with h | h
    · rw [h]
      exact ⟨hfits hboth, by simp [headings, Fields.get?_cons]⟩
    · rw [h]
      exact ⟨hfits (hboth.perm (.swap ..)), by simp [headings, Fields.get?_cons]⟩

end DeckPlan.Topics
