import DeckPlan.Proofs.Text.Trim
import DeckPlan.Proofs.Topics.Points

/-!
# Topics that need no cleaning

A topic is tidy (`IsTidy`) if it has no data and no mark but `true`, or if it is marked and its data
fit their form. `settles_sanitize` says that cleaning makes a topic tidy, that it leaves a tidy one
alone up to the order of the keys in the data and in the points, and that cleaning a second time
changes nothing at all.

What carries the proof is `Describes`: fields in any order that hold the parts of clean data. Such
fields are read as these data (`ofFields?_of_describes`), be they the ones that cleaning has written
(`describes_toJson`) or ones that the model sent in its own order (`exists_ofFields?`).
-/

namespace DeckPlan.Topics

/-! ## Reading what was written -/

theorem trimmed_eq_self {text : String} (h : IsTrimmed text) : Text.trimmed text = text := by
  have hlist : Text.trim text.toList = text.toList :=
    Text.trimOff_eq_self (fun c hc => h c (.inl hc)) (fun c hc => h c (.inr hc))
  rw [Text.trimmed, hlist, String.ofList_toList]

/-- A kind of chart is read back from its name. -/
theorem ofName_name (kind : Category) :
    Category.ofName (Text.lowered (Text.trimmed kind.name)) = kind := by
  cases kind <;> decide

/-- Fields with the label and the number of a clean point are read as the point. -/
theorem Point.IsClean.ofJson?_eq {point : Point} (h : point.IsClean) {fields : Fields}
    (hlabel : Fields.get? fields "label" = some (.str point.label))
    (hvalue : Fields.get? fields "value" = some (.ofNumber point.value)) :
    Point.ofJson? (.obj fields) = some point := by
  have hgiven : (Json.str point.label).isGiven = true := by
    simpa [Json.isGiven] using h.label_ne_empty
  have heq : labelOf (.obj fields) = point.label := by
    rw [labelOf_eq hlabel hgiven, Json.display, trimmed_eq_self h.isTrimmed]
  exact Point.ofJson?_eq_some.2 ⟨heq.symm, heq ▸ h.label_ne_empty, hvalue, h.isFinite⟩

/-- The fields hold the parts of the data, in any order. -/
structure Describes (fields : Fields) (dataset : Dataset) : Prop where
  title : Fields.get? fields "title" = dataset.title.map .str
  unit : Fields.get? fields "unit" = dataset.unit.map .str
  kind : Fields.get? fields "type" = some (.str dataset.category.name)
  points : ∃ entries, Fields.get? fields "points" = some (.arr entries) ∧
    List.Forall₂ (fun entry point => Point.ofJson? entry = some point) entries dataset.points

theorem filterMap_of_forall₂ {α β : Type} {f : α → Option β} {items : List α} {results : List β}
    (h : List.Forall₂ (fun item result => f item = some result) items results) :
    items.filterMap f = results := by
  induction h with
  | nil => rfl
  | cons hfirst _ ih => rw [List.filterMap_cons_some hfirst, ih]

/-- A text that is given and not empty is read back. -/
theorem given?_of_text {fields : Fields} {key : String} {text : Option String}
    (hkey : Fields.get? fields key = text.map .str) (htext : ∀ t ∈ text, t ≠ "") :
    (Json.given? fields key).map Json.display = text := by
  rw [Json.given?, hkey]
  cases text with
  | none => rfl
  | some text =>
    have hgiven : (Json.str text).isGiven = true := by simpa [Json.isGiven] using htext text rfl
    rw [Option.map_some, Option.filter_some, if_pos hgiven]
    rfl

/-- Fields that hold the parts of clean data are read as these data. -/
theorem ofFields?_of_describes {fields : Fields} {dataset : Dataset} (hclean : dataset.IsClean)
    (h : Describes fields dataset) : Dataset.ofFields? fields = some dataset := by
  obtain ⟨entries, hentries, hpoints⟩ := h.points
  have husable : Dataset.usablePoints fields = dataset.points := by
    have hraw : Dataset.rawPoints fields = entries := by rw [Dataset.rawPoints, hentries]
    -- There are no more entries than are looked at.
    have hlength : entries.length ≤ maxPoints := hpoints.length_eq ▸ hclean.length_le
    rw [Dataset.usablePoints, hraw, List.take_of_length_le hlength]
    exact filterMap_of_forall₂ hpoints
  have hne : dataset.points.isEmpty = false := by
    rw [List.isEmpty_eq_false_iff]
    exact List.ne_nil_of_length_pos hclean.one_le_length
  have hname : ∀ name ∈ some dataset.category.name, name ≠ "" := by
    rintro name ⟨⟩
    cases dataset.category <;> decide
  have hkind : fieldText fields "type" = dataset.category.name := by
    rw [fieldText, given?_of_text h.kind hname, Option.getD_some]
  rw [Dataset.ofFields?, husable]
  simp only [hne, given?_of_text h.title hclean.title, given?_of_text h.unit hclean.unit, hkind,
    ofName_name, Bool.false_eq_true, if_false]

/-- What cleaning has written holds the parts of the data. -/
theorem describes_toJson {dataset : Dataset} (hclean : dataset.IsClean) :
    ∃ fields, dataset.toJson = .obj fields ∧ Describes fields dataset := by
  have hpoints : List.Forall₂ (fun entry point => Point.ofJson? entry = some point)
      (dataset.points.map Point.toJson) dataset.points := by
    rw [List.forall₂_map_left_iff, List.forall₂_same]
    intro point hpoint
    exact (hclean.points point hpoint).ofJson?_eq rfl rfl
  obtain ⟨title, unit, kind, points⟩ := dataset
  cases title <;> cases unit <;> exact ⟨_, rfl, rfl, rfl, rfl, _, rfl, hpoints⟩

/-! ## Data that fit their form -/

/-- Fields of one form are the same up to their order if they agree on the members of the form. -/
theorem Fits.perm_of_agree {form : List Member} {fields others : Fields} (h : Fits form fields)
    (hothers : Fits form others)
    (hagree : ∀ member ∈ form, Fields.get? fields member.key = Fields.get? others member.key) :
    fields.Perm others := by
  apply Fields.perm_of_get?_eq h.nodup hothers.nodup
  intro key
  by_cases hkey : key ∈ form.map Member.key
  · obtain ⟨member, hmember, rfl⟩ := List.mem_map.1 hkey
    exact hagree member hmember
  · rw [h.get?_eq_none hkey, hothers.get?_eq_none hkey]

/-- A member may be replaced by another value that it can have. -/
theorem Fits.put {form : List Member} {fields : Fields} {member : Member} {value : Json}
    (h : Fits form fields) (hmember : member ∈ form) (hkey : member.key ∈ fields.map Prod.fst)
    (hvalue : member.holds value) : Fits form (Fields.put member.key value fields) := by
  have hkeys : (Fields.put member.key value fields).map Prod.fst = fields.map Prod.fst :=
    Fields.keys_put_of_mem hkey
  refine ⟨hkeys ▸ h.nodup, fun field hfield => ?_, fun other hother hrequired => ?_⟩
  · rcases Fields.mem_put hfield with rfl | hfield
    · exact ⟨member, hmember, rfl, hvalue⟩
    · exact h.known field hfield
  · rw [hkeys]
    exact h.complete other hother hrequired

/-- The value is an object with the same fields, perhaps in another order. -/
def IsReordered (value other : Json) : Prop :=
  ∃ fields others, value = .obj fields ∧ other = .obj others ∧ fields.Perm others

/-- A point that fits its form is read as a clean point with the same fields. -/
theorem exists_point {entry : Json} (h : IsObject pointForm entry) :
    ∃ point : Point, point.IsClean ∧ Point.ofJson? entry = some point ∧
      IsReordered entry point.toJson := by
  obtain ⟨fields, rfl, hfits⟩ := h
  obtain ⟨_, hlabel, label, rfl, hne, htrimmed⟩ :=
    hfits.exists_holds nodup_pointForm (by simp [pointForm] : Member.label ∈ pointForm) rfl
  obtain ⟨_, hvalue, number, rfl, hfinite⟩ :=
    hfits.exists_holds nodup_pointForm (by simp [pointForm] : Member.number ∈ pointForm) rfl
  have hclean : Point.IsClean ⟨label, number⟩ := ⟨hne, htrimmed, hfinite⟩
  obtain ⟨others, hothers, hfits'⟩ := hclean.isObject
  cases hothers
  -- Both objects fit the form of points, so it is enough to compare the label and the number.
  refine ⟨⟨label, number⟩, hclean, hclean.ofJson?_eq hlabel hvalue, fields, _, rfl, rfl, ?_⟩
  apply hfits.perm_of_agree hfits'
  intro member hmember
  simp only [pointForm, List.mem_cons, List.not_mem_nil, or_false] at hmember
  rcases hmember with rfl | rfl
  · exact hlabel
  · exact hvalue

/-- Points that fit their form are read as clean points with the same fields. -/
theorem exists_points {entries : List Json} (h : ∀ entry ∈ entries, IsObject pointForm entry) :
    ∃ points : List Point, (∀ point ∈ points, point.IsClean) ∧
      List.Forall₂ (fun entry point => Point.ofJson? entry = some point) entries points ∧
        List.Forall₂ IsReordered entries (points.map Point.toJson) := by
  induction entries with
  | nil => exact ⟨[], by simp, .nil, .nil⟩
  | cons entry entries ih =>
    obtain ⟨hfirst, hlater⟩ := List.forall_mem_cons.1 h
    obtain ⟨point, hclean, hread, hsame⟩ := exists_point hfirst
    obtain ⟨points, hcleans, hreads, hsames⟩ := ih hlater
    exact ⟨point :: points, List.forall_mem_cons.2 ⟨hclean, hcleans⟩, .cons hread hreads,
      .cons hsame hsames⟩

theorem exists_caption {fields : Fields} (hfits : Fits datasetForm fields) {key : String}
    (hmember : Member.caption key ∈ datasetForm) :
    ∃ text : Option String, Fields.get? fields key = text.map .str ∧ ∀ t ∈ text, t ≠ "" := by
  cases hget : Fields.get? fields key with
  | none => exact ⟨none, rfl, fun _ h => nomatch h⟩
  | some value =>
    obtain ⟨text, rfl, hne⟩ := hfits.holds nodup_datasetForm hmember hget
    refine ⟨some text, rfl, ?_⟩
    rintro t ⟨⟩
    exact hne

theorem exists_kind {name : String} (h : name ∈ ["timeseries", "category", "comparison"]) :
    ∃ kind : Category, kind.name = name := by
  simp only [List.mem_cons, List.not_mem_nil, or_false] at h
  rcases h with rfl | rfl | rfl
  · exact ⟨.timeseries, rfl⟩
  · exact ⟨.category, rfl⟩
  · exact ⟨.comparison, rfl⟩

/-- The same data, up to the order of the keys in the data and in the points. -/
def IsSameData (data other : Json) : Prop :=
  ∃ fields entries points, data = .obj fields ∧
    Fields.get? fields "points" = some (.arr entries) ∧ List.Forall₂ IsReordered entries points ∧
      IsReordered (.obj (Fields.put "points" (.arr points) fields)) other

/-- Fields that fit the form of data and hold the parts of clean data are these data. -/
theorem isSameData_of_describes {fields : Fields} {dataset : Dataset} {entries : List Json}
    (hfits : Fits datasetForm fields) (hclean : dataset.IsClean) (h : Describes fields dataset)
    (hentries : Fields.get? fields "points" = some (.arr entries))
    (hsame : List.Forall₂ IsReordered entries (dataset.points.map Point.toJson)) :
    IsSameData (.obj fields) dataset.toJson := by
  obtain ⟨others, hothers, hfits'⟩ := hclean.isObject
  obtain ⟨written, hwritten, hdescribes⟩ := describes_toJson hclean
  obtain rfl : others = written := Json.obj.inj (hothers.symm.trans hwritten)
  obtain ⟨written, hwritten, hpoints, -⟩ := exists_fields_toJson dataset
  obtain rfl : others = written := Json.obj.inj (hothers.symm.trans hwritten)
  -- The points are written in place of the entries; all else is there already.
  have hput : Fits datasetForm
      (Fields.put "points" (.arr (dataset.points.map Point.toJson)) fields) := by
    refine hfits.put (by simp [datasetForm] : Member.points ∈ datasetForm) ?_ ?_
    · exact List.mem_map_of_mem (Fields.mem_of_get? hentries)
    · exact hfits'.holds nodup_datasetForm (by simp [datasetForm]) hpoints
  refine ⟨fields, entries, _, rfl, hentries, hsame, _, others, rfl, hothers, ?_⟩
  apply hput.perm_of_agree hfits'
  intro member hmember
  simp only [datasetForm, List.mem_cons, List.not_mem_nil, or_false] at hmember
  rcases hmember with rfl | rfl | rfl | rfl
  · exact (Fields.get?_put_of_ne (by decide) _ _).trans (h.title.trans hdescribes.title.symm)
  · exact (Fields.get?_put_of_ne (by decide) _ _).trans (h.unit.trans hdescribes.unit.symm)
  · exact (Fields.get?_put_of_ne (by decide) _ _).trans (h.kind.trans hdescribes.kind.symm)
  · exact (Fields.get?_put_self _ _ _).trans hpoints.symm

/-- Data that fit their form are read as clean data, which are the same up to the order of keys. -/
theorem exists_ofFields? {fields : Fields} (hfits : Fits datasetForm fields) :
    ∃ dataset : Dataset, dataset.IsClean ∧ Dataset.ofFields? fields = some dataset ∧
      IsSameData (.obj fields) dataset.toJson := by
  obtain ⟨title, htitle, hne⟩ := exists_caption hfits
    (by simp [datasetForm] : Member.caption "title" ∈ datasetForm)
  obtain ⟨unit, hunit, hne'⟩ := exists_caption hfits
    (by simp [datasetForm] : Member.caption "unit" ∈ datasetForm)
  obtain ⟨_, hkind, name, hname, rfl⟩ :=
    hfits.exists_holds nodup_datasetForm (by simp [datasetForm] : Member.kind ∈ datasetForm) rfl
  obtain ⟨kind, rfl⟩ := exists_kind hname
  obtain ⟨_, hentries, entries, rfl, hone, hlength, hobjects⟩ :=
    hfits.exists_holds nodup_datasetForm (by simp [datasetForm] : Member.points ∈ datasetForm) rfl
  obtain ⟨points, hpoints, hread, hsame⟩ := exists_points hobjects
  rw [hread.length_eq] at hone hlength
  have hclean : Dataset.IsClean ⟨title, unit, kind, points⟩ := ⟨hne, hne', hone, hlength, hpoints⟩
  have hdescribes : Describes fields ⟨title, unit, kind, points⟩ :=
    ⟨htitle, hunit, hkind, entries, hentries, hread⟩
  exact ⟨_, hclean, ofFields?_of_describes hclean hdescribes,
    isSameData_of_describes hfits hclean hdescribes hentries hsame⟩

/-! ## Tidy topics -/

/-- A topic that needs no cleaning. -/
inductive IsTidy (topic : Fields) : Prop
  /-- There are no data, and the mark is `true` if it is there. -/
  | withoutData : Fields.get? topic "dataset" = none →
      (∀ mark, Fields.get? topic "quantifiable" = some mark → mark = .bool true) → IsTidy topic
  /-- There are data that fit their form, and the mark. -/
  | withData {data : Json} : Fields.get? topic "dataset" = some data → IsObject datasetForm data →
      Fields.get? topic "quantifiable" = some (.bool true) → IsTidy topic

/-- The same field, where data may have their keys in another order. -/
def IsSameField (field other : String × Json) : Prop :=
  field.1 = other.1 ∧ (field.2 = other.2 ∨ field.1 = "dataset" ∧ IsSameData field.2 other.2)

section Topic

variable {topic : Fields}

/-- A topic without data is tidy as it is. -/
theorem sanitize_eq_self_of_noData (hdata : Fields.get? topic "dataset" = none)
    (hmark : ∀ mark, Fields.get? topic "quantifiable" = some mark → mark = .bool true) :
    sanitize topic = topic := by
  have hno : ∀ fields, Fields.get? topic "dataset" ≠ some (.obj fields) := by simp [hdata]
  rw [sanitize_of_noData hno, Fields.erase_eq_self hdata]
  split
  · rfl
  · next hnot =>
    apply Fields.erase_eq_self
    rw [Option.eq_none_iff_forall_ne_some]
    intro mark hget
    obtain rfl := hmark mark hget
    exact hnot (isQuantifiable_iff.2 hget)

/-- Data as cleaning writes them are written again as they are. -/
theorem sanitize_eq_self_of_data {dataset : Dataset} (hclean : dataset.IsClean)
    (hdata : Fields.get? topic "dataset" = some dataset.toJson)
    (hmark : Fields.get? topic "quantifiable" = some (.bool true)) : sanitize topic = topic := by
  obtain ⟨fields, hfields, hdescribes⟩ := describes_toJson hclean
  rw [sanitize_of_data (hfields ▸ hdata) (ofFields?_of_describes hclean hdescribes),
    Fields.put_eq_self hdata, Fields.put_eq_self hmark]

/-- What cleaning leaves: a topic without data or one with clean data. -/
theorem sanitize_cases (topic : Fields) :
    (Fields.get? (sanitize topic) "dataset" = none ∧
        ∀ mark, Fields.get? (sanitize topic) "quantifiable" = some mark → mark = .bool true) ∨
      ∃ dataset : Dataset, dataset.IsClean ∧
        Fields.get? (sanitize topic) "dataset" = some dataset.toJson ∧
          Fields.get? (sanitize topic) "quantifiable" = some (.bool true) := by
  by_cases hdata : ∃ fields, Fields.get? topic "dataset" = some (.obj fields)
  · obtain ⟨fields, hfields⟩ := hdata
    cases hdataset : Dataset.ofFields? fields with
    | none =>
      obtain ⟨hnone, hmark⟩ := isBare_erase topic
      rw [sanitize_of_noPoints hfields hdataset, hnone, hmark]
      exact .inl ⟨rfl, fun _ h => nomatch h⟩
    | some dataset =>
      rw [sanitize_of_data hfields hdataset, Fields.get?_put_self,
        Fields.get?_put_of_ne (by decide), Fields.get?_put_self]
      exact .inr ⟨dataset, Dataset.isClean_of_ofFields? hdataset, rfl, rfl⟩
  · obtain ⟨hnone, hmark⟩ := noData_sanitize fun fields h => hdata ⟨fields, h⟩
    exact .inl ⟨hnone, fun mark h => ((hmark mark).1 h).1⟩

/-- A tidy topic is left alone, up to the order of the keys in its data. -/
theorem IsTidy.forall₂_sanitize (h : IsTidy topic) :
    List.Forall₂ IsSameField topic (sanitize topic) := by
  have hsame : ∀ field, IsSameField field field := fun _ => ⟨rfl, .inl rfl⟩
  cases h with
  | withoutData hdata hmark =>
    rw [sanitize_eq_self_of_noData hdata hmark]
    exact List.forall₂_same.2 fun field _ => hsame field
  | withData hdata hobject hmark =>
    obtain ⟨fields, rfl, hfits⟩ := hobject
    obtain ⟨dataset, -, hread, hsameData⟩ := exists_ofFields? hfits
    have hmark' : Fields.get? (Fields.put "dataset" dataset.toJson topic) "quantifiable" =
        some (.bool true) := by
      rw [Fields.get?_put_of_ne (by decide), hmark]
    -- The mark is there already, so only the data are written.
    rw [sanitize_of_data hdata hread, Fields.put_eq_self hmark']
    exact Fields.forall₂_put hsame hdata ⟨rfl, .inr ⟨rfl, hsameData⟩⟩

end Topic

/-- Cleaning a topic a second time changes nothing, the cleaned topic is tidy, and a tidy topic is
left alone up to the order of the keys in its data. -/
theorem settles_sanitize (topic : Fields) :
    sanitize (sanitize topic) = sanitize topic ∧ IsTidy (sanitize topic) ∧
      (IsTidy topic → List.Forall₂ IsSameField topic (sanitize topic)) := by
  refine ⟨?_, ?_, IsTidy.forall₂_sanitize⟩
  · rcases sanitize_cases topic with ⟨hdata, hmark⟩ | ⟨dataset, hclean, hdata, hmark⟩
    · exact sanitize_eq_self_of_noData hdata hmark
    · exact sanitize_eq_self_of_data hclean hdata hmark
  · rcases sanitize_cases topic with ⟨hdata, hmark⟩ | ⟨dataset, hclean, hdata, hmark⟩
    · exact .withoutData hdata hmark
    · exact .withData hdata hclean.isObject hmark

/-- A topic whose data have their keys in an unusual order. -/
def shuffledTopic : Fields :=
  [("quantifiable", .bool true),
    ("dataset", .obj [("points", .arr [.obj [("value", .int 1), ("label", .str "A")]]),
      ("type", .str "comparison")]),
    ("note", .null)]

/-- A tidy topic with its data in another order only has that order changed. -/
theorem settles_sanitize_shuffledTopic :
    IsTidy shuffledTopic ∧ sanitize (sanitize shuffledTopic) = sanitize shuffledTopic ∧
      List.Forall₂ IsSameField shuffledTopic (sanitize shuffledTopic) := by
  have htrimmed : IsTrimmed "A" := by
    rw [← (by decide : Text.trimmed "A" = "A")]
    exact isTrimmed_trimmed "A"
  have hpoint : IsObject pointForm (.obj [("value", .int 1), ("label", .str "A")]) := by
    have hnumber : Fits [.number] [("value", .int 1)] :=
      fits_nil.cons List.not_mem_nil ⟨.int 1, rfl, rfl⟩
    have hlabel : Fits pointForm [("label", .str "A"), ("value", .int 1)] :=
      hnumber.cons (by decide) ⟨"A", rfl, by decide, htrimmed⟩
    exact ⟨_, rfl, hlabel.perm (.swap ..)⟩
  have hpoints : Fits [.points]
      [("points", .arr [.obj [("value", .int 1), ("label", .str "A")]])] :=
    fits_nil.cons List.not_mem_nil
      ⟨_, rfl, by decide, by decide, fun entry hentry => List.mem_singleton.1 hentry ▸ hpoint⟩
  have hkind : Fits [.kind, .points] [("type", .str "comparison"),
      ("points", .arr [.obj [("value", .int 1), ("label", .str "A")]])] :=
    hpoints.cons (by decide) ⟨"comparison", by decide, rfl⟩
  have hdata : IsObject datasetForm (.obj
      [("points", .arr [.obj [("value", .int 1), ("label", .str "A")]]),
        ("type", .str "comparison")]) :=
    ⟨_, rfl, ((hkind.skip rfl).skip rfl).perm (.swap ..)⟩
  -- The forms allow any order, so the topic is tidy though its fields are shuffled.
  have htidy : IsTidy shuffledTopic := .withData rfl hdata rfl
  obtain ⟨htwice, -, hsame⟩ := settles_sanitize shuffledTopic
  exact ⟨htidy, htwice, hsame htidy⟩

end DeckPlan.Topics
