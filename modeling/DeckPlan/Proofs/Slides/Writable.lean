import DeckPlan.Proofs.Sheets.Served
import DeckPlan.Proofs.Slides.Topic
import DeckPlan.Proofs.Topics.Points
import DeckPlan.Topics.Answer

/-!
# Whatever the model sends can be written

The schema of topics is strict enough for the writer: slides can be made of every topic that fits it
(`IsTopic.isWritable`). The data of such a topic come from what the model sent: each point that
is usable (`isUsable`) has its row in the table, with its value as it was sent (`tableOf_toJson`).

`topicRequests_normalize` puts the two together: if the sheets service does what it is asked, the
slides of a normalized topic are always prepared, and its table holds the usable points.
-/

namespace DeckPlan.Topics

/-! ## What fits the schema can be written -/

/-- A chart can be drawn of data that fit their form. -/
theorem IsObject.isChartable {dataset : Json} (h : IsObject datasetForm dataset) :
    Sheets.IsChartable dataset := by
  obtain ⟨fields, rfl, hfits⟩ := h
  have hmember : Member.points ∈ datasetForm := by simp [datasetForm]
  obtain ⟨_, hget, points, rfl, hlength, -, hpoints⟩ :=
    hfits.exists_holds nodup_datasetForm hmember rfl
  have hlisted : Sheets.pointsOf (.obj fields) = points := by
    rw [Sheets.pointsOf, show (Json.obj fields).field? "points" = some (.arr points) from hget]
  have hparts : ∀ member ∈ pointForm, member.isRequired = true → ∀ point ∈ points,
      (point.field? member.key).isSome := by
    intro member hmember hrequired point hpoint
    obtain ⟨parts, rfl, hparts⟩ := hpoints point hpoint
    obtain ⟨value, hvalue, -⟩ := hparts.exists_holds nodup_pointForm hmember hrequired
    exact Option.isSome_of_mem hvalue
  refine ⟨?_, ?_, ?_⟩ <;> rw [hlisted]
  · exact List.ne_nil_of_length_pos hlength
  · exact hparts .label (by simp [pointForm]) rfl
  · exact hparts .number (by simp [pointForm]) rfl

section Topic

variable {topic : Fields}

/-- A topic has a text under each of its headings. -/
theorem IsTopic.exists_heading (h : IsTopic topic) {key : String}
    (hmember : Member.heading key ∈ topicForm) :
    ∃ text, Fields.get? topic key = some (.str text) := by
  obtain ⟨_, hget, text, rfl, -⟩ := h.fits.exists_holds nodup_topicForm hmember rfl
  exact ⟨text, hget⟩

/-- The data of a topic have the form of data. -/
theorem IsTopic.isObject_dataset (h : IsTopic topic) {dataset : Json}
    (hdataset : Fields.get? topic "dataset" = some dataset) : IsObject datasetForm dataset := by
  have hmember : Member.dataset ∈ topicForm := by simp [topicForm]
  exact h.fits.holds nodup_topicForm hmember hdataset

/-- A topic is charted if it has data. -/
theorem IsTopic.chartData?_eq (h : IsTopic topic) :
    Slides.chartData? (.obj topic) = Fields.get? topic "dataset" := by
  have hfield : (Json.obj topic).field? "dataset" = Fields.get? topic "dataset" := rfl
  rw [Slides.chartData?, hfield]
  cases hdataset : Fields.get? topic "dataset" with
  | none => rfl
  | some dataset =>
    have hchartable := (h.isObject_dataset hdataset).isChartable
    obtain ⟨fields, rfl, hpoints⟩ := Json.field_eq_ok.1 hchartable.field_eq
    have hgiven := hchartable.isGiven_points
    rw [hpoints] at hgiven
    cases hfound : (Json.obj fields).field? "points" with
    | none =>
      rw [hfound] at hgiven
      cases hgiven
    | some points =>
      rw [hfound, Option.getD_some] at hgiven
      rw [Option.filter_some, hfound, Option.any_some, hgiven, if_pos rfl]

/-- Slides can be made of whatever fits the schema of topics. -/
theorem IsTopic.isWritable (h : IsTopic topic) {spreadsheet : String}
    (hspreadsheet : Text.isBlankText spreadsheet = false) :
    Slides.IsWritable spreadsheet (.obj topic) := by
  have hfield : ∀ key default, (Json.obj topic).field key default =
      .ok ((Fields.get? topic key).getD default) := fun _ _ => rfl
  obtain ⟨title, htitle⟩ := h.exists_heading (by simp [topicForm] : Member.heading "topic" ∈ _)
  obtain ⟨summary, hsummary⟩ :=
    h.exists_heading (by simp [topicForm] : Member.heading "summary" ∈ _)
  refine ⟨?_, fun _ _ => hspreadsheet, fun dataset hdataset => ?_⟩
  -- The content: both headings are texts, and data are objects.
  · have hpoints : ∀ fields, Slides.hasPoints (.obj fields) =
        .ok (((Fields.get? fields "points").getD .null).isGiven) := fun _ => rfl
    simp only [Slides.TopicContent.of, hfield, htitle, hsummary, Option.getD_some, Json.text,
      bind, Except.bind]
    cases hdataset : Fields.get? topic "dataset" with
    | none => exact ⟨_, rfl⟩
    | some dataset =>
      obtain ⟨fields, rfl, -⟩ := h.isObject_dataset hdataset
      simp only [Option.getD_some, hpoints]
      split <;> exact ⟨_, rfl⟩
  · rw [h.chartData?_eq] at hdataset
    exact (h.isObject_dataset hdataset).isChartable

end Topic

/-! ## The rows of the points that are kept -/

/-- The row of a point that the model sent, with the value that it sent. -/
def rowOf (point : Json) : List Json :=
  [.str (labelOf point), Sheets.partOf "value" point]

/-- The kept points have the rows of the points that were sent. -/
theorem rows_usable (raws : List Json) :
    (raws.filterMap Point.ofJson?).map (fun point => [.str point.label, .ofNumber point.value]) =
      (raws.filter isUsable).map rowOf := by
  induction raws with
  | nil => rfl
  | cons raw raws ih =>
    rw [List.filter_cons, ← isSome_ofJson?]
    cases hpoint : Point.ofJson? raw with
    | none => rw [List.filterMap_cons_none hpoint, ih]; rfl
    | some point =>
      obtain ⟨hlabel, -, hvalue, -⟩ := Point.ofJson?_eq_some.1 hpoint
      rw [List.filterMap_cons_some hpoint, List.map_cons, ih]
      simp [rowOf, hlabel, Sheets.partOf, hvalue]

/-! ## The table of the data that are kept -/

section Table

variable {fields : Fields} {dataset : Dataset}

/-- The points that are charted are those of the data. -/
theorem pointsOf_toJson (dataset : Dataset) :
    Sheets.pointsOf dataset.toJson = dataset.points.map Point.toJson := by
  have hget : dataset.toJson.field? "points" = some (.arr (dataset.points.map Point.toJson)) := by
    obtain ⟨title, unit, kind, points⟩ := dataset
    cases title <;> cases unit <;> rfl
  rw [Sheets.pointsOf, hget]

/-- The header of the values names the unit that was sent. -/
theorem valueHeader_toJson (h : Dataset.ofFields? fields = some dataset) :
    Sheets.valueHeader dataset.toJson = Sheets.valueHeader (.obj fields) := by
  have hget : dataset.toJson.field? "unit" = dataset.unit.map .str := by
    obtain ⟨title, unit, kind, points⟩ := dataset
    cases title <;> cases unit <;> rfl
  have hraw : ((Json.obj fields).field? "unit").filter Json.isGiven = Json.given? fields "unit" :=
    rfl
  rw [Sheets.valueHeader, Sheets.valueHeader, hraw, hget, unit_of_ofFields? h]
  cases hunit : Json.given? fields "unit" with
  | none => rfl
  | some unit =>
    have hne : unit.display ≠ "" := display_ne_empty (Option.filter_eq_some_iff.1 hunit).2
    have hgiven : (Json.str unit.display).isGiven = true := by simpa [Json.isGiven] using hne
    rw [Option.map_some, Option.map_some, Option.filter_some, hgiven, if_pos rfl]
    rfl

/-- The table of the kept data has a row for each usable point that was sent. -/
theorem tableOf_toJson (h : Dataset.ofFields? fields = some dataset) :
    Sheets.tableOf dataset.toJson =
      [.str "Label", .str (Sheets.valueHeader (.obj fields))] ::
        (survivors fields).map rowOf := by
  rw [Sheets.tableOf, valueHeader_toJson h, pointsOf_toJson, survivors, ← rows_usable,
    ← points_of_ofFields? h, List.map_map]
  rfl

end Table

/-- The data of a topic are those that are kept of the data that the model sent. -/
theorem get?_dataset_normalize (topic : Fields) :
    Fields.get? (normalize topic) "dataset" =
      (((Fields.get? topic "dataset").bind fields?).bind Dataset.ofFields?).map Dataset.toJson := by
  rw [normalize, sanitize, get?_dataset_knownFields]
  split
  · next fields hfields =>
    rw [hfields]
    change _ = (Dataset.ofFields? fields).map Dataset.toJson
    cases Dataset.ofFields? fields with
    | some dataset =>
      rw [Fields.get?_put_of_ne (by decide), Fields.get?_put_self, Option.map_some]
    | none =>
      rw [Fields.get?_erase_of_ne (by decide), Fields.get?_erase_self, Option.map_none]
  · next hno =>
    -- What is no object is dropped.
    have hnone : (Fields.get? topic "dataset").bind fields? = none := by
      cases hdataset : Fields.get? topic "dataset" with
      | none => rfl
      | some dataset =>
        cases dataset with
        | obj fields => exact absurd hdataset (hno fields)
        | _ => rfl
    rw [hnone]
    dsimp only
    split
    · rw [Fields.get?_erase_self]
      rfl
    · rw [Fields.get?_erase_of_ne (by decide), Fields.get?_erase_self]
      rfl

end DeckPlan.Topics

namespace DeckPlan.Slides

open Topics (normalize survivors rowOf)

variable {σ : Type}

/-- The cells that a call writes, and what it writes there. -/
def written? : Call → Option (Sheets.CellRange × List (List Json))
  | .valuesUpdate _ range rows => some (range, rows)
  | _ => none

/-- The only cells that are written for a chart are those of its table. -/
theorem filterMap_written?_chartSteps (spreadsheet tab : String) (dataset : Json)
    (replies : Sheets.ChartReplies) :
    ((Sheets.chartSteps spreadsheet tab dataset replies).map Step.call).filterMap written? =
      [({ sheet := tab, cells := "A1:B" }, Sheets.tableOf dataset)] := by
  rw [Sheets.chartSteps, Sheets.sheetSteps]
  split <;> rfl

/-- The calls for a topic that fits the schema: those that draw the chart of its data. -/
theorem steps_of_isTopic {topic : Fields} (htopic : Topics.IsTopic topic) {draft : Draft}
    (hdraft : draft.topic = .obj topic) (spreadsheet : String) (index : Nat) :
    draft.steps spreadsheet index = ((Fields.get? topic "dataset").map fun dataset =>
      Sheets.chartSteps spreadsheet (tabTitle index) dataset draft.replies).getD [] := by
  rw [Draft.steps, hdraft, htopic.chartData?_eq]
  cases Fields.get? topic "dataset" <;> rfl

/-- If the service does what it is asked, whatever fits the schema gets its slides, and all calls
for its chart are made. -/
theorem exists_requests_of_isTopic {topic : Fields} (htopic : Topics.IsTopic topic)
    {spreadsheet : String} (hspreadsheet : Text.isBlankText spreadsheet = false) {index : Nat}
    {exchanges : List Exchange} {outcome : Except Fault (List Request)}
    (h : (topicRequests spreadsheet index (.obj topic)).Dialogue exchanges outcome)
    (hserved : ∀ exchange ∈ exchanges, Sheets.IsServed exchange) :
    (∃ requests, outcome = .ok requests) ∧
      ∃ replies, exchanges.map Exchange.call =
        (((Fields.get? topic "dataset").map fun dataset =>
          Sheets.chartSteps spreadsheet (tabTitle index) dataset replies).getD []).map
            Step.call := by
  obtain ⟨draft, hdraft, hfollows, -⟩ := follows_topicRequests h
  rw [steps_of_isTopic htopic hdraft] at hfollows
  -- No step is refused, so the order is followed to its end.
  obtain ⟨requests, rfl⟩ := hfollows.exists_eq_ok (htopic.isWritable hspreadsheet) <| by
    intro step hstep exchange hexchange
    cases hdataset : Fields.get? topic "dataset" with
    | none =>
      rw [hdataset] at hstep
      cases hstep
    | some dataset =>
      rw [hdataset] at hstep
      exact Sheets.not_refuses_of_isServed hstep (hserved exchange hexchange)
  refine ⟨⟨requests, rfl⟩, draft.replies, ?_⟩
  rw [hfollows.eq_of_ok, List.map_map]
  rfl

/-- Whatever the model sends as a topic, its slides are prepared if the service does what it is
asked. There are calls exactly if the topic has data, and then the only cells that are written are
those of the table: the header and the usable points in their order, with their values as sent. -/
theorem topicRequests_normalize (answer : (action : Action) → σ → action.Answer × σ) (state : σ)
    {spreadsheet : String} (hspreadsheet : Text.isBlankText spreadsheet = false) (index : Nat)
    (topic : Fields)
    (hserved : ∀ exchange ∈ (topicRequests spreadsheet index (.obj (normalize topic))).transcript
      answer state, Sheets.IsServed exchange) :
    let program := topicRequests spreadsheet index (.obj (normalize topic))
    let calls := (program.transcript answer state).map Exchange.call
    (∃ requests, (program.run answer state).1 = .ok requests) ∧
      (∀ call ∈ calls, Sheets.spreadsheet? call = some spreadsheet) ∧
      (calls ≠ [] ↔ (Fields.get? (normalize topic) "dataset").isSome) ∧
      ((Fields.get? (normalize topic) "dataset").isSome →
        ∃ fields, Fields.get? topic "dataset" = some (.obj fields) ∧
          calls.filterMap written? =
            [({ sheet := "Data_" ++ toString (index + 1), cells := "A1:B" },
              [.str "Label", .str (Sheets.valueHeader (.obj fields))] ::
                (survivors fields).map rowOf)]) := by
  intro program calls
  obtain ⟨hresult, replies, hcalls⟩ := exists_requests_of_isTopic (Topics.isTopic_normalize topic)
    hspreadsheet (Program.dialogue_transcript answer program state) hserved
  change calls = _ at hcalls
  refine ⟨hresult, ?_⟩
  rw [hcalls, Topics.get?_dataset_normalize]
  -- There is a table only if the topic has data that are an object and leave a point.
  cases hraw : (Fields.get? topic "dataset").bind Topics.fields? with
  | none => simp
  | some fields =>
    have hfields : Fields.get? topic "dataset" = some (.obj fields) := by
      obtain ⟨value, hvalue, hobject⟩ := Option.bind_eq_some_iff.1 hraw
      cases value <;> cases hobject
      exact hvalue
    rw [Option.bind_some]
    cases hdataset : Topics.Dataset.ofFields? fields with
    | none => simp
    | some dataset =>
      rw [Option.map_some, Option.map_some, Option.getD_some]
      refine ⟨?_, ?_, fun _ => ⟨fields, hfields, ?_⟩⟩
      · rintro _ hcall
        obtain ⟨step, hstep, rfl⟩ := List.mem_map.1 hcall
        exact Sheets.spreadsheet?_of_mem_chartSteps hstep
      · simp [Sheets.chartSteps, Sheets.sheetSteps]
      · rw [filterMap_written?_chartSteps, Topics.tableOf_toJson hdataset]
        rfl

/-- A service without any sheets that does what it is asked. -/
def serveAll : (action : Action) → Unit → action.Answer × Unit :=
  answerCalls fun
    | .sheetsUpdate .., _ =>
      (.ok (.obj [("replies", .arr [.obj
        [("addSheet", .obj [("properties", .obj [("sheetId", .int 7)])]),
          ("addChart", .obj [("chart", .obj [("chartId", .int 8)])])]])]), ())
    | request, _ => (request.quietReply, ())

theorem isServed_serveAll (request : Call) (state : Unit) :
    Sheets.IsServed ⟨request, (serveAll (.call request) state).1⟩ := by
  cases request with
  | sheetsGet =>
    refine ⟨.obj [], rfl, ⟨⟨[], rfl⟩, ?_, ?_, ?_, ?_⟩⟩
    · intro sheets hsheets
      cases hsheets
    all_goals exact fun _ hmem => nomatch hmem
  | sheetsUpdate => exact ⟨_, rfl, fun _ _ => rfl, fun _ _ => rfl⟩
  | valuesClear => exact ⟨_, rfl⟩
  | valuesUpdate => exact ⟨_, rfl⟩
  | _ => trivial

/-- Three points, the second of which has no value. -/
def weights : Fields :=
  [("topic", .null),
    ("dataset", .obj [("unit", .str "kg"), ("points", .arr
      [.obj [("label", .str " A "), ("value", .int 1)], .obj [("label", .str "B")],
        .obj [("value", .int 3), ("label", .int 5)]])])]

/-- Points with a unit and a label that is a number are written as they are normalized. -/
theorem topicRequests_normalize_weights :
    (∃ requests, ((topicRequests "book" 0 (.obj (normalize weights))).run serveAll ()).1 =
      .ok requests) ∧
      (((topicRequests "book" 0 (.obj (normalize weights))).transcript serveAll ()).map
        Exchange.call).filterMap written? =
          [({ sheet := "Data_1", cells := "A1:B" },
            [[.str "Label", .str "Value (kg)"], [.str "A", .int 1], [.str "5", .int 3]])] := by
  have hspreadsheet : Text.isBlankText "book" = false := by decide
  obtain ⟨hresult, -, -, hwritten⟩ := topicRequests_normalize serveAll () hspreadsheet 0 weights
    (Program.forall_mem_transcript isServed_serveAll _ ())
  refine ⟨hresult, ?_⟩
  obtain ⟨fields, hfields, hrows⟩ := hwritten (by decide +kernel)
  cases hfields
  rw [show ((0 : Nat) : Int) = 0 from rfl] at hrows
  rw [hrows]
  rfl

end DeckPlan.Slides
