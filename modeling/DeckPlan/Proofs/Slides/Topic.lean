import DeckPlan.Proofs.Sheets.Chart
import DeckPlan.Slides.Topic

/-!
# The calls and the requests for one topic

A `Draft` is a topic with what the outside answers while its slides are prepared. It tells which
calls are made for the topic (`Draft.steps`) and which requests they lead to (`Draft.slides`);
`follows_topicRequests` says that `topicRequests` makes these calls and yields these requests.

`chartData?` reads the data that a topic is charted from without failing.
-/

namespace DeckPlan.Slides

/-! ## What a topic holds -/

/-- The data that a topic is charted from: a dataset with points. -/
def chartData? (topic : Json) : Option Json :=
  (topic.field? "dataset").filter fun dataset => (dataset.field? "points").any Json.isGiven

/-- Slides can be made of a topic: its title and its summary are texts, and if it has data, a chart
can be drawn of them. -/
structure IsWritable (spreadsheet : String) (topic : Json) : Prop where
  content : ∃ content, TopicContent.of topic = .ok content
  spreadsheet : ∀ dataset, chartData? topic = some dataset → Text.isBlankText spreadsheet = false
  dataset : ∀ dataset, chartData? topic = some dataset → Sheets.IsChartable dataset

/-- A dataset has points if the value under that key is given. -/
theorem hasPoints_eq_ok {dataset : Json} {charted : Bool} (h : hasPoints dataset = .ok charted) :
    charted = (dataset.field? "points").any Json.isGiven := by
  obtain ⟨points, hpoints, hcharted⟩ := bind_eq_ok.1 h
  obtain ⟨-, -, rfl⟩ := Json.field_eq_ok.1 hpoints
  cases hcharted
  cases dataset.field? "points" <;> rfl

/-- What is not given has no fields. -/
theorem field?_of_not_isGiven {value : Json} (h : value.isGiven = false) (key : String) :
    value.field? key = none := by
  cases value with
  | obj fields =>
    cases fields with
    | nil => rfl
    | cons => cases h
  | _ => rfl

/-- The slides show the data that the topic is charted from. -/
theorem TopicContent.dataset_eq {topic : Json} {content : TopicContent}
    (h : TopicContent.of topic = .ok content) : content.dataset = chartData? topic := by
  obtain ⟨label, -, h⟩ := bind_eq_ok.1 h
  obtain ⟨titleField, -, h⟩ := bind_eq_ok.1 h
  obtain ⟨title, -, h⟩ := bind_eq_ok.1 h
  obtain ⟨image, -, h⟩ := bind_eq_ok.1 h
  obtain ⟨summaryField, -, h⟩ := bind_eq_ok.1 h
  obtain ⟨summary, -, h⟩ := bind_eq_ok.1 h
  obtain ⟨dataset, hdataset, h⟩ := bind_eq_ok.1 h
  obtain ⟨-, -, hfound⟩ := Json.field_eq_ok.1 hdataset
  -- Data without points count as none, and so does what is empty, zero or null.
  have hcontent : content.dataset =
      if (dataset.field? "points").any Json.isGiven then some dataset else none := by
    cases hgiven : dataset.isGiven with
    | true =>
      simp only [hgiven, if_true] at h
      obtain ⟨charted, hcharted, hend⟩ := bind_eq_ok.1 h
      cases hend
      rw [← hasPoints_eq_ok hcharted]
    | false =>
      simp only [hgiven, Bool.false_eq_true, if_false] at h
      cases h
      rw [field?_of_not_isGiven hgiven]
      rfl
  rw [hcontent, chartData?]
  cases hfield : topic.field? "dataset" with
  | none =>
    obtain rfl : dataset = .null := by rw [hfound, hfield, Option.getD_none]
    rfl
  | some found =>
    obtain rfl : dataset = found := by rw [hfound, hfield, Option.getD_some]
    rw [Option.filter_some]

/-! ## The chart of a topic -/

/-- The chart of a topic as it stands on its slide. -/
def topicEmbed (name : String → String) (spreadsheet : String) (chart : Json) : ChartEmbed where
  object := if (name "chart").isEmpty then "MyEmbeddedChart" else name "chart"
  spreadsheet := spreadsheet
  chart := chart
  page := name "chart_slide"
  x := .float (.ofNat 100000)
  y := .float (.ofNat 160000)
  width := .float (.ofNat 4000000)
  height := .float (.ofNat 3000000)

/-- The requests for the slide with the chart of a topic. -/
def chartRequests (name : String → String) (spreadsheet : String) (chart : Json) : List Request :=
  [.createSlide (name "chart_slide"), .embedChart (topicEmbed name spreadsheet chart)]

/-- The size and the place that charts of topics get make sense, so they are kept. -/
theorem chartSlide_eq (name : String → String) (spreadsheet : String) (chart : Json) :
    chartSlide name spreadsheet chart = .ok (chartRequests name spreadsheet chart) := by
  rfl

/-! ## Drafts -/

/-- A topic with what the outside answers while its slides are prepared. -/
structure Draft where
  topic : Json
  /-- The suffix that was drawn for the names of the topic's objects. -/
  suffix : String
  /-- What the sheets service answers while the topic's chart is drawn, if it has one. -/
  replies : Sheets.ChartReplies

/-- The title of the table of the topic with the given number, where counting starts at zero. -/
def tabTitle (index : Nat) : String :=
  Sheets.tableTitle (index + 1 : Nat)

namespace Draft

/-- The draft of a topic that is not prepared. -/
def unprepared (topic : Json) : Draft :=
  { topic, suffix := "", replies := default }

theorem map_topic_unprepared (topics : List Json) : (topics.map unprepared).map topic = topics := by
  rw [List.map_map]
  exact List.map_id' topics

/-- The names of the topic's objects. -/
def name (draft : Draft) (index : Nat) (kind : String) : String :=
  objectName kind index draft.suffix

/-- The identifier that the sheets service gave the topic's chart. -/
def chart (draft : Draft) : Json :=
  (Sheets.addedChart? draft.replies.charted).getD .null

/-- The calls for the topic: those that draw its chart, if it has data. -/
def steps (spreadsheet : String) (draft : Draft) (index : Nat) : List Step :=
  match chartData? draft.topic with
  | some dataset => Sheets.chartSteps spreadsheet (tabTitle index) dataset draft.replies
  | none => []

/-- The requests for the chart's slide of the topic, if it has data. -/
def chartSlides (spreadsheet : String) (draft : Draft) (index : Nat) : List Request :=
  match chartData? draft.topic with
  | some _ => chartRequests (draft.name index) spreadsheet draft.chart
  | none => []

/-- The requests for the slides of the topic. -/
def slides (spreadsheet : String) (draft : Draft) (index : Nat) : List Request :=
  match TopicContent.of draft.topic with
  | .ok content =>
    titleSlide (draft.name index) content ++ summarySlide (draft.name index) content ++
      draft.chartSlides spreadsheet index
  | .error _ => []

end Draft

/-! ## The slides and the charts among the requests -/

/-- Whether a request adds a slide. -/
def Request.addsSlide : Request → Bool
  | .createSlide _ => true
  | _ => false

/-- The chart that a request puts on a slide. -/
def Request.chart? : Request → Option Json
  | .embedChart embed => some embed.chart
  | _ => none

/-- A text box adds no slide and shows no chart. -/
theorem countP_addsSlide_textBox (object page : String) (box : Box) (markup : String) :
    (textBox object page box markup).countP Request.addsSlide = 0 := by
  simp [textBox, Request.addsSlide]

theorem filterMap_chart?_textBox (object page : String) (box : Box) (markup : String) :
    (textBox object page box markup).filterMap Request.chart? = [] := by
  simp [textBox, Request.chart?]

/-- The requests for a title add one slide. -/
theorem countP_addsSlide_titleSlide (name : String → String) (content : TopicContent) :
    (titleSlide name content).countP Request.addsSlide = 1 := by
  rw [titleSlide, List.countP_append, List.countP_cons_of_pos rfl, countP_addsSlide_textBox]
  cases content.image <;> rfl

/-- The requests for a summary add one slide. -/
theorem countP_addsSlide_summarySlide (name : String → String) (content : TopicContent) :
    (summarySlide name content).countP Request.addsSlide = 1 := by
  rw [summarySlide, List.countP_cons_of_pos rfl, countP_addsSlide_textBox]

theorem filterMap_chart?_titleSlide (name : String → String) (content : TopicContent) :
    (titleSlide name content).filterMap Request.chart? = [] := by
  rw [titleSlide, List.filterMap_append, List.filterMap_cons_none rfl, filterMap_chart?_textBox]
  cases content.image <;> rfl

theorem filterMap_chart?_summarySlide (name : String → String) (content : TopicContent) :
    (summarySlide name content).filterMap Request.chart? = [] := by
  rw [summarySlide, List.filterMap_cons_none rfl, filterMap_chart?_textBox]

namespace Draft

variable {spreadsheet : String} {draft : Draft} {index : Nat}

/-- A topic gets two slides, and a third one if it has data. -/
theorem countP_addsSlide_slides (h : ∃ content, TopicContent.of draft.topic = .ok content) :
    (draft.slides spreadsheet index).countP Request.addsSlide =
      2 + (chartData? draft.topic).toList.length := by
  obtain ⟨content, hcontent⟩ := h
  rw [slides, hcontent, chartSlides]
  simp only [List.countP_append, countP_addsSlide_titleSlide, countP_addsSlide_summarySlide]
  cases chartData? draft.topic <;> rfl

/-- The chart on a topic's slides is the one that was drawn for the topic. -/
theorem filterMap_chart?_slides (h : ∃ content, TopicContent.of draft.topic = .ok content) :
    (draft.slides spreadsheet index).filterMap Request.chart? =
      (chartData? draft.topic).toList.map fun _ => draft.chart := by
  obtain ⟨content, hcontent⟩ := h
  rw [slides, hcontent, chartSlides]
  simp only [List.filterMap_append, filterMap_chart?_titleSlide, filterMap_chart?_summarySlide]
  cases chartData? draft.topic <;> rfl

/-- Every topic that can be read gets slides. -/
theorem slides_ne_nil (h : ∃ content, TopicContent.of draft.topic = .ok content) :
    draft.slides spreadsheet index ≠ [] := by
  intro hnil
  have hcount : (draft.slides spreadsheet index).countP Request.addsSlide = _ :=
    countP_addsSlide_slides h
  rw [hnil, List.countP_nil] at hcount
  omega

end Draft

/-! ## The order for one topic -/

/-- The title of a topic's table is not blank, so the table is drawn under it. -/
theorem tabOf_tabTitle (index : Nat) : Sheets.tabOf (tabTitle index) = tabTitle index := by
  rw [Sheets.tabOf, if_neg]
  intro hblank
  -- The first letter of the title is not blank.
  have hfirst : 'D' ∈ (tabTitle index).toList := by
    rw [tabTitle, Sheets.tableTitle, String.toList_append]
    exact List.mem_append_left _ (by decide)
  exact absurd (List.all_eq_true.1 hblank _ hfirst) (by decide)

/-- Whoever draws the chart of a topic follows the order of a chart. -/
theorem follows_drawTopicChart {spreadsheet : String} {index : Nat} {label dataset : Json}
    {exchanges : List Exchange} {outcome : Except Fault Json}
    (h : (drawTopicChart spreadsheet index label dataset).Dialogue exchanges outcome) :
    ∃ replies,
      Follows (Text.isBlankText spreadsheet = false ∧ Sheets.IsChartable dataset)
        (Sheets.chartSteps spreadsheet (tabTitle index) dataset replies) exchanges outcome ∧
      ∀ chart, outcome = .ok chart → Sheets.addedChart? replies.charted = some chart := by
  obtain ⟨result, hdraw, rfl⟩ := Program.trace_recover_fail.1 h
  obtain ⟨replies, hfollows, hchart⟩ := Sheets.follows_drawChart hdraw
  rw [show Sheets.tableTitle ((index : Int) + 1) = tabTitle index from rfl, tabOf_tabTitle]
    at hfollows
  cases result with
  | ok chart => exact ⟨replies, hfollows, hchart⟩
  | error fault => exact ⟨replies, hfollows.congr id rfl, fun _ h => nomatch h⟩

/-- Whoever prepares the slides of a topic follows the order of its draft. -/
theorem follows_topicRequests {spreadsheet : String} {index : Nat} {topic : Json}
    {exchanges : List Exchange} {outcome : Except Fault (List Request)}
    (h : (topicRequests spreadsheet index topic).Dialogue exchanges outcome) :
    ∃ draft : Draft, draft.topic = topic ∧
      Follows (IsWritable spreadsheet topic) (draft.steps spreadsheet index) exchanges outcome ∧
      ∀ requests, outcome = .ok requests →
        requests = draft.slides spreadsheet index ∧
          ∃ content, TopicContent.of topic = .ok content := by
  obtain ⟨suffix, hsuffix⟩ := Program.dialogue_drawSuffix_bind.1 h
  -- A topic that cannot be read is not writable, so nothing is asked of the draft.
  rcases Program.trace_ofExcept_bind.1 hsuffix with
    ⟨fault, hcontent, rfl, rfl⟩ | ⟨content, hcontent, hslides⟩
  · refine ⟨.unprepared topic, rfl, .unusable _ fun husable => ?_, fun _ h => nomatch h⟩
    obtain ⟨content, hok⟩ := husable.content
    rw [hok] at hcontent
    cases hcontent
  have hdata := TopicContent.dataset_eq hcontent
  split at hslides
  · next hnone =>
    obtain ⟨rfl, rfl⟩ := hslides
    rw [hnone] at hdata
    refine ⟨⟨topic, suffix, default⟩, rfl, ?_, fun requests heq => ⟨?_, content, hcontent⟩⟩
    · rw [Draft.steps, ← hdata]
      exact .complete _
    · cases heq
      rw [Draft.slides, hcontent, Draft.chartSlides, ← hdata]
      exact (List.append_nil _).symm
  · next dataset hsome =>
    rw [hsome] at hdata
    -- What the chart needs is part of what the topic needs to be writable.
    have husable : IsWritable spreadsheet topic →
        Text.isBlankText spreadsheet = false ∧ Sheets.IsChartable dataset :=
      fun h => ⟨h.spreadsheet dataset hdata.symm, h.dataset dataset hdata.symm⟩
    have hsteps : ∀ replies, (Draft.mk topic suffix replies).steps spreadsheet index =
        Sheets.chartSteps spreadsheet (tabTitle index) dataset replies := by
      intro replies
      rw [Draft.steps, ← hdata]
    rcases Program.trace_bind.1 hslides with
      ⟨fault, hchart, rfl⟩ | ⟨chart, first, second, rfl, hchart, hend⟩
    · obtain ⟨replies, hfollows, -⟩ := follows_drawTopicChart hchart
      refine ⟨⟨topic, suffix, replies⟩, rfl, ?_, fun _ h => nomatch h⟩
      rw [hsteps]
      exact hfollows.congr husable rfl
    · obtain ⟨replies, hfollows, hadded⟩ := follows_drawTopicChart hchart
      rw [chartSlide_eq] at hend
      obtain ⟨rfl, rfl⟩ := hend
      refine ⟨⟨topic, suffix, replies⟩, rfl, ?_, fun requests heq => ⟨?_, content, hcontent⟩⟩
      · rw [hsteps, List.append_nil]
        exact hfollows.congr husable rfl
      · cases heq
        rw [Draft.slides, hcontent, Draft.chartSlides, ← hdata, Draft.chart, hadded chart rfl]
        rfl

end DeckPlan.Slides
