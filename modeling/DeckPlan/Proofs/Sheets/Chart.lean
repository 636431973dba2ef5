import DeckPlan.Proofs.Sheets.Listing
import DeckPlan.Sheets.Chart

/-!
# The calls that draw a chart

A chart is drawn in a fixed order of calls (`chartSteps`): the sheet of its table is found or added,
emptied and filled, and the chart of it is added. `follows_drawChart` says that `drawChart` follows
this order and yields the identifier that the service gives the chart.

`tableOf` is the table of a dataset that can be charted (`IsChartable`), read off the dataset
without failing.
-/

namespace DeckPlan.Sheets

/-! ## The table of a dataset -/

/-- The points of a dataset. -/
def pointsOf (dataset : Json) : List Json :=
  match dataset.field? "points" with
  | some (.arr points) => points
  | _ => []

/-- A part of a point. -/
def partOf (key : String) (point : Json) : Json :=
  (point.field? key).getD .null

/-- The rows of the table of a dataset: the header, then the label and the value of each point. -/
def tableOf (dataset : Json) : List (List Json) :=
  [.str "Label", .str (valueHeader dataset)] ::
    (pointsOf dataset).map fun point => [partOf "label" point, partOf "value" point]

/-- A dataset has a chart: it has points, and each of them has a label and a value. -/
structure IsChartable (dataset : Json) : Prop where
  points_ne_nil : pointsOf dataset ≠ []
  label : ∀ point ∈ pointsOf dataset, (point.field? "label").isSome
  value : ∀ point ∈ pointsOf dataset, (point.field? "value").isSome

theorem tableOf_eq (dataset : Json) :
    tableOf dataset = tableRows ((pointsOf dataset).map (partOf "label")) (valueHeader dataset)
      ((pointsOf dataset).map (partOf "value")) := by
  rw [tableOf, tableRows, List.zipWith_map_left, List.zipWith_map_right, List.zipWith_self]

/-- A table has a row for each point and one for its header. -/
theorem length_tableOf (dataset : Json) :
    (tableOf dataset).length = (pointsOf dataset).length + 1 := by
  rw [tableOf, List.length_cons, List.length_map]

/-- A part of a point that is read is the part that is written. -/
theorem require_eq_partOf {key : String} {point part : Json} (h : point.require key = .ok part) :
    part = partOf key point := by
  rw [partOf, Json.require_eq_ok.1 h, Option.getD_some]

theorem require_of_isSome {key : String} {point : Json} (h : (point.field? key).isSome) :
    point.require key = .ok (partOf key point) := by
  obtain ⟨part, hpart⟩ := Option.isSome_iff_exists.1 h
  rw [partOf, hpart, Option.getD_some]
  exact Json.require_eq_ok.2 hpart

/-- Points that can be read are an array: a string has no parts. -/
theorem eq_arr_of_require {key : String} {points : Json} {items parts : List Json}
    (hgiven : points.isGiven = true) (hitems : points.items = .ok items)
    (hparts : items.mapM (fun point => point.require key) = .ok parts) : points = .arr items := by
  -- The items of a text are texts again, and so are the keys of an object.
  have hno : ∀ texts : List String, texts ≠ [] → items ≠ texts.map .str := by
    rintro (_ | ⟨text, texts⟩) hne rfl
    · exact hne rfl
    · rw [List.map_cons, List.mapM_cons] at hparts
      obtain ⟨part, hpart, -⟩ := bind_eq_ok.1 hparts
      cases Json.require_eq_ok.1 hpart
  cases points with
  | arr items =>
    cases hitems
    rfl
  | str text =>
    refine absurd ?_ (hno (text.toList.map String.singleton) ?_)
    · rw [List.map_map, ← Except.ok.inj hitems]
      rfl
    · simpa [Json.isGiven] using hgiven
  | obj fields =>
    refine absurd ?_ (hno (fields.map Prod.fst) ?_)
    · rw [List.map_map, ← Except.ok.inj hitems]
      rfl
    · simpa [Json.isGiven] using hgiven
  | null | bool | int | float => cases hitems

/-- Where the rows can be read at all, the dataset has a chart and they are those of its table. -/
theorem eq_tableOf {dataset points : Json} {rows : List (List Json)}
    (hpoints : dataset.field "points" .null = .ok points) (hgiven : points.isGiven = true)
    (h : datasetRows dataset points = .ok rows) :
    IsChartable dataset ∧ rows = tableOf dataset := by
  obtain ⟨items, hitems, h⟩ := bind_eq_ok.1 h
  obtain ⟨labels, hlabels, h⟩ := bind_eq_ok.1 h
  obtain ⟨values, hvalues, hrows⟩ := bind_eq_ok.1 h
  obtain rfl := eq_arr_of_require hgiven hitems hlabels
  -- The points that are read are those that a chart is drawn from.
  have hlisted : pointsOf dataset = items := by
    obtain ⟨-, -, hfield⟩ := Json.field_eq_ok.1 hpoints
    rw [pointsOf]
    cases hfound : dataset.field? "points" with
    | none =>
      rw [hfound] at hfield
      cases hfield
    | some found =>
      rw [hfound, Option.getD_some] at hfield
      rw [← hfield]
  -- No label or value is missing, or it could not have been read.
  have hhas : ∀ {key : String} {parts : List Json},
      items.mapM (fun point => point.require key) = .ok parts →
        ∀ point ∈ items, (point.field? key).isSome := by
    intro key parts hparts point hmem
    obtain ⟨part, hpart⟩ := exists_of_mem_mapM hparts hmem
    exact Option.isSome_of_mem (Json.require_eq_ok.1 hpart)
  refine ⟨⟨?_, ?_, ?_⟩, ?_⟩
  · rw [hlisted]
    simpa [Json.isGiven] using hgiven
  · rw [hlisted]
    exact hhas hlabels
  · rw [hlisted]
    exact hhas hvalues
  · cases hrows
    rw [eq_map_of_mapM hlabels fun _ _ => require_eq_partOf,
      eq_map_of_mapM hvalues fun _ _ => require_eq_partOf, tableOf_eq, hlisted]

namespace IsChartable

variable {dataset : Json}

theorem field_eq (h : IsChartable dataset) :
    dataset.field "points" .null = .ok (.arr (pointsOf dataset)) := by
  have hne := h.points_ne_nil
  rw [pointsOf] at hne ⊢
  split at hne
  · next points hpoints =>
    cases dataset with
    | obj fields => exact Json.field_eq_ok.2 ⟨fields, rfl, by rw [hpoints]; rfl⟩
    | null | bool | int | float | str | arr => cases hpoints
  · exact absurd rfl hne

theorem isGiven_points (h : IsChartable dataset) :
    (Json.arr (pointsOf dataset)).isGiven = true := by
  simpa [Json.isGiven] using h.points_ne_nil

/-- The rows of a dataset that has a chart can be read. -/
theorem datasetRows_eq (h : IsChartable dataset) :
    datasetRows dataset (.arr (pointsOf dataset)) = .ok (tableOf dataset) := by
  have hlabels := mapM_eq_ok_map fun point hmem => require_of_isSome (h.label point hmem)
  have hvalues := mapM_eq_ok_map fun point hmem => require_of_isSome (h.value point hmem)
  refine bind_eq_ok.2 ⟨_, rfl, bind_eq_ok.2 ⟨_, hlabels, bind_eq_ok.2 ⟨_, hvalues, ?_⟩⟩⟩
  rw [tableOf_eq]
  rfl

end IsChartable

/-! ## The order in which a chart is drawn -/

/-- What the sheets service answers while a chart is drawn. -/
structure ChartReplies where
  listing : Json
  added : Json
  cleared : Json
  written : Json
  charted : Json
  deriving Inhabited

/-- The reply to the addition of a chart names the new chart. -/
def addedChart? (reply : Json) : Option Json :=
  replyPart? reply ["addChart", "chart", "chartId"]

/-- The sheet that receives the table of a chart; a blank title stands for `Data`. -/
def tabOf (title : String) : String :=
  if Text.isBlankText title then "Data" else title

/-- The calls that fill the table of a chart and add the chart. -/
def plotSteps (spreadsheet tab : String) (dataset sheet : Json) (replies : ChartReplies) :
    List Step :=
  [{ call := .valuesClear spreadsheet { sheet := tab, cells := "A:Z" }
     accepts := fun _ => True
     reply := replies.cleared },
    { call := .valuesUpdate spreadsheet { sheet := tab, cells := "A1:B" } (tableOf dataset)
      accepts := fun _ => True
      reply := replies.written },
    { call := .sheetsUpdate spreadsheet
        [.addChart (datasetChart dataset sheet (tableOf dataset).length)]
      accepts := fun reply => (addedChart? reply).isSome
      reply := replies.charted }]

/-- The calls that draw a chart of a dataset from a table in the sheet with a title. -/
def chartSteps (spreadsheet tab : String) (dataset : Json) (replies : ChartReplies) : List Step :=
  sheetSteps spreadsheet tab replies.listing replies.added ++
    plotSteps spreadsheet tab dataset (sheetFor tab replies.listing replies.added) replies

/-- All steps of a chart are for its spreadsheet. -/
theorem spreadsheet?_of_mem_chartSteps {spreadsheet tab : String} {dataset : Json}
    {replies : ChartReplies} {step : Step}
    (h : step ∈ chartSteps spreadsheet tab dataset replies) :
    spreadsheet? step.call = some spreadsheet := by
  rcases List.mem_append.1 h with h | h
  · rw [sheetSteps] at h
    rcases List.mem_cons.1 h with rfl | h
    · rfl
    · split at h
      · cases h
      · obtain rfl := List.mem_singleton.1 h
        rfl
  · simp only [plotSteps, List.mem_cons, List.not_mem_nil, or_false] at h
    rcases h with rfl | rfl | rfl <;> rfl

/-- The order goes through only if the new chart is named. -/
theorem isSome_addedChart?_of_accepted {spreadsheet tab : String} {dataset : Json}
    {replies : ChartReplies}
    (h : ∀ step ∈ chartSteps spreadsheet tab dataset replies, step.Accepted) :
    (addedChart? replies.charted).isSome :=
  h ⟨.sheetsUpdate spreadsheet _, _, replies.charted⟩
    (List.mem_append_right _ (List.mem_cons_of_mem _ (List.mem_cons_of_mem _ List.mem_cons_self)))

/-- The last part of drawing a chart: the table is filled and the chart is added. -/
def plot (spreadsheet tab : String) (dataset points sheet : Json) : Program Json := do
  let _ ← Program.call (.valuesClear spreadsheet { sheet := tab, cells := "A:Z" })
  let rows ← Program.ofExcept (datasetRows dataset points)
  let _ ← Program.call (.valuesUpdate spreadsheet { sheet := tab, cells := "A1:B" } rows)
  let items ← Program.ofExcept points.items
  let reply : Json ← Program.call
    (.sheetsUpdate spreadsheet [.addChart (datasetChart dataset sheet (items.length + 1))])
  match addedChart? reply with
  | none => .fail .noChartReply
  | some id =>
    Program.log ("📊 Chart " ++ id.display ++ " created from '" ++ tab ++ "' (" ++
      toString items.length ++ " points)")
    return id

/-- Whoever fills a table and adds its chart follows the order and gets the chart's identifier. -/
theorem follows_plot {spreadsheet tab : String} {dataset points sheet : Json}
    {exchanges : List Exchange} {outcome : Except Fault Json}
    (hfield : dataset.field "points" .null = .ok points) (hgiven : points.isGiven = true)
    (h : (plot spreadsheet tab dataset points sheet).Dialogue exchanges outcome)
    (replies : ChartReplies) :
    ∃ cleared written charted,
      Follows (IsChartable dataset)
        (plotSteps spreadsheet tab dataset sheet { replies with cleared, written, charted })
        exchanges outcome ∧
      ∀ chart, outcome = .ok chart → addedChart? charted = some chart := by
  rcases Program.dialogue_call_bind.1 h with ⟨fault, rfl, rfl⟩ | ⟨cleared, rest, rfl, hfill⟩
  · exact ⟨.null, .null, .null, .refused _ (Step.refuses_error _), fun _ h => nomatch h⟩
  rcases Program.trace_ofExcept_bind.1 hfill with
    ⟨fault, hrows, rfl, rfl⟩ | ⟨rows, hrows, hwrite⟩
  · refine ⟨cleared, .null, .null, .accepted trivial (.unusable _ fun husable => ?_),
      fun _ h => nomatch h⟩
    rw [husable.field_eq] at hfield
    cases hfield
    rw [husable.datasetRows_eq] at hrows
    cases hrows
  obtain ⟨husable, rfl⟩ := eq_tableOf hfield hgiven hrows
  rcases Program.dialogue_call_bind.1 hwrite with ⟨fault, rfl, rfl⟩ | ⟨written, rest, rfl, hcount⟩
  · exact ⟨cleared, .null, .null, .accepted trivial (.refused _ (Step.refuses_error _)),
      fun _ h => nomatch h⟩
  -- The points that are counted are those of the table.
  rw [husable.field_eq] at hfield
  cases hfield
  rcases Program.trace_ofExcept_bind.1 hcount with ⟨fault, hitems, -, -⟩ | ⟨items, hitems, hadd⟩
  · cases hitems
  cases hitems
  rw [← length_tableOf] at hadd
  rcases Program.dialogue_call_bind.1 hadd with ⟨fault, rfl, rfl⟩ | ⟨charted, rest, rfl, hend⟩
  · exact ⟨cleared, written, .null,
      .accepted trivial (.accepted trivial (.refused _ (Step.refuses_error _))),
      fun _ h => nomatch h⟩
  refine ⟨cleared, written, charted, ?_⟩
  split at hend
  · next hnone =>
    obtain ⟨rfl, rfl⟩ := hend
    refine ⟨.accepted trivial (.accepted trivial (.refused _ (Step.refuses_ok ?_))),
      fun _ h => nomatch h⟩
    simp [hnone]
  · next chart hchart =>
    obtain ⟨rfl, rfl⟩ := Program.dialogue_log_bind.1 hend
    refine ⟨.accepted trivial (.accepted trivial (.accepted (Option.isSome_of_mem hchart)
      (.complete chart))), fun found heq => ?_⟩
    cases heq
    exact hchart

/-- Whoever draws a chart follows the order and gets the identifier of the new chart. Only a blank
spreadsheet and a dataset without a chart end it before a call is refused. -/
theorem follows_drawChart {spreadsheet title : String} {dataset : Json}
    {exchanges : List Exchange} {outcome : Except Fault Json}
    (h : (drawChart spreadsheet title dataset).Dialogue exchanges outcome) :
    ∃ replies,
      Follows (Text.isBlankText spreadsheet = false ∧ IsChartable dataset)
        (chartSteps spreadsheet (tabOf title) dataset replies) exchanges outcome ∧
      ∀ chart, outcome = .ok chart → addedChart? replies.charted = some chart := by
  rw [drawChart] at h
  split at h
  · next hblank =>
    obtain ⟨rfl, rfl⟩ := h
    exact ⟨default, .unusable _ fun husable => by simp [hblank] at husable, fun _ h => nomatch h⟩
  rcases Program.trace_ofExcept_bind.1 h with ⟨fault, hfield, rfl, rfl⟩ | ⟨points, hfield, h⟩
  · refine ⟨default, .unusable _ fun husable => ?_, fun _ h => nomatch h⟩
    rw [husable.2.field_eq] at hfield
    cases hfield
  split at h
  · next hno =>
    obtain ⟨rfl, rfl⟩ := h
    refine ⟨default, .unusable _ fun husable => ?_, fun _ h => nomatch h⟩
    rw [husable.2.field_eq] at hfield
    cases hfield
    rw [husable.2.isGiven_points] at hno
    cases hno
  next hgiven =>
  -- Replies that do not come any more are filled in with those of a default.
  rcases Program.trace_bind.1 h with
    ⟨fault, hsheet, rfl⟩ | ⟨sheet, first, second, rfl, hsheet, hrest⟩
  · obtain ⟨listing, added, hfollows, -⟩ := follows_ensureSheet hsheet
    exact ⟨{ (default : ChartReplies) with listing, added },
      hfollows.ended (fun _ => trivial) _, fun _ h => nomatch h⟩
  · obtain ⟨listing, added, hfollows, hfound⟩ := follows_ensureSheet hsheet
    obtain rfl := hfound sheet rfl
    have hplot : (plot spreadsheet (tabOf title) dataset points
        (sheetFor (tabOf title) listing added)).Dialogue second outcome := hrest
    obtain ⟨cleared, written, charted, hplotted, hchart⟩ := follows_plot hfield
      (by simpa using hgiven) hplot { (default : ChartReplies) with listing, added }
    exact ⟨{ listing, added, cleared, written, charted },
      hfollows.append (hplotted.congr (·.2) rfl), hchart⟩

end DeckPlan.Sheets
