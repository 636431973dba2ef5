import DeckPlan.Proofs.Sheets.Served
import DeckPlan.Proofs.Sheets.Service

/-!
# What is written and what is charted

The rows that are written for a chart and the cells that the chart shows are named apart from each
other: by the values that are sent, and by numbers of rows and columns. `IsChartOf` says that they
agree: of the table that is written the chart shows the label and the value of each point, and not
the header.

`isDrawn_drawChart` says what is true of every run that draws a chart in a spreadsheet with a
well-formed listing: which calls it makes, where it ends (`Halts`), what is written and charted, that
the chart is one of the sheet that was found or added (`IsNamed`), and when it yields a chart.
-/

namespace DeckPlan.Sheets

/-! ## The cells of a chart -/

/-- Cells of a sheet: rows and columns from a first number on, up to a last one that is left out. -/
structure GridRange where
  sheet : Json
  startRow : Nat
  endRow : Nat
  startColumn : Nat
  endColumn : Nat

namespace GridRange

/-- The range as requests name it. -/
def json (range : GridRange) : Json :=
  .obj [("sheetId", range.sheet), ("startRowIndex", .int range.startRow),
    ("endRowIndex", .int range.endRow), ("startColumnIndex", .int range.startColumn),
    ("endColumnIndex", .int range.endColumn)]

/-- The cells in the range, where the sheet holds a table that starts in its first cell. -/
def cells (range : GridRange) (table : List (List Json)) : List (List Json) :=
  ((table.take range.endRow).drop range.startRow).map fun row =>
    (row.take range.endColumn).drop range.startColumn

end GridRange

/-- The ranges that a part of a chart is taken from, in the request that adds the chart. -/
def sourcesOf (part key : String) (request : Json) : List Json :=
  match ["addChart", "chart", "spec", "basicChart"].foldlM Json.field? request with
  | some chart => (chart.entries part).flatMap fun entry =>
      (((entry.field? key).bind (·.field? "sourceRange")).map (·.entries "sources")).getD []
  | none => []

/-- The table and the chart belong together: the table holds the points below a header, and the chart
shows their labels and their values, which are all rows of the sheet but the header. -/
structure IsChartOf (dataset sheet : Json) (table : List (List Json)) (chart : Chart) : Prop where
  length : table.length = (pointsOf dataset).length + 1
  header : ∃ header, table.head? = some [.str "Label", .str header]
  rows : table.tail = (pointsOf dataset).map fun point => [partOf "label" point, partOf "value" point]
  domains : sourcesOf "domains" "domain" (Request.addChart chart).toJson =
    [GridRange.json ⟨sheet, 1, (pointsOf dataset).length + 1, 0, 1⟩]
  series : sourcesOf "series" "series" (Request.addChart chart).toJson =
    [GridRange.json ⟨sheet, 1, (pointsOf dataset).length + 1, 1, 2⟩]
  labels : GridRange.cells ⟨sheet, 1, (pointsOf dataset).length + 1, 0, 1⟩ table =
    (pointsOf dataset).map fun point => [partOf "label" point]
  values : GridRange.cells ⟨sheet, 1, (pointsOf dataset).length + 1, 1, 2⟩ table =
    (pointsOf dataset).map fun point => [partOf "value" point]

theorem sourcesOf_domains (chart : Chart) :
    sourcesOf "domains" "domain" (Request.addChart chart).toJson =
      [GridRange.json ⟨chart.sheet, 1, chart.rows, 0, 1⟩] :=
  rfl

theorem sourcesOf_series (chart : Chart) :
    sourcesOf "series" "series" (Request.addChart chart).toJson =
      [GridRange.json ⟨chart.sheet, 1, chart.rows, 1, 2⟩] :=
  rfl

/-- All rows of the table but its header, from one column up to another. -/
theorem cells_tableOf (dataset sheet : Json) (first last : Nat) :
    GridRange.cells ⟨sheet, 1, (pointsOf dataset).length + 1, first, last⟩ (tableOf dataset) =
      (pointsOf dataset).map fun point =>
        ([partOf "label" point, partOf "value" point].take last).drop first := by
  rw [GridRange.cells, ← length_tableOf dataset, List.take_length, tableOf, List.drop_one,
    List.tail_cons, List.map_map]
  rfl

/-- The chart of a dataset belongs to its table. -/
theorem isChartOf_datasetChart (dataset sheet : Json) :
    IsChartOf dataset sheet (tableOf dataset)
      (datasetChart dataset sheet (tableOf dataset).length) where
  length := length_tableOf dataset
  header := ⟨_, rfl⟩
  rows := rfl
  domains := by rw [sourcesOf_domains, datasetChart, length_tableOf]
  series := by rw [sourcesOf_series, datasetChart, length_tableOf]
  labels := cells_tableOf dataset sheet 0 1
  values := cells_tableOf dataset sheet 1 2

/-! ## The calls that draw a chart -/

/-- The calls that draw a chart: the sheets are listed, the sheet of the table is added if no listed
one has its title, and it is emptied and filled before the chart is added. -/
def drawingCalls (spreadsheet tab : String) (listing : Json) (table : List (List Json))
    (chart : Chart) : List Call :=
  .sheetsGet spreadsheet listedFields ::
    (if (listedSheets listing).any (hasTitle tab) then []
      else [.sheetsUpdate spreadsheet [.addSheet tab]]) ++
    [.valuesClear spreadsheet { sheet := tab, cells := "A:Z" },
      .valuesUpdate spreadsheet { sheet := tab, cells := "A1:B" } table,
      .sheetsUpdate spreadsheet [.addChart chart]]

/-- No call follows the exchange: the call failed, or a sheet was added and the reply does not name
it. -/
inductive Halts : Exchange → Prop
  | failed {call : Call} (fault : Fault) : Halts ⟨call, .error fault⟩
  | unnamed {spreadsheet title : String} {reply : Json} :
      addedSheet? reply = none → Halts ⟨.sheetsUpdate spreadsheet [.addSheet title], .ok reply⟩

/-- The service has told the identifier of the sheet with a title: in the listing, or in the reply to
its addition. -/
inductive IsNamed (spreadsheet tab : String) (exchanges : List Exchange) (sheet : Json) : Prop
  | found {listing entry : Json} :
      ⟨.sheetsGet spreadsheet listedFields, .ok listing⟩ ∈ exchanges →
        (listedSheets listing).find? (hasTitle tab) = some entry →
          entry.field? "sheetId" = some sheet → IsNamed spreadsheet tab exchanges sheet
  | added {reply : Json} :
      ⟨.sheetsUpdate spreadsheet [.addSheet tab], .ok reply⟩ ∈ exchanges →
        addedSheet? reply = some sheet → IsNamed spreadsheet tab exchanges sheet

/-- What is known of a run that draws a chart of a table in the sheet with a title. -/
structure IsDrawn (spreadsheet tab : String) (listing sheet : Json) (table : List (List Json))
    (chart : Chart) (exchanges : List Exchange) (outcome : Except Fault Json) : Prop where
  /-- The calls are made in order. -/
  calls_prefix : exchanges.map Exchange.call <+: drawingCalls spreadsheet tab listing table chart
  /-- Whether a sheet is added depends on the listing that the service has sent. -/
  listed : ∀ reply, ⟨.sheetsGet spreadsheet listedFields, .ok reply⟩ ∈ exchanges → reply = listing
  /-- No call follows one that fails or that adds a sheet without a name. -/
  stops : ∀ exchange ∈ exchanges.dropLast, ¬ Halts exchange
  /-- Nothing else ends the run before all calls are made. -/
  goesOn : (∀ exchange ∈ exchanges, ¬ Halts exchange) →
    exchanges.map Exchange.call = drawingCalls spreadsheet tab listing table chart
  /-- The chart is one of the sheet that was found or added. -/
  named : .sheetsUpdate spreadsheet [.addChart chart] ∈ exchanges.map Exchange.call →
    IsNamed spreadsheet tab exchanges sheet
  /-- The run yields a chart if the reply to its addition, which is the last call, names it. -/
  yields : ∀ id, outcome = .ok id ↔ ∃ reply,
    exchanges.getLast? = some ⟨.sheetsUpdate spreadsheet [.addChart chart], .ok reply⟩ ∧
      addedChart? reply = some id

/-! ## The steps before the chart is added -/

section Steps

variable {spreadsheet tab : String} {dataset : Json} {replies : ChartReplies}

/-- The steps that find or add the sheet, empty it and fill it. -/
def fillSteps (spreadsheet tab : String) (dataset : Json) (replies : ChartReplies) : List Step :=
  sheetSteps spreadsheet tab replies.listing replies.added ++
    [{ call := .valuesClear spreadsheet { sheet := tab, cells := "A:Z" }
       accepts := fun _ => True
       reply := replies.cleared },
      { call := .valuesUpdate spreadsheet { sheet := tab, cells := "A1:B" } (tableOf dataset)
        accepts := fun _ => True
        reply := replies.written }]

/-- The step that adds the chart. -/
def addStep (spreadsheet : String) (chart : Chart) (reply : Json) : Step where
  call := .sheetsUpdate spreadsheet [.addChart chart]
  accepts := fun reply => (addedChart? reply).isSome
  reply := reply

theorem chartSteps_eq (spreadsheet tab : String) (dataset : Json) (replies : ChartReplies) :
    chartSteps spreadsheet tab dataset replies = fillSteps spreadsheet tab dataset replies ++
      [addStep spreadsheet (datasetChart dataset (sheetFor tab replies.listing replies.added)
        (tableOf dataset).length) replies.charted] := by
  rw [chartSteps, plotSteps, fillSteps, List.append_assoc]
  rfl

theorem drawingCalls_eq (spreadsheet tab : String) (dataset : Json) (replies : ChartReplies)
    (chart : Chart) :
    drawingCalls spreadsheet tab replies.listing (tableOf dataset) chart =
      (fillSteps spreadsheet tab dataset replies).map Step.call ++
        [.sheetsUpdate spreadsheet [.addChart chart]] := by
  rw [drawingCalls, fillSteps, sheetSteps]
  split <;> rfl

/-- The steps of a chart are the calls that draw it. -/
theorem map_call_chartSteps (spreadsheet tab : String) (dataset : Json) (replies : ChartReplies) :
    (chartSteps spreadsheet tab dataset replies).map Step.call =
      drawingCalls spreadsheet tab replies.listing (tableOf dataset)
        (datasetChart dataset (sheetFor tab replies.listing replies.added)
          (tableOf dataset).length) := by
  rw [chartSteps_eq, drawingCalls_eq, List.map_append]
  rfl

/-- The steps before the chart is added, one by one. -/
theorem mem_fillSteps {step : Step} (h : step ∈ fillSteps spreadsheet tab dataset replies) :
    step = ⟨.sheetsGet spreadsheet listedFields, IsSearchable tab, replies.listing⟩ ∨
      (step = ⟨.sheetsUpdate spreadsheet [.addSheet tab], fun reply => (addedSheet? reply).isSome,
        replies.added⟩ ∧ (listedSheets replies.listing).any (hasTitle tab) = false) ∨
      step = ⟨.valuesClear spreadsheet { sheet := tab, cells := "A:Z" }, fun _ => True,
        replies.cleared⟩ ∨
      step = ⟨.valuesUpdate spreadsheet { sheet := tab, cells := "A1:B" } (tableOf dataset),
        fun _ => True, replies.written⟩ := by
  rw [fillSteps, sheetSteps] at h
  by_cases hany : (listedSheets replies.listing).any (hasTitle tab) = true
  · rw [if_pos hany] at h
    simp only [List.cons_append, List.nil_append, List.mem_cons, List.not_mem_nil, or_false] at h
    rcases h with rfl | rfl | rfl <;> simp
  · rw [if_neg hany] at h
    simp only [List.cons_append, List.nil_append, List.mem_cons, List.not_mem_nil, or_false] at h
    rcases h with rfl | rfl | rfl | rfl <;> simp [hany]

/-- A step of a chart fills its table or adds it. -/
theorem mem_chartSteps {step : Step} (h : step ∈ chartSteps spreadsheet tab dataset replies) :
    step ∈ fillSteps spreadsheet tab dataset replies ∨
      ∃ chart, step = addStep spreadsheet chart replies.charted := by
  rw [chartSteps_eq, List.mem_append, List.mem_singleton] at h
  exact h.imp_right fun heq => ⟨_, heq⟩

/-- No chart is added before the last step. -/
theorem call_ne_of_mem_fillSteps {step : Step}
    (h : step ∈ fillSteps spreadsheet tab dataset replies) (chart : Chart) :
    step.call ≠ .sheetsUpdate spreadsheet [.addChart chart] := by
  rcases mem_fillSteps h with rfl | ⟨rfl, -⟩ | rfl | rfl <;> simp

/-- The run goes on after an accepted reply. -/
theorem not_halts_of_accepted {step : Step}
    (h : step ∈ chartSteps spreadsheet tab dataset replies) (haccepted : step.Accepted) :
    ¬ Halts step.exchange := by
  intro hhalts
  rcases mem_chartSteps h with h | ⟨chart, rfl⟩
  · rcases mem_fillSteps h with rfl | ⟨rfl, -⟩ | rfl | rfl
    · cases hhalts
    · -- Only the addition of a sheet may halt with a reply, and then the reply names none.
      cases hhalts with
      | unnamed hnone =>
        have hsome : (addedSheet? replies.added).isSome := haccepted
        rw [show addedSheet? replies.added = none from hnone] at hsome
        cases hsome
    · cases hhalts
    · cases hhalts
  · cases hhalts

/-- A listing is not refused, so what is refused before the chart is added ends the run. -/
theorem halts_of_refuses {step : Step} (h : step ∈ fillSteps spreadsheet tab dataset replies)
    {exchange : Exchange} (hrefuses : step.Refuses exchange)
    (hlisting : ∀ listing, exchange = ⟨.sheetsGet spreadsheet listedFields, .ok listing⟩ →
      IsListing listing) : Halts exchange := by
  obtain ⟨reply | reply, rfl, hnot⟩ := hrefuses
  · exact .failed reply
  have hrefused : ¬ step.accepts reply := hnot reply rfl
  rcases mem_fillSteps h with rfl | ⟨rfl, -⟩ | rfl | rfl
  · exact absurd ((hlisting reply rfl).isSearchable tab) hrefused
  · exact .unnamed (by simpa using hrefused)
  · exact absurd trivial hrefused
  · exact absurd trivial hrefused

/-- Only one listing is asked for. -/
theorem eq_listing {exchanges : List Exchange} {outcome : Except Fault Json} {usable : Prop}
    (hfollows : Follows usable (chartSteps spreadsheet tab dataset replies) exchanges outcome)
    {reply : Json} (hmem : ⟨.sheetsGet spreadsheet listedFields, .ok reply⟩ ∈ exchanges)
    (hlisting : IsListing reply) : reply = replies.listing := by
  obtain ⟨step, hstep, ⟨-, heq⟩ | ⟨answer, heq, hnot⟩⟩ := hfollows.mem_cases hmem
  · rcases mem_chartSteps hstep with h | ⟨chart, rfl⟩
    · rcases mem_fillSteps h with rfl | ⟨rfl, -⟩ | rfl | rfl <;> cases heq
      rfl
    · cases heq
  · -- A step that refuses a listing would be the one that asks for it.
    rcases mem_chartSteps hstep with h | ⟨chart, rfl⟩
    · rcases mem_fillSteps h with rfl | ⟨rfl, -⟩ | rfl | rfl <;> cases heq
      exact absurd (hlisting.isSearchable tab) (hnot reply rfl)
    · cases heq

/-- After the steps that find or add the sheet, its identifier is known. -/
theorem isNamed_sheetFor {exchanges : List Exchange} (hlisting : IsListing replies.listing)
    (hmem : ∀ step ∈ sheetSteps spreadsheet tab replies.listing replies.added,
      step.exchange ∈ exchanges)
    (haccepted : ∀ step ∈ sheetSteps spreadsheet tab replies.listing replies.added,
      step.Accepted) :
    IsNamed spreadsheet tab exchanges (sheetFor tab replies.listing replies.added) := by
  rw [sheetSteps] at hmem haccepted
  rw [sheetFor]
  cases hfind : (listedSheets replies.listing).find? (hasTitle tab) with
  | some entry =>
    have htitle : titleOf? entry = some tab := by
      simpa [hasTitle] using List.find?_some hfind
    obtain ⟨sheet, hsheet⟩ := Option.isSome_iff_exists.1
      (hlisting.identifier entry (List.mem_of_find?_eq_some hfind) (by rw [htitle]; rfl))
    rw [Option.map_some, Option.getD_some, idOf, hsheet, Option.getD_some]
    exact .found (hmem _ List.mem_cons_self) hfind hsheet
  | none =>
    -- No listed sheet has the title, so there is a step that adds one.
    have hany : ¬ (listedSheets replies.listing).any (hasTitle tab) = true := by
      rw [← List.isSome_find?, hfind]
      exact Bool.false_ne_true
    rw [if_neg hany] at hmem haccepted
    obtain ⟨sheet, hsheet⟩ : ∃ sheet, addedSheet? replies.added = some sheet :=
      Option.isSome_iff_exists.1 (haccepted _ (List.mem_cons_of_mem _ List.mem_cons_self))
    rw [Option.map_none, Option.getD_none, hsheet, Option.getD_some]
    exact .added (hmem _ (List.mem_cons_of_mem _ List.mem_cons_self)) hsheet

variable {exchanges : List Exchange} {outcome : Except Fault Json} {usable : Prop}

/-- All replies but the last one are accepted, so the run goes on after them. -/
theorem not_halts_of_mem_dropLast
    (hfollows : Follows usable (chartSteps spreadsheet tab dataset replies) exchanges outcome)
    {exchange : Exchange} (hmem : exchange ∈ exchanges.dropLast) : ¬ Halts exchange := by
  obtain ⟨front, hfront, hall, heq⟩ := hfollows.accepted_of_dropLast
  rw [heq] at hmem
  obtain ⟨step, hstep, rfl⟩ := List.mem_map.1 hmem
  exact not_halts_of_accepted (hfront.subset hstep) (hall step hstep)

/-- A run that ends before the chart is added has a reply after which it cannot go on. -/
theorem exists_halts_of_ended {fault : Fault}
    (hended : Follows usable (fillSteps spreadsheet tab dataset replies) exchanges
      (.error fault : Except Fault Json)) (husable : usable)
    (hlistings : ∀ listing, ⟨.sheetsGet spreadsheet listedFields, .ok listing⟩ ∈ exchanges →
      IsListing listing) : ∃ exchange ∈ exchanges, Halts exchange := by
  obtain ⟨step, hstep, last, hlast, hrefuses⟩ := hended.refused_of_error husable
  have hmem : last ∈ exchanges := List.mem_of_getLast? hlast
  refine ⟨last, hmem, halts_of_refuses hstep hrefuses fun listing heq => ?_⟩
  exact hlistings listing (heq ▸ hmem)

/-- A run that ends before the chart is added does not add it. -/
theorem addChart_notMem_of_ended
    (hended : Follows usable (fillSteps spreadsheet tab dataset replies) exchanges outcome)
    (chart : Chart) : .sheetsUpdate spreadsheet [.addChart chart] ∉ exchanges.map Exchange.call := by
  intro hmem
  obtain ⟨step, hstep, hcall⟩ := List.mem_map.1 (hended.calls_prefix.subset hmem)
  exact call_ne_of_mem_fillSteps hstep chart hcall

/-- The last step yields the chart that its reply names. -/
theorem eq_ok_iff_of_last {chart : Chart} {last : Exchange} {charted : Json}
    (hlast : Follows usable [addStep spreadsheet chart charted] [last] outcome) (husable : usable)
    (hchart : ∀ id, outcome = .ok id → addedChart? charted = some id) (id : Json) :
    outcome = .ok id ↔ ∃ reply,
      last = ⟨.sheetsUpdate spreadsheet [.addChart chart], .ok reply⟩ ∧
        addedChart? reply = some id := by
  obtain ⟨exchange, hexchange, hcases⟩ := hlast.singleton_cases husable
  obtain rfl := List.singleton_inj.1 hexchange
  -- The step was accepted, and its reply names the chart, or it was refused.
  rcases hcases with ⟨value, rfl, -, rfl⟩ | ⟨fault, rfl, hrefuses⟩
  · have hvalue : addedChart? charted = some value := hchart value rfl
    constructor
    · intro h
      exact ⟨charted, rfl, hchart id h⟩
    · rintro ⟨reply, heq, hid⟩
      cases heq
      rw [Option.some.inj (hvalue.symm.trans hid)]
  · constructor
    · intro h
      cases h
    · rintro ⟨reply, rfl, hid⟩
      obtain ⟨answer, heq, hnot⟩ := hrefuses
      cases heq
      exact absurd (Option.isSome_of_mem hid) (hnot reply rfl)

/-- What is known of a run that follows the order in which a chart is drawn. -/
theorem isDrawn_of_follows
    (hfollows : Follows usable (chartSteps spreadsheet tab dataset replies) exchanges outcome)
    (husable : usable)
    (hlistings : ∀ listing, ⟨.sheetsGet spreadsheet listedFields, .ok listing⟩ ∈ exchanges →
      IsListing listing)
    (hchart : ∀ id, outcome = .ok id → addedChart? replies.charted = some id) :
    IsDrawn spreadsheet tab replies.listing (sheetFor tab replies.listing replies.added)
      (tableOf dataset) (datasetChart dataset (sheetFor tab replies.listing replies.added)
        (tableOf dataset).length) exchanges outcome := by
  have hcalls := hfollows.calls_prefix
  rw [map_call_chartSteps] at hcalls
  have hlisted : ∀ reply, ⟨.sheetsGet spreadsheet listedFields, .ok reply⟩ ∈ exchanges →
      reply = replies.listing :=
    fun reply hmem => eq_listing hfollows hmem (hlistings reply hmem)
  have hstops : ∀ exchange ∈ exchanges.dropLast, ¬ Halts exchange :=
    fun exchange hmem => not_halts_of_mem_dropLast hfollows hmem
  -- The table is filled first, and the last step adds the chart.
  rw [chartSteps_eq] at hfollows
  rcases hfollows.append_cases with ⟨fault, rfl, hended⟩ | ⟨later, rfl, haccepted, hlast⟩
  · -- The chart is not added.
    have hnone := addChart_notMem_of_ended hended
    obtain ⟨exchange, hmem, hhalts⟩ := exists_halts_of_ended hended husable hlistings
    refine ⟨hcalls, hlisted, hstops, fun hgo => absurd hhalts (hgo exchange hmem),
      fun hadds => absurd hadds (hnone _), fun id => ⟨fun h => (nomatch h), ?_⟩⟩
    rintro ⟨reply, hlast, -⟩
    exact absurd (List.mem_map_of_mem (List.mem_of_getLast? hlast)) (hnone _)
  · -- The calls before it have gone through.
    obtain ⟨last, rfl, hcases⟩ := hlast.singleton_cases husable
    have hcall : last.call = .sheetsUpdate spreadsheet [.addChart (datasetChart dataset
        (sheetFor tab replies.listing replies.added) (tableOf dataset).length)] := by
      rcases hcases with ⟨value, -, -, rfl⟩ | ⟨fault, -, hrefuses⟩
      · rfl
      · exact hrefuses.call_eq
    have hmade : ∀ step ∈ fillSteps spreadsheet tab dataset replies, step.exchange ∈
        (fillSteps spreadsheet tab dataset replies).map Step.exchange ++ [last] :=
      fun step hstep => List.mem_append_left _ (List.mem_map_of_mem hstep)
    have hsheet : ∀ step ∈ sheetSteps spreadsheet tab replies.listing replies.added,
        step ∈ fillSteps spreadsheet tab dataset replies :=
      fun step hstep => List.mem_append_left _ hstep
    have hlisting : IsListing replies.listing :=
      hlistings _ (hmade _ (hsheet _ List.mem_cons_self))
    refine ⟨hcalls, hlisted, hstops, fun _ => ?_, fun _ => ?_, fun id => ?_⟩
    · rw [List.map_append, List.map_map, List.map_singleton, hcall, drawingCalls_eq]
      rfl
    · exact isNamed_sheetFor hlisting (fun step hstep => hmade step (hsheet step hstep))
        fun step hstep => haccepted step (hsheet step hstep)
    · rw [List.getLast?_concat, eq_ok_iff_of_last hlast husable hchart]
      simp only [Option.some.injEq]

end Steps

/-! ## Every run -/

/-- What is known of every run that draws a chart in a spreadsheet whose listing is well-formed. -/
theorem isDrawn_drawChart {σ : Type} (answer : (action : Action) → σ → action.Answer × σ)
    (state : σ) {spreadsheet : String} (hspreadsheet : Text.isBlankText spreadsheet = false)
    (title : String) {dataset : Json} (hdataset : IsChartable dataset)
    (hlistings : ∀ listing, ⟨.sheetsGet spreadsheet listedFields, .ok listing⟩ ∈
      (drawChart spreadsheet title dataset).transcript answer state → IsListing listing) :
    ∃ listing sheet chart,
      IsDrawn spreadsheet (tabOf title) listing sheet (tableOf dataset) chart
        ((drawChart spreadsheet title dataset).transcript answer state)
        ((drawChart spreadsheet title dataset).run answer state).1 ∧
      IsChartOf dataset sheet (tableOf dataset) chart := by
  obtain ⟨replies, hfollows, hchart⟩ := follows_drawChart
    (Program.dialogue_transcript answer (drawChart spreadsheet title dataset) state)
  generalize (drawChart spreadsheet title dataset).transcript answer state = exchanges at *
  generalize ((drawChart spreadsheet title dataset).run answer state).1 = outcome at *
  exact ⟨replies.listing, sheetFor (tabOf title) replies.listing replies.added, _,
    isDrawn_of_follows hfollows ⟨hspreadsheet, hdataset⟩ hlistings hchart,
    isChartOf_datasetChart dataset _⟩

/-! ## Runs on the service -/

/-- The listing of a spreadsheet is well-formed. -/
theorem isListing_listing (book : Book) : IsListing book.listing where
  isObject := ⟨_, rfl⟩
  isArray := by
    rintro sheets ⟨⟩
    exact ⟨_, rfl⟩
  entries := by
    intro entry hentry
    rw [Json.entries] at hentry
    obtain ⟨sheet, -, rfl⟩ := List.mem_map.1 (List.mem_of_mem_filter hentry)
    exact ⟨_, rfl⟩
  properties := by
    rw [listedSheets_listing, List.forall_mem_map]
    exact fun sheet _ => ⟨_, rfl⟩
  identifier := by
    rw [listedSheets_listing, List.forall_mem_map]
    exact fun sheet _ _ => rfl

/-- Whatever runs on the service, the listings that it gets are well-formed. -/
theorem isListing_of_serve {α : Type} {spreadsheet fields : String}
    {others : (call : Call) → Except Fault call.Reply} {program : Program α} {book : Book}
    {listing : Json} (hmem : ⟨.sheetsGet spreadsheet fields, .ok listing⟩ ∈
      program.transcript (serve spreadsheet others) book) : IsListing listing := by
  have hall : ∀ exchange ∈ program.transcript (serve spreadsheet others) book, ∀ listing,
      exchange = ⟨.sheetsGet spreadsheet fields, .ok listing⟩ → IsListing listing := by
    refine Program.forall_mem_transcript (fun request now listing heq => ?_) program book
    have htakes : Takes spreadsheet ⟨request, (answerCall spreadsheet others request now).1⟩ now
        (answerCall spreadsheet others request now).2 := takes_answerCall ..
    rw [show (⟨request, (answerCall spreadsheet others request now).1⟩ : Exchange) = _ from heq]
      at htakes
    rw [htakes.of_get.2 listing rfl]
    exact isListing_listing now
  exact hall _ hmem listing rfl

/-- Data with two points. -/
def visits : Json :=
  .obj [("unit", .str "k"), ("points", .arr [.obj [("label", .str "May"), ("value", .int 3)],
    .obj [("value", .int 5), ("label", .str "June")]])]

/-- A spreadsheet with one sheet of the user. -/
def notes : Book where
  sheets := [⟨7, "Notes", "GRID", []⟩]
  nodup_ids := by decide

/-- The chart of two points in a sheet that is added. -/
theorem isDrawn_drawChart_visits :
    IsChartable visits ∧
      ((drawChart "book" " " visits).run (serve "book" fun _ => .error refusal) notes).1.isOk ∧
      ∃ listing sheet chart,
        IsDrawn "book" "Data" listing sheet (tableOf visits) chart
          ((drawChart "book" " " visits).transcript (serve "book" fun _ => .error refusal) notes)
          ((drawChart "book" " " visits).run (serve "book" fun _ => .error refusal) notes).1 ∧
        IsChartOf visits sheet (tableOf visits) chart := by
  have hchartable : IsChartable visits :=
    ⟨List.cons_ne_nil _ _, by decide, by decide⟩
  refine ⟨hchartable, by decide +kernel, ?_⟩
  exact isDrawn_drawChart (serve "book" fun _ => .error refusal) notes (by decide) " " hchartable
    fun listing hmem => isListing_of_serve hmem

end DeckPlan.Sheets
