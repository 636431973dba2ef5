import DeckPlan.Proofs.Sheets.Service
import DeckPlan.Proofs.Slides.Batch
import Mathlib.Logic.Relation

/-!
# Histories of a spreadsheet

A spreadsheet serves many runs, one after the other, and each of them may fail at any call. At every
moment of every run all sheets of the user are as they were at the very beginning, and after a run
that goes through the generated sheets are those of its topics: nothing is left of earlier runs
(`keepsUser_and_isCharted_of_history`).

A moment of a run is given by the part of its dialogue up to then (`During`). Nothing is known of
the cells of a sheet after a call that clears or writes them, so a sheet that is sure to stay as it
was is not named by any such call.
-/

namespace DeckPlan.Slides

open Sheets (Book Meets KeepsUser IsCharted IsTableTitle SparesUser)

variable {spreadsheet presentation : String} {initial book now after : Book}

/-! ## Runs -/

/-- A run on topics has this outcome and brings the spreadsheet from one state to another. -/
def Run (spreadsheet : String) (topics : List Json) (outcome : Except Fault Unit)
    (book after : Book) : Prop :=
  ∃ clients presentation exchanges,
    (writeTopics clients spreadsheet presentation (.arr topics)).Dialogue exchanges outcome ∧
      Meets spreadsheet exchanges book after

/-- The spreadsheet has come from one state to another at some moment of a run. -/
def During (spreadsheet : String) (book now : Book) : Prop :=
  ∃ clients presentation topics exchanges rest outcome,
    (writeTopics clients spreadsheet presentation (.arr topics)).Dialogue (exchanges ++ rest)
      outcome ∧ Meets spreadsheet exchanges book now

/-- The spreadsheet has come from one state to another by runs on any topics, failed ones or not. -/
def History (spreadsheet : String) : Book → Book → Prop :=
  Relation.ReflTransGen fun book after =>
    ∃ topics outcome, Run spreadsheet topics outcome book after

/-- The end of a run is one of its moments. -/
theorem Run.during {topics : List Json} {outcome : Except Fault Unit}
    (h : Run spreadsheet topics outcome book after) : During spreadsheet book after := by
  obtain ⟨clients, presentation, exchanges, hdialogue, hmeets⟩ := h
  exact ⟨clients, presentation, topics, exchanges, [], outcome,
    (List.append_nil exchanges).symm ▸ hdialogue, hmeets⟩

/-! ## Calls that do not touch the spreadsheet -/

/-- The slides are deleted without a call to a spreadsheet. -/
theorem spreadsheet?_of_mem_removalSteps {listing reply : Json} {step : Step}
    (h : step ∈ removalSteps presentation listing reply) :
    Sheets.spreadsheet? step.call = none := by
  rw [removalSteps] at h
  rcases List.mem_cons.1 h with rfl | h
  · rfl
  · split at h
    · cases h
    · obtain rfl := List.mem_singleton.1 h
      rfl

/-- The slides are made without a call to a spreadsheet. -/
theorem spreadsheet?_of_mem_creation {script : Script} {step : Step}
    (h : step ∈ script.creation spreadsheet presentation) :
    Sheets.spreadsheet? step.call = none := by
  rw [Script.creation] at h
  split at h
  · cases h
  · obtain rfl := List.mem_singleton.1 h
    rfl

/-- Calls to other services leave the spreadsheet as it is. -/
theorem eq_of_spreadsheet?_eq_none {order : List Step}
    (horder : ∀ step ∈ order, Sheets.spreadsheet? step.call = none)
    (h : Meets spreadsheet (order.map Step.exchange) book after) : after = book := by
  refine h.eq_of_elsewhere fun exchange hmem hsame => ?_
  obtain ⟨step, hstep, rfl⟩ := List.mem_map.1 hmem
  exact nomatch (horder step hstep).symm.trans hsame

/-! ## The sheets of the user -/

theorem isTableTitle_tabTitle (index : Nat) : IsTableTitle (tabTitle index) :=
  Sheets.isTableTitle_tableTitle (index + 1)

/-- The charts of topics spare the sheets of the user. -/
theorem sparesUser_of_mem_deckSteps {index : Nat} {drafts : List Draft} {step : Step}
    (h : step ∈ deckSteps spreadsheet index drafts) : SparesUser step.call := by
  obtain ⟨⟨draft, index⟩, -, hstep⟩ := List.mem_flatMap.1 h
  simp only [Draft.steps] at hstep
  split at hstep
  · exact Sheets.sparesUser_of_mem_chartSteps (isTableTitle_tabTitle index) hstep
  · cases hstep

/-- Steps that remove no sheet and write only in tables keep the sheets of the user at every
moment. -/
theorem keepsUser_of_agrees {order : List Step} {exchanges : List Exchange}
    (horder : ∀ step ∈ order, SparesUser step.call) (hagrees : Agrees order exchanges)
    (h : Meets spreadsheet exchanges book now) : KeepsUser book now := by
  refine h.keepsUser fun exchange hmem => ?_
  obtain ⟨step, hstep, hcall⟩ := hagrees.exists_step hmem
  exact hcall ▸ horder step hstep

/-- At every moment of a run the sheets of the user are as they were before it. -/
theorem During.keepsUser (h : During spreadsheet book now) : KeepsUser book now := by
  obtain ⟨clients, presentation, topics, exchanges, rest, outcome, hdialogue, hmeets⟩ := h
  obtain ⟨script, -, hfollows⟩ := follows_writeTopics hdialogue
  have horder := hfollows.agrees
  rw [Script.order_eq] at horder
  have hremoval : ∀ step ∈ removalSteps presentation script.slides script.removed,
      SparesUser step.call :=
    fun step hstep => Sheets.sparesUser_of_spreadsheet? (spreadsheet?_of_mem_removalSteps hstep)
  rcases horder.append_cases with hagrees | ⟨later, rfl, hsheets⟩
  · exact keepsUser_of_agrees hremoval hagrees hmeets
  -- The old slides are gone, and the spreadsheet is still what it was.
  obtain ⟨middle, hfirst, hcleaning⟩ := Sheets.meets_append.1 hmeets
  obtain rfl := eq_of_spreadsheet?_eq_none (fun _ => spreadsheet?_of_mem_removalSteps) hfirst
  rcases hsheets.append_cases with hagrees | ⟨later, rfl, hlater⟩
  · exact Meets.keepsUser_cleanup hagrees hcleaning
  -- After the cleanup, sheets are added and written only.
  obtain ⟨cleaned, hcleanup, hcharting⟩ := Sheets.meets_append.1 hcleaning
  have hkept : KeepsUser middle cleaned := Meets.keepsUser_cleanup (.of_complete _) hcleanup
  refine hkept.trans (keepsUser_of_agrees (fun step hstep => ?_) hlater hcharting)
  rcases List.mem_append.1 hstep with hdeck | hcreation
  · exact sparesUser_of_mem_deckSteps hdeck
  · exact Sheets.sparesUser_of_spreadsheet? (spreadsheet?_of_mem_creation hcreation)

/-! ## The generated sheets -/

/-- The titles of the tables of topics, the first of which has the number `index`. -/
def tabTitles (index : Nat) (topics : List Json) : List String :=
  (topics.zipIdx index).filterMap fun (topic, index) =>
    (chartData? topic).map fun _ => tabTitle index

/-- The table of the first topic comes first, if the topic has one. -/
theorem tabTitles_cons (index : Nat) (topic : Json) (rest : List Json) :
    tabTitles index (topic :: rest) =
      ((chartData? topic).map fun _ => tabTitle index).toList ++ tabTitles (index + 1) rest := by
  simp only [tabTitles, List.zipIdx_cons, List.filterMap_cons]
  cases chartData? topic <;> rfl

/-- Different topics have different tables. -/
theorem tabTitle_inj {index other : Nat} (h : tabTitle index = tabTitle other) : index = other :=
  Nat.succ.inj (Sheets.tableTitle_inj h)

/-- Drawing the charts of topics adds one table and one chart sheet for each topic with data. -/
theorem isCharted_of_meets_deckSteps {index : Nat} {drafts : List Draft} {titles : List String}
    (hcharted : IsCharted titles book)
    (hbefore : ∀ title ∈ titles, ∃ earlier < index, title = tabTitle earlier)
    (h : Meets spreadsheet ((deckSteps spreadsheet index drafts).map Step.exchange) book after) :
    IsCharted (titles ++ tabTitles index (drafts.map Draft.topic)) after := by
  -- The invariant is that the tables are those of earlier topics, so each title is new.
  induction drafts generalizing index titles book with
  | nil =>
    cases h
    simpa [tabTitles] using hcharted
  | cons draft rest ih =>
    rw [deckSteps, List.zipIdx_cons, List.flatMap_cons, List.map_append] at h
    obtain ⟨middle, hfirst, hrest⟩ := Sheets.meets_append.1 h
    have hlater : ∀ title ∈ titles, ∃ earlier < index + 1, title = tabTitle earlier := by
      intro title hmem
      obtain ⟨earlier, hlt, htitle⟩ := hbefore title hmem
      exact ⟨earlier, Nat.lt_succ_of_lt hlt, htitle⟩
    rw [List.map_cons, tabTitles_cons]
    simp only [Draft.steps] at hfirst
    cases hdata : chartData? draft.topic with
    | none =>
      simp only [hdata, List.map_nil] at hfirst
      cases hfirst
      exact ih hcharted hlater hrest
    | some dataset =>
      simp only [hdata] at hfirst
      have hnew : tabTitle index ∉ titles := by
        intro hmem
        obtain ⟨earlier, hlt, htitle⟩ := hbefore _ hmem
        exact absurd (tabTitle_inj htitle) (Nat.ne_of_gt hlt)
      have hmiddle := hfirst.chart (isTableTitle_tabTitle index) hnew hcharted
      have hafter := ih hmiddle (fun title hmem => ?_) hrest
      · rw [List.append_assoc] at hafter
        exact hafter
      · rcases List.mem_append.1 hmem with hmem | hmem
        · exact hlater title hmem
        · exact ⟨index, Nat.lt_succ_self index, List.mem_singleton.1 hmem⟩

/-- After a run that goes through, the generated sheets are those of its topics. -/
theorem Run.isCharted {topics : List Json} (h : Run spreadsheet topics (.ok ()) book after) :
    IsCharted (tabTitles 0 topics) after := by
  obtain ⟨clients, presentation, exchanges, hdialogue, hmeets⟩ := h
  obtain ⟨script, rfl, hfollows⟩ := follows_writeTopics hdialogue
  rw [hfollows.eq_of_ok, Script.order_eq, List.map_append, List.map_append, List.map_append]
    at hmeets
  obtain ⟨removed, -, hmeets⟩ := Sheets.meets_append.1 hmeets
  obtain ⟨cleaned, hcleanup, hmeets⟩ := Sheets.meets_append.1 hmeets
  obtain ⟨charted, hdeck, hcreation⟩ := Sheets.meets_append.1 hmeets
  obtain rfl := eq_of_spreadsheet?_eq_none (fun _ => spreadsheet?_of_mem_creation) hcreation
  have hempty : IsCharted [] cleaned := Sheets.isCharted_nil hcleanup.generated_cleanup
  exact isCharted_of_meets_deckSteps hempty (fun _ hmem => nomatch hmem) hdeck

/-! ## All runs -/

/-- Runs keep the sheets of the user. -/
theorem History.keepsUser (h : History spreadsheet initial book) : KeepsUser initial book := by
  induction h with
  | refl => exact .refl initial
  | tail _ hrun ih =>
    obtain ⟨topics, outcome, hrun⟩ := hrun
    exact ih.trans hrun.during.keepsUser

/-- Whatever runs there were before, a run keeps the sheets of the user at every moment. If it goes
through, the generated sheets are a table and a chart sheet for each of its topics with data. -/
theorem keepsUser_and_isCharted_of_history (hhistory : History spreadsheet initial book) :
    (∀ now, During spreadsheet book now → KeepsUser initial now) ∧
      ∀ topics after, Run spreadsheet topics (.ok ()) book after →
        IsCharted (tabTitles 0 topics) after :=
  ⟨fun _ hnow => hhistory.keepsUser.trans hnow.keepsUser, fun _ _ hrun => hrun.isCharted⟩

/-- Every run on the service is one of the runs. -/
theorem run_serve (spreadsheet : String) (others : (call : Call) → Except Fault call.Reply)
    (clients : Clients) (presentation : String) (topics : List Json) (book : Book) :
    Run spreadsheet topics
      ((writeTopics clients spreadsheet presentation (.arr topics)).run
        (Sheets.serve spreadsheet others) book).1 book
      ((writeTopics clients spreadsheet presentation (.arr topics)).run
        (Sheets.serve spreadsheet others) book).2 :=
  ⟨clients, presentation, _, Program.dialogue_transcript _ _ _, Sheets.meets_transcript _ _ _ _⟩

/-- A spreadsheet with a sheet of the user, a table and a chart sheet. -/
def notesBook : Book where
  sheets := [⟨1, "Notes", "GRID", [[.str "Ask Ann"]]⟩, ⟨4, "Data_9", "GRID", []⟩,
    ⟨5, "Chart5", "CHART", []⟩]
  nodup_ids := by decide

/-- An empty presentation that takes new slides or refuses them. -/
def emptyDeck (takes : Bool) : (call : Call) → Except Fault call.Reply
  | .slidesGet _ => .ok (.obj [])
  | .slidesUpdate .. => if takes then .ok (.obj []) else .error Sheets.refusal
  | _ => .error Sheets.refusal

/-- A run that draws two charts before its slides are refused. -/
def refusedRun : Except Fault Unit × Book :=
  (writeTopics ⟨some ⟨"login"⟩, some ⟨"login"⟩⟩ "book" "deck" (.arr [sampleTopic, sampleTopic])).run
    (Sheets.serve "book" (emptyDeck false)) notesBook

/-- The next run, where only the second topic has data. -/
def nextRun : Except Fault Unit × Book :=
  (writeTopics ⟨some ⟨"login"⟩, some ⟨"login"⟩⟩ "book" "deck" (.arr [.obj [], sampleTopic])).run
    (Sheets.serve "book" (emptyDeck true)) refusedRun.2

/-- The refused run leaves four generated sheets, and the next run leaves a table and its chart. -/
theorem keepsUser_and_isCharted_of_refusedRun :
    History "book" notesBook refusedRun.2 ∧ refusedRun.2.generated.length = 4 ∧
      nextRun.1.isOk = true ∧ KeepsUser notesBook nextRun.2 ∧ IsCharted ["Data_2"] nextRun.2 := by
  have hhistory : History "book" notesBook refusedRun.2 :=
    .single ⟨_, _, run_serve "book" (emptyDeck false) _ "deck" _ notesBook⟩
  have hleft : refusedRun.2.generated.length = 4 := by decide +kernel
  have hok : nextRun.1.isOk = true := by decide +kernel
  have hrun : Run "book" [.obj [], sampleTopic] nextRun.1 refusedRun.2 nextRun.2 :=
    run_serve "book" (emptyDeck true) _ "deck" _ refusedRun.2
  cases hnext : nextRun.1 with
  | error fault =>
    rw [hnext] at hok
    cases hok
  | ok value =>
    rw [hnext] at hrun
    obtain ⟨hkept, hcharted⟩ := keepsUser_and_isCharted_of_history hhistory
    exact ⟨hhistory, hleft, rfl, hkept _ hrun.during, hcharted _ _ hrun⟩

end DeckPlan.Slides
