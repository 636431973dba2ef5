import DeckPlan.Proofs.Sheets.Book
import Mathlib.Algebra.GroupWithZero.Nat
import Mathlib.Algebra.Order.BigOperators.Group.List
import Mathlib.Algebra.Order.Group.Nat

/-!
# A sheets service that runs

`serve` answers the calls about one spreadsheet from the spreadsheet itself: it adds and removes
sheets, writes cells and lists what is there. It refuses a title that is in use, the removal of a
sheet that is not there, and the removal of the last sheet; a refused batch changes nothing. All
other calls are answered by `others`, so any of them may be made to fail.

Every program that runs on this service meets it (`meets_transcript`).
-/

namespace DeckPlan.Sheets

namespace Book

/-- An identifier that no sheet has. -/
def freshId (book : Book) : Int :=
  (book.sheets.map fun sheet => sheet.id.natAbs).sum + 1

/-- A new sheet has an identifier of its own. -/
theorem freshId_notMem (book : Book) : book.freshId ∉ book.sheets.map Sheet.id := by
  intro h
  obtain ⟨sheet, hsheet, hid⟩ := List.mem_map.1 h
  have hle : sheet.id.natAbs ≤ (book.sheets.map fun sheet => sheet.id.natAbs).sum :=
    List.le_sum_of_mem (List.mem_map_of_mem hsheet)
  rw [freshId] at hid
  omega

/-- The spreadsheet with a new empty sheet. -/
def added (book : Book) (title type : String) : Book where
  sheets := { id := book.freshId, title, type, cells := [] } :: book.sheets
  nodup_ids := List.nodup_cons.2 ⟨book.freshId_notMem, book.nodup_ids⟩

/-- The spreadsheet without a sheet. -/
def removed (book : Book) (id : Int) : Book where
  sheets := book.sheets.filter fun sheet => sheet.id ≠ id
  nodup_ids := book.nodup_ids.sublist (List.filter_sublist.map _)

/-- The spreadsheet with other cells in the sheet of the given title. -/
def filled (book : Book) (title : String) (cells : List (List Json)) : Book where
  sheets := book.sheets.map fun sheet => if sheet.title = title then { sheet with cells } else sheet
  nodup_ids := by
    have hids : ∀ sheet : Sheet,
        (if sheet.title = title then { sheet with cells } else sheet).id = sheet.id := by
      intro sheet
      split <;> rfl
    simpa only [List.map_map, Function.comp_def, hids] using book.nodup_ids

/-- What a new chart sheet is called. -/
def chartTitle (book : Book) : String :=
  "Chart" ++ toString book.freshId

/-- Carries out one request and replies to it, unless it is refused. -/
def perform : Request → Book → Option (Json × Book)
  | .addSheet title, book =>
    if book.sheets.any (·.title = title) then none
    else some (.obj [("addSheet", .obj [("properties", .obj [("sheetId", .int book.freshId)])])],
      book.added title "GRID")
  | .addChart _, book =>
    some (.obj [("addChart", .obj [("chart", .obj [("chartId", .int book.freshId)])])],
      book.added book.chartTitle "CHART")
  | .deleteSheet (.int id), book =>
    if (book.sheets.map Sheet.id).contains id ∧ (book.removed id).sheets ≠ [] then
      some (.obj [], book.removed id)
    else none
  | .deleteSheet _, _ => none

/-- Carries out requests one after the other and replies to all of them, unless one is refused. -/
def performAll : List Request → Book → Option (List Json × Book)
  | [], book => some ([], book)
  | request :: requests, book => do
    let (reply, middle) ← book.perform request
    let (replies, after) ← middle.performAll requests
    some (reply :: replies, after)

end Book

/-- Why the service refuses requests. -/
def refusal : Fault :=
  .reported .webStatus "Invalid requests"

/-- Answers calls about a spreadsheet. -/
def answerOwn : (call : Call) → Book → Except Fault call.Reply × Book
  | .sheetsGet _ _, book => (.ok book.listing, book)
  | .sheetsUpdate _ requests, book =>
    match book.performAll requests with
    | some (replies, after) => (.ok (.obj [("replies", .arr replies)]), after)
    | none => (.error refusal, book)
  | .valuesClear _ range, book => (.ok (.obj []), book.filled range.sheet [])
  | .valuesUpdate _ range rows, book => (.ok (.obj []), book.filled range.sheet rows)
  | _, book => (.error refusal, book)

/-- Answers calls, those about the spreadsheet from the spreadsheet and all other calls as `others`
does. -/
def answerCall (spreadsheet : String) (others : (call : Call) → Except Fault call.Reply)
    (call : Call) (book : Book) : Except Fault call.Reply × Book :=
  if spreadsheet? call = some spreadsheet then answerOwn call book else (others call, book)

/-- Answers calls as `answerCall` does, and everything else in the same way each time. -/
def serve (spreadsheet : String) (others : (call : Call) → Except Fault call.Reply) :
    (action : Action) → Book → action.Answer × Book :=
  answerCalls (answerCall spreadsheet others)

theorem not_isTableTitle_chartTitle (book : Book) : ¬ IsTableTitle book.chartTitle := by
  rintro ⟨digits, -, -, h | h⟩ <;>
  · have hfirst := congrArg List.head? h
    rw [Book.chartTitle, String.toList_append] at hfirst
    exact absurd hfirst (by simp)

/-- The service changes a spreadsheet as the request says. -/
theorem changes_of_perform {request : Request} {book after : Book} {reply : Json}
    (h : book.perform request = some (reply, after)) : Changes request book after := by
  unfold Book.perform at h
  split at h
  · split at h
    · cases h
    · cases h
      exact .add _ ⟨rfl, rfl⟩ (.refl _)
  · cases h
    exact .add _ ⟨not_isTableTitle_chartTitle _, rfl⟩ (.refl _)
  · split at h
    · cases h
      exact .delete (.refl _)
    · cases h
  · cases h

/-- The service changes a spreadsheet as all requests say, one after the other. -/
theorem changesAll_of_performAll {requests : List Request} {book after : Book}
    {replies : List Json} (h : book.performAll requests = some (replies, after)) :
    ChangesAll requests book after := by
  induction requests generalizing book replies with
  | nil =>
    cases h
    exact .nil _
  | cons request requests ih =>
    obtain ⟨⟨reply, middle⟩, hfirst, hrest⟩ := Option.bind_eq_some_iff.1 h
    obtain ⟨⟨later, last⟩, hlater, hend⟩ := Option.bind_eq_some_iff.1 hrest
    cases hend
    exact .cons (changes_of_perform hfirst) (ih hlater)

theorem touches_filled (book : Book) (title : String) (cells : List (List Json)) :
    Touches title book (book.filled title cells) :=
  ⟨fun _ => cells, rfl⟩

/-- The service does what `Takes` asks of it. -/
theorem takes_answerCall (spreadsheet : String)
    (others : (call : Call) → Except Fault call.Reply) (call : Call) (book : Book) :
    Takes spreadsheet ⟨call, (answerCall spreadsheet others call book).1⟩ book
      (answerCall spreadsheet others call book).2 := by
  -- Only the calls for the spreadsheet reach it, and each of them names it.
  by_cases howns : spreadsheet? call = some spreadsheet
  · rw [answerCall, if_pos howns]
    cases call with
    | sheetsGet name fields =>
      obtain rfl := Option.some.inj howns
      exact .listed fields book
    | sheetsUpdate name requests =>
      obtain rfl := Option.some.inj howns
      rw [answerOwn]
      split
      · next hperform => exact .changed _ (changesAll_of_performAll hperform)
      · exact .unchanged requests refusal book
    | valuesClear name range =>
      obtain rfl := Option.some.inj howns
      exact .cleared _ (touches_filled book range.sheet [])
    | valuesUpdate name range rows =>
      obtain rfl := Option.some.inj howns
      exact .written rows _ (touches_filled book range.sheet rows)
    | _ => cases howns
  · rw [answerCall, if_neg howns]
    exact .elsewhere book howns

/-- Every program that runs on the service meets it. -/
theorem meets_transcript {α : Type} (spreadsheet : String)
    (others : (call : Call) → Except Fault call.Reply) (program : Program α) (book : Book) :
    Meets spreadsheet (program.transcript (serve spreadsheet others) book) book
      (program.run (serve spreadsheet others) book).2 := by
  induction program generalizing book with
  | done | fail => exact .nil _
  | act action next ih =>
    refine meets_append.2 ⟨(serve spreadsheet others action book).2, ?_, ih _ _⟩
    cases action with
    | call request => exact meets_singleton.2 (takes_answerCall spreadsheet others request book)
    | _ => exact .nil _

end DeckPlan.Sheets
