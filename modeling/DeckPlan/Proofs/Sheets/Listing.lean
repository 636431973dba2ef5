import DeckPlan.Proofs.Json.Access
import DeckPlan.Proofs.Outside.Order
import DeckPlan.Proofs.Text.Numeral
import DeckPlan.Sheets.Listing

/-!
# What is read from a listing, and the calls that follow from it

`listedSheets`, `looksGenerated`, `hasTitle` read a listing without failing. Wherever the program
can read a listing at all it finds the same (`eq_listedSheets`, `generated_eq_filter`,
`find?_eq_ok`), so what it asks for next can be told from the listing:

* `cleanupSteps` is the order of a cleanup, and `cleanUp` follows it (`follows_cleanUp`);
* `sheetSteps` is the order in which a sheet is found or added, and `ensureSheet` follows it
  (`follows_ensureSheet`).

`IsTableTitle` says which titles are those of generated tables; `isTableTitle` decides it.
-/

namespace DeckPlan.Sheets

/-! ## Titles of tables -/

/-- The title is `Data_` and one decimal digit or more, perhaps with a line break at the end. -/
def IsTableTitle (title : String) : Prop :=
  ∃ digits : List Char, digits ≠ [] ∧ (∀ c ∈ digits, Text.isDigit c = true) ∧
    (title.toList = "Data_".toList ++ digits ∨ title.toList = "Data_".toList ++ digits ++ ['\n'])

theorem withoutFinalBreak_of_digits {digits : List Char}
    (h : ∀ c ∈ digits, Text.isDigit c = true) : Text.withoutFinalBreak digits = digits := by
  rw [Text.withoutFinalBreak, if_neg]
  intro hlast
  have hdigit := h _ (List.mem_of_getLast? hlast)
  exact absurd hdigit (by decide)

theorem withoutFinalBreak_append_break (s : List Char) :
    Text.withoutFinalBreak (s ++ ['\n']) = s := by
  rw [Text.withoutFinalBreak, if_pos List.getLast?_concat, List.dropLast_concat]

/-- A text is what is left without its final line break, with or without a line break after it. -/
theorem eq_withoutFinalBreak_or (s : List Char) :
    s = Text.withoutFinalBreak s ∨ s = Text.withoutFinalBreak s ++ ['\n'] := by
  rw [Text.withoutFinalBreak]
  split
  · next h => exact .inr (List.dropLast_append_getLast? _ h).symm
  · exact .inl rfl

/-- The pattern for titles finds those of generated tables. -/
theorem isTableTitle_iff {title : String} : isTableTitle title = true ↔ IsTableTitle title := by
  rw [isTableTitle]
  constructor
  · intro h
    split at h
    · next rest hrest =>
      have htitle := List.isPrefixOf?_eq_some_iff_append_eq.1 hrest
      obtain ⟨hne, hall⟩ := Bool.and_eq_true_iff.1 h
      refine ⟨Text.withoutFinalBreak rest, by simpa using hne, by simpa using hall, ?_⟩
      rcases eq_withoutFinalBreak_or rest with heq | heq
      · exact .inl (by rw [← heq, htitle])
      · exact .inr (by rw [List.append_assoc, ← heq, htitle])
    · cases h
  · rintro ⟨digits, hne, hall, htitle⟩
    -- One line break may stand behind the digits, and the test drops it.
    have hrest : ∃ rest, "Data_".toList.isPrefixOf? title.toList = some rest ∧
        Text.withoutFinalBreak rest = digits := by
      rcases htitle with htitle | htitle
      · exact ⟨digits, List.isPrefixOf?_eq_some_iff_append_eq.2 htitle.symm,
          withoutFinalBreak_of_digits hall⟩
      · refine ⟨digits ++ ['\n'], List.isPrefixOf?_eq_some_iff_append_eq.2 ?_,
          withoutFinalBreak_append_break digits⟩
        rw [htitle, List.append_assoc]
    obtain ⟨rest, hstart, hdigits⟩ := hrest
    rw [hstart]
    simp only [hdigits]
    simpa [hne] using hall

instance (title : String) : Decidable (IsTableTitle title) :=
  decidable_of_iff _ isTableTitle_iff

/-- The title of the table of a topic is that of a table. -/
theorem isTableTitle_tableTitle (n : Nat) : IsTableTitle (tableTitle n) := by
  refine ⟨(toString n).toList, Text.numeral_ne_nil n, fun c hc => ?_, .inl ?_⟩
  · exact Text.isDigit_of_mem_numeral hc
  · rw [tableTitle, String.toList_append]
    rfl

/-- Different topics have tables with different titles. -/
theorem tableTitle_inj {m n : Nat} (h : tableTitle m = tableTitle n) : m = n := by
  have hlists := congrArg String.toList h
  rw [tableTitle, tableTitle, String.toList_append, String.toList_append] at hlists
  exact Text.numeral_inj (List.append_cancel_left hlists)

/-- The sheet that is put in place of the last one is not a generated table. -/
theorem not_isTableTitle_fallbackTitle : ¬ IsTableTitle fallbackTitle := by
  decide

/-! ## Reading a listing -/

/-- The properties of the sheets in a listing; empty entries are skipped. -/
def listedSheets (listing : Json) : List Json :=
  (listing.entries "sheets").map fun entry => (entry.field? "properties").getD (.obj [])

/-- The type of a sheet; a missing type is empty. -/
def typeOf (sheet : Json) : String :=
  (sheet.textOf? "sheetType").getD ""

/-- The title of a sheet, if it has one. -/
def titleOf? (sheet : Json) : Option String :=
  sheet.textOf? "title"

/-- Whether a sheet is a chart sheet or has the title of a table. -/
def looksGenerated (sheet : Json) : Bool :=
  Text.uppered (typeOf sheet) = "CHART" || (titleOf? sheet).any isTableTitle

/-- Whether a sheet has a title. -/
def hasTitle (title : String) (sheet : Json) : Bool :=
  titleOf? sheet = some title

/-- The identifier of a sheet. -/
def idOf (sheet : Json) : Json :=
  (sheet.field? "sheetId").getD .null

/-- The sheets that are read of a listing are those that it lists. -/
theorem eq_listedSheets {listing : Json} {sheets : List Json}
    (h : readListing listing = .ok sheets) : sheets = listedSheets listing := by
  obtain ⟨found, hfound, hread⟩ := bind_eq_ok.1 h
  obtain ⟨entries, hentries, hproperties⟩ := bind_eq_ok.1 hread
  exact Json.eq_map_entries hfound hentries hproperties

theorem eq_looksGenerated {sheet : Json} {found : Bool} (h : isGenerated sheet = .ok found) :
    found = looksGenerated sheet := by
  obtain ⟨value, hvalue, hrest⟩ := bind_eq_ok.1 h
  obtain ⟨type, htype, hjudged⟩ := bind_eq_ok.1 hrest
  obtain rfl := Json.text_eq_ok.1 htype
  have htypeOf : typeOf sheet = type := (Json.eq_textOf?_getD hvalue).symm
  rw [looksGenerated, htypeOf]
  split at hjudged
  · next hchart =>
    cases hjudged
    simp [hchart]
  · next hchart =>
    obtain ⟨value, htitle, hfound⟩ := bind_eq_ok.1 hjudged
    cases value with
    | str title =>
      cases hfound
      -- A missing title is read as an empty one, which is no table's.
      have hempty : isTableTitle "" = false := by decide
      rw [Json.eq_textOf?_getD htitle, titleOf?]
      cases sheet.textOf? "title" <;> simp [hchart, hempty]
    | null | bool | int | float | arr | obj => cases hfound

/-- The generated sheets that are found are those that look generated. -/
theorem generated_eq_filter {sheets doomed : List Json} (h : generated sheets = .ok doomed) :
    doomed = sheets.filter looksGenerated := by
  induction sheets generalizing doomed with
  | nil =>
    cases h
    rfl
  | cons sheet rest ih =>
    obtain ⟨found, hfound, hrest⟩ := bind_eq_ok.1 h
    obtain ⟨later, hlater, hdoomed⟩ := bind_eq_ok.1 hrest
    cases hdoomed
    rw [ih hlater, eq_looksGenerated hfound, List.filter_cons]

/-- The sheet that is found is the first one with the title. -/
theorem find?_eq_ok {title : String} {sheets : List Json} {found : Option Json}
    (h : find? title sheets = .ok found) :
    found = (sheets.find? (hasTitle title)).map idOf := by
  induction sheets with
  | nil =>
    cases h
    rfl
  | cons sheet rest ih =>
    obtain ⟨value, hvalue, hrest⟩ := bind_eq_ok.1 h
    obtain ⟨-, -, rfl⟩ := Json.field_eq_ok.1 hvalue
    rw [List.find?_cons]
    cases htitle : hasTitle title sheet with
    | true =>
      rw [Json.textOf?_eq_some.1 (by simpa [hasTitle] using htitle : titleOf? sheet = some title)]
        at hrest
      simp only [Option.getD_some, if_true] at hrest
      obtain ⟨id, hid, hfound⟩ := bind_eq_ok.1 hrest
      cases hfound
      have hidOf : idOf sheet = id := by rw [idOf, Json.require_eq_ok.1 hid, Option.getD_some]
      rw [← hidOf]
      rfl
    | false =>
      -- The search goes on behind a sheet without a title and behind one with another title.
      refine ih ?_
      split at hrest
      · next text htext =>
        rw [if_neg] at hrest
        · exact hrest
        · rintro rfl
          rw [hasTitle, titleOf?, Json.textOf?] at htitle
          cases hfield : sheet.field? "title" <;> simp_all
      · exact hrest

/-! ## The order of a cleanup -/

/-- The sheets of a listing that a cleanup removes. -/
def doomedSheets (listing : Json) : List Json :=
  (listedSheets listing).filter looksGenerated

/-- The requests of a cleanup: an empty sheet is added first if no listed one stays. -/
def cleanupRequests (listing : Json) : List Request :=
  (if (doomedSheets listing).length = (listedSheets listing).length then
    [.addSheet fallbackTitle] else []) ++
    (doomedSheets listing).map fun sheet => .deleteSheet (idOf sheet)

/-- A cleanup goes on after the listing: the sheets can be read, and those that are to be removed
have identifiers. -/
def IsCleanable (listing : Json) : Prop :=
  ∃ sheets doomed, readListing listing = .ok sheets ∧ generated sheets = .ok doomed ∧
    (doomed ≠ [] → ∃ requests, removalRequests sheets.length doomed = .ok requests)

/-- The calls of a cleanup. Nothing is changed if no listed sheet is to be removed. -/
def cleanupSteps (spreadsheet : String) (listing reply : Json) : List Step :=
  { call := .sheetsGet spreadsheet listedFields, accepts := IsCleanable, reply := listing } ::
    if (doomedSheets listing).isEmpty then []
    else
      [{ call := .sheetsUpdate spreadsheet (cleanupRequests listing)
         accepts := fun _ => True
         reply }]

theorem eq_map_deleteSheet {doomed : List Json} {removals : List Request}
    (h : doomed.mapM (fun sheet => (sheet.require "sheetId").map Request.deleteSheet) =
      .ok removals) : removals = doomed.map fun sheet => .deleteSheet (idOf sheet) := by
  refine eq_map_of_mapM h fun sheet removal hremoval => ?_
  cases hid : sheet.require "sheetId" with
  | error fault =>
    rw [hid] at hremoval
    cases hremoval
  | ok id =>
    rw [hid] at hremoval
    cases hremoval
    rw [idOf, Json.require_eq_ok.1 hid, Option.getD_some]

/-- The requests of a cleanup are determined by the listing. -/
theorem eq_cleanupRequests {listing : Json} {sheets doomed : List Json} {requests : List Request}
    (hsheets : readListing listing = .ok sheets) (hdoomed : generated sheets = .ok doomed)
    (h : removalRequests sheets.length doomed = .ok requests) :
    requests = cleanupRequests listing := by
  obtain ⟨removals, hremovals, hrequests⟩ := bind_eq_ok.1 h
  obtain rfl := eq_map_deleteSheet hremovals
  obtain rfl := generated_eq_filter hdoomed
  obtain rfl := eq_listedSheets hsheets
  cases hrequests
  rw [cleanupRequests, doomedSheets]
  split <;> rfl

/-- A program that goes on after a listing is over if the listing cannot be had or not be read. -/
theorem dialogue_list_bind {α : Type} {spreadsheet : String} {next : List Json → Program α}
    {exchanges : List Exchange} {outcome : Except Fault α} :
    ((list spreadsheet).bind next).Dialogue exchanges outcome ↔
      (∃ fault, exchanges = [⟨.sheetsGet spreadsheet listedFields, .error fault⟩] ∧
        outcome = .error fault) ∨
      ∃ (listing : Json) (rest : List Exchange),
        exchanges = ⟨.sheetsGet spreadsheet listedFields, .ok listing⟩ :: rest ∧
          ((∃ fault, readListing listing = .error fault ∧ rest = [] ∧ outcome = .error fault) ∨
            ∃ sheets, readListing listing = .ok sheets ∧ (next sheets).Dialogue rest outcome) := by
  have hassoc : (list spreadsheet).bind next =
      (Program.call (.sheetsGet spreadsheet listedFields)).bind fun listing =>
        (Program.ofExcept (readListing listing)).bind next :=
    Program.bind_assoc _ _ _
  rw [hassoc, Program.dialogue_call_bind]
  simp only [Program.trace_ofExcept_bind]

/-- The spreadsheet that a call asks for or changes. -/
def spreadsheet? : Call → Option String
  | .sheetsGet spreadsheet _ | .sheetsUpdate spreadsheet _ | .valuesClear spreadsheet _
  | .valuesUpdate spreadsheet .. => some spreadsheet
  | _ => none

theorem spreadsheet?_of_mem_cleanupSteps {spreadsheet : String} {listing reply : Json}
    {step : Step} (h : step ∈ cleanupSteps spreadsheet listing reply) :
    spreadsheet? step.call = some spreadsheet := by
  rw [cleanupSteps] at h
  rcases List.mem_cons.1 h with rfl | h
  · rfl
  · split at h
    · cases h
    · obtain rfl := List.mem_singleton.1 h
      rfl

/-- Every cleanup follows its order. -/
theorem follows_cleanUp {spreadsheet : String} {exchanges : List Exchange}
    {outcome : Except Fault Unit} (h : (cleanUp spreadsheet).Dialogue exchanges outcome) :
    ∃ listing reply,
      Follows True (cleanupSteps spreadsheet listing reply) exchanges outcome := by
  rcases dialogue_list_bind.1 h with ⟨fault, rfl, rfl⟩ |
    ⟨listing, rest, rfl, ⟨fault, hread, rfl, rfl⟩ | ⟨sheets, hread, hrest⟩⟩
  · exact ⟨.null, .null, .refused _ (Step.refuses_error _)⟩
  · exact ⟨listing, .null, .refused _ (Step.refuses_ok (by simp [IsCleanable, hread]))⟩
  rcases Program.trace_ofExcept_bind.1 hrest with
    ⟨fault, hgenerated, rfl, rfl⟩ | ⟨doomed, hgenerated, hrest⟩
  · exact ⟨listing, .null,
      .refused _ (Step.refuses_ok (by simp [IsCleanable, hread, hgenerated]))⟩
  have hdoomed : doomed = doomedSheets listing := by
    rw [generated_eq_filter hgenerated, eq_listedSheets hread, doomedSheets]
  split at hrest
  · next hempty =>
    -- Nothing is to be removed.
    obtain ⟨rfl, rfl⟩ := hrest
    refine ⟨listing, .null, .accepted ⟨sheets, doomed, hread, hgenerated, fun hne => ?_⟩ ?_⟩
    · exact absurd (List.isEmpty_iff.1 hempty) hne
    · rw [← hdoomed, if_pos hempty]
      exact .complete ()
  next hne =>
  rcases Program.trace_ofExcept_bind.1 hrest with
    ⟨fault, hremoval, rfl, rfl⟩ | ⟨requests, hremoval, hrest⟩
  · refine ⟨listing, .null, .refused _ (Step.refuses_ok ?_)⟩
    simpa [IsCleanable, hread, hgenerated, hremoval] using hne
  · obtain ⟨reply, later, rfl, hend⟩ := Program.dialogue_attempt_call_bind.1 hrest
    have haccepted : IsCleanable listing :=
      ⟨sheets, doomed, hread, hgenerated, fun _ => ⟨requests, hremoval⟩⟩
    obtain rfl := eq_cleanupRequests hread hgenerated hremoval
    cases reply with
    | ok reply =>
      obtain ⟨rfl, rfl⟩ := Program.dialogue_log.1 hend
      refine ⟨listing, reply, .accepted haccepted ?_⟩
      rw [← hdoomed, if_neg hne]
      exact .accepted trivial (.complete ())
    | error fault =>
      obtain ⟨rfl, rfl⟩ := Program.dialogue_log_bind.1 hend
      refine ⟨listing, .null, .accepted haccepted ?_⟩
      rw [← hdoomed, if_neg hne]
      exact .refused _ (Step.refuses_error _)

/-! ## The order in which a sheet is found or added -/

/-- The reply to the addition of a sheet names the new sheet. -/
def addedSheet? (reply : Json) : Option Json :=
  replyPart? reply ["addSheet", "properties", "sheetId"]

/-- A sheet with a title can be looked for in the listing. -/
def IsSearchable (title : String) (listing : Json) : Prop :=
  ∃ sheets found, readListing listing = .ok sheets ∧ find? title sheets = .ok found

/-- The calls that find a sheet by its title. It is added if no listed sheet has the title. -/
def sheetSteps (spreadsheet title : String) (listing reply : Json) : List Step :=
  { call := .sheetsGet spreadsheet listedFields
    accepts := IsSearchable title
    reply := listing } ::
    if (listedSheets listing).any (hasTitle title) then []
    else
      [{ call := .sheetsUpdate spreadsheet [.addSheet title]
         accepts := fun reply => (addedSheet? reply).isSome
         reply }]

/-- The identifier of the sheet that is found or added. -/
def sheetFor (title : String) (listing reply : Json) : Json :=
  (((listedSheets listing).find? (hasTitle title)).map idOf).getD ((addedSheet? reply).getD .null)

/-- Whoever looks for a sheet by its title follows the order and gets the sheet found or added. -/
theorem follows_ensureSheet {spreadsheet title : String}
    {exchanges : List Exchange} {outcome : Except Fault Json}
    (h : (ensureSheet spreadsheet title).Dialogue exchanges outcome) :
    ∃ listing reply,
      Follows True (sheetSteps spreadsheet title listing reply) exchanges outcome ∧
        ∀ sheet, outcome = .ok sheet → sheet = sheetFor title listing reply := by
  rcases dialogue_list_bind.1 h with ⟨fault, rfl, rfl⟩ |
    ⟨listing, rest, rfl, ⟨fault, hread, rfl, rfl⟩ | ⟨sheets, hread, hrest⟩⟩
  · exact ⟨.null, .null, .refused _ (Step.refuses_error _), fun _ h => nomatch h⟩
  · exact ⟨listing, .null, .refused _ (Step.refuses_ok (by simp [IsSearchable, hread])),
      fun _ h => nomatch h⟩
  rcases Program.trace_ofExcept_bind.1 hrest with
    ⟨fault, hfind, rfl, rfl⟩ | ⟨found, hfind, hrest⟩
  · exact ⟨listing, .null, .refused _ (Step.refuses_ok (by simp [IsSearchable, hread, hfind])),
      fun _ h => nomatch h⟩
  -- The sheet is known from the listing, or it has to be added in a second call.
  have haccepted : IsSearchable title listing := ⟨sheets, found, hread, hfind⟩
  have hfound := find?_eq_ok hfind
  rw [eq_listedSheets hread] at hfound
  have hany : (listedSheets listing).any (hasTitle title) = found.isSome := by
    rw [hfound, Option.isSome_map, List.isSome_find?]
  cases found with
  | some sheet =>
    obtain ⟨rfl, rfl⟩ := hrest
    have hlisted : (listedSheets listing).any (hasTitle title) = true := hany
    refine ⟨listing, .null, .accepted haccepted ?_, fun found heq => ?_⟩
    · rw [if_pos hlisted]
      exact .complete sheet
    · cases heq
      rw [sheetFor, ← hfound, Option.getD_some]
  | none =>
    have hsteps : ∀ reply, sheetSteps spreadsheet title listing reply =
        [⟨.sheetsGet spreadsheet listedFields, IsSearchable title, listing⟩,
          ⟨.sheetsUpdate spreadsheet [.addSheet title], fun reply => (addedSheet? reply).isSome,
            reply⟩] := by
      intro reply
      rw [sheetSteps, if_neg (by simp [hany])]
    rcases Program.dialogue_call_bind.1 hrest with ⟨fault, rfl, rfl⟩ | ⟨reply, later, rfl, hend⟩
    · refine ⟨listing, .null, ?_, fun _ h => nomatch h⟩
      rw [hsteps]
      exact .accepted haccepted (.refused _ (Step.refuses_error _))
    · refine ⟨listing, reply, ?_⟩
      rw [hsteps, sheetFor, ← hfound]
      split at hend
      · next sheet hsheet =>
        obtain ⟨rfl, rfl⟩ := hend
        refine ⟨.accepted haccepted (.accepted (Option.isSome_of_mem hsheet) (.complete sheet)), ?_⟩
        intro found heq
        cases heq
        rw [addedSheet?, hsheet]
        rfl
      · next hnone =>
        obtain ⟨rfl, rfl⟩ := hend
        refine ⟨.accepted haccepted (.refused _ (Step.refuses_ok ?_)), fun _ h => nomatch h⟩
        simp [addedSheet?, hnone]

end DeckPlan.Sheets
