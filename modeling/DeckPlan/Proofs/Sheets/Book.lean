import DeckPlan.Proofs.Sheets.Chart
import Mathlib.Data.List.Nodup

/-!
# A model of the sheets service

A `Book` is a spreadsheet as the service keeps it: sheets with identifiers of their own. `Takes`
says what one call may do to it. Requests add and remove sheets, a call about cells changes only the
sheet that it names, and a listing is that of the current sheets. A call that fails was carried out
wholly or not at all. `Meets` says the same of all calls of a dialogue.

Sheets are generated, as tables and charts of topics, or they belong to the user.

* Calls that only add sheets and write tables keep all sheets of the user (`Meets.keepsUser`), and
  so does a cleanup (`ChangesAll.keepsUser_cleanup`).
* After a cleanup no sheet is generated (`ChangesAll.generated_cleanup`), and drawing a chart adds
  one table and one chart sheet (`Meets.chart`).
-/

namespace DeckPlan.Sheets

/-! ## Sheets and books -/

/-- A sheet of a spreadsheet. -/
structure Sheet where
  id : Int
  title : String
  type : String
  /-- The values of the cells, in rows. -/
  cells : List (List Json)

/-- A spreadsheet. Its sheets have different identifiers. -/
structure Book where
  sheets : List Sheet
  nodup_ids : (sheets.map Sheet.id).Nodup

namespace Sheet

/-- A sheet is generated if it is a chart sheet or has the title of a table. The service writes the
types of sheets in capital letters; a type in other letters is taken for the same type. -/
def IsGenerated (sheet : Sheet) : Prop :=
  Text.uppered sheet.type = "CHART" ∨ IsTableTitle sheet.title

instance (sheet : Sheet) : Decidable sheet.IsGenerated :=
  inferInstanceAs (Decidable (_ ∨ _))

/-- The properties of a sheet in a listing. -/
def properties (sheet : Sheet) : Json :=
  .obj [("sheetId", .int sheet.id), ("title", .str sheet.title), ("sheetType", .str sheet.type)]

/-- What tells generated sheets from each other: title and type. -/
def face (sheet : Sheet) : String × String :=
  (sheet.title, sheet.type)

end Sheet

namespace Book

/-- The listing of a spreadsheet. -/
def listing (book : Book) : Json :=
  .obj [("sheets", .arr (book.sheets.map fun sheet => .obj [("properties", sheet.properties)]))]

/-- The generated sheets of a spreadsheet, by title and type. -/
def generated (book : Book) : List (String × String) :=
  (book.sheets.filter fun sheet => sheet.IsGenerated).map Sheet.face

/-- No two sheets have one identifier. -/
theorem eq_of_id_eq {book : Book} {sheet other : Sheet} (hsheet : sheet ∈ book.sheets)
    (hother : other ∈ book.sheets) (h : sheet.id = other.id) : sheet = other :=
  List.inj_on_of_nodup_map book.nodup_ids hsheet hother h

end Book

/-! ## The service -/

/-- The sheet is one that the request may add. -/
def Adds : Request → Sheet → Prop
  | .addSheet title, new => new.title = title ∧ new.type = "GRID"
  | .addChart _, new => ¬ IsTableTitle new.title ∧ new.type = "CHART"
  | .deleteSheet _, _ => False

/-- What one request does to a spreadsheet. A new sheet has an identifier of its own. -/
inductive Changes : Request → Book → Book → Prop
  | add {request : Request} {book after : Book} (new : Sheet) :
      Adds request new → after.sheets.Perm (new :: book.sheets) → Changes request book after
  | delete {id : Int} {book after : Book} :
      after.sheets.Perm (book.sheets.filter fun sheet => sheet.id ≠ id) →
        Changes (.deleteSheet (.int id)) book after

/-- What requests do to a spreadsheet one after the other. -/
inductive ChangesAll : List Request → Book → Book → Prop
  | nil (book : Book) : ChangesAll [] book book
  | cons {request : Request} {requests : List Request} {book middle after : Book} :
      Changes request book middle → ChangesAll requests middle after →
        ChangesAll (request :: requests) book after

/-- The cells of the sheets with a title change, and nothing else. -/
def Touches (title : String) (book after : Book) : Prop :=
  ∃ cells : Sheet → List (List Json), after.sheets =
    book.sheets.map fun sheet =>
      if sheet.title = title then { sheet with cells := cells sheet } else sheet

/-- What a call with its reply does to the spreadsheet with the given name. A change that fails was
made wholly or not at all. -/
inductive Takes (spreadsheet : String) : Exchange → Book → Book → Prop
  | listed (fields : String) (book : Book) :
      Takes spreadsheet ⟨.sheetsGet spreadsheet fields, .ok book.listing⟩ book book
  | unlisted (fields : String) (fault : Fault) (book : Book) :
      Takes spreadsheet ⟨.sheetsGet spreadsheet fields, .error fault⟩ book book
  | changed {requests : List Request} {book after : Book} (reply : Except Fault Json) :
      ChangesAll requests book after →
        Takes spreadsheet ⟨.sheetsUpdate spreadsheet requests, reply⟩ book after
  | unchanged (requests : List Request) (fault : Fault) (book : Book) :
      Takes spreadsheet ⟨.sheetsUpdate spreadsheet requests, .error fault⟩ book book
  | cleared {range : CellRange} {book after : Book} (reply : Except Fault Json) :
      Touches range.sheet book after →
        Takes spreadsheet ⟨.valuesClear spreadsheet range, reply⟩ book after
  | written {range : CellRange} {book after : Book} (rows : List (List Json))
      (reply : Except Fault Json) :
      Touches range.sheet book after →
        Takes spreadsheet ⟨.valuesUpdate spreadsheet range rows, reply⟩ book after
  | elsewhere {exchange : Exchange} (book : Book) :
      spreadsheet? exchange.call ≠ some spreadsheet → Takes spreadsheet exchange book book

/-- What the calls of a dialogue do to the spreadsheet one after the other. -/
inductive Meets (spreadsheet : String) : List Exchange → Book → Book → Prop
  | nil (book : Book) : Meets spreadsheet [] book book
  | cons {exchange : Exchange} {exchanges : List Exchange} {book middle after : Book} :
      Takes spreadsheet exchange book middle → Meets spreadsheet exchanges middle after →
        Meets spreadsheet (exchange :: exchanges) book after

variable {spreadsheet : String} {book middle after : Book}

/-- A spreadsheet meets exchanges one after the other. -/
theorem meets_append {first second : List Exchange} :
    Meets spreadsheet (first ++ second) book after ↔
      ∃ middle, Meets spreadsheet first book middle ∧ Meets spreadsheet second middle after := by
  induction first generalizing book with
  | nil =>
    constructor
    · intro h
      exact ⟨book, .nil book, h⟩
    · rintro ⟨middle, hfirst, hsecond⟩
      cases hfirst
      exact hsecond
  | cons exchange first ih =>
    constructor
    · rintro (_ | ⟨hexchange, hrest⟩)
      obtain ⟨middle, hfirst, hsecond⟩ := ih.1 hrest
      exact ⟨middle, .cons hexchange hfirst, hsecond⟩
    · rintro ⟨middle, _ | ⟨hexchange, hfirst⟩, hsecond⟩
      exact .cons hexchange (ih.2 ⟨middle, hfirst, hsecond⟩)

theorem meets_singleton {exchange : Exchange} :
    Meets spreadsheet [exchange] book after ↔ Takes spreadsheet exchange book after := by
  constructor
  · rintro (_ | ⟨h, ⟨⟩⟩)
    exact h
  · intro h
    exact .cons h (.nil after)

namespace Takes

/-- A listing shows the current sheets and changes nothing. -/
theorem of_get {fields : String} {reply : Except Fault Json}
    (h : Takes spreadsheet ⟨.sheetsGet spreadsheet fields, reply⟩ book after) :
    after = book ∧ ∀ listing, reply = .ok listing → listing = book.listing := by
  cases h with
  | listed => exact ⟨rfl, fun _ heq => (Except.ok.inj heq).symm⟩
  | unlisted => exact ⟨rfl, fun _ heq => nomatch heq⟩
  | elsewhere _ hne => exact absurd rfl hne

/-- An update that is refused changes nothing, and otherwise all of its requests take effect. -/
theorem of_update {requests : List Request} {reply : Except Fault Json}
    (h : Takes spreadsheet ⟨.sheetsUpdate spreadsheet requests, reply⟩ book after) :
    ChangesAll requests book after ∨ (∃ fault, reply = .error fault) ∧ after = book := by
  cases h with
  | changed _ hchanges => exact .inl hchanges
  | unchanged _ fault => exact .inr ⟨⟨fault, rfl⟩, rfl⟩
  | elsewhere _ hne => exact absurd rfl hne

/-- Cells are emptied in one sheet only. -/
theorem of_clear {range : CellRange} {reply : Except Fault Json}
    (h : Takes spreadsheet ⟨.valuesClear spreadsheet range, reply⟩ book after) :
    Touches range.sheet book after := by
  cases h with
  | cleared _ htouches => exact htouches
  | elsewhere _ hne => exact absurd rfl hne

/-- Cells are written in one sheet only. -/
theorem of_write {range : CellRange} {rows : List (List Json)} {reply : Except Fault Json}
    (h : Takes spreadsheet ⟨.valuesUpdate spreadsheet range rows, reply⟩ book after) :
    Touches range.sheet book after := by
  cases h with
  | written _ _ htouches => exact htouches
  | elsewhere _ hne => exact absurd rfl hne

/-- Only calls about the spreadsheet change it. -/
theorem eq_of_elsewhere {exchange : Exchange} (h : Takes spreadsheet exchange book after)
    (hne : spreadsheet? exchange.call ≠ some spreadsheet) : after = book := by
  cases h with
  | elsewhere => rfl
  | _ => exact absurd rfl hne

end Takes

/-- Calls for other documents leave a spreadsheet as it is. -/
theorem Meets.eq_of_elsewhere {exchanges : List Exchange}
    (h : Meets spreadsheet exchanges book after)
    (hne : ∀ exchange ∈ exchanges, spreadsheet? exchange.call ≠ some spreadsheet) :
    after = book := by
  induction h with
  | nil => rfl
  | cons hexchange _ ih =>
    obtain ⟨hfirst, hrest⟩ := List.forall_mem_cons.1 hne
    rw [ih hrest, hexchange.eq_of_elsewhere hfirst]

/-! ## Sheets that stay -/

/-- All sheets of the user are still there, with everything that is in them. -/
def KeepsUser (book after : Book) : Prop :=
  ∀ sheet ∈ book.sheets, ¬ sheet.IsGenerated → sheet ∈ after.sheets

theorem KeepsUser.refl (book : Book) : KeepsUser book book :=
  fun _ hsheet _ => hsheet

/-- What is kept twice is kept. -/
theorem KeepsUser.trans (hfirst : KeepsUser book middle) (hsecond : KeepsUser middle after) :
    KeepsUser book after :=
  fun sheet hsheet huser => hsecond sheet (hfirst sheet hsheet huser) huser

/-- A sheet that no request removes stays. -/
theorem ChangesAll.mem {requests : List Request} {sheet : Sheet}
    (h : ChangesAll requests book after) (hsheet : sheet ∈ book.sheets)
    (hkept : ∀ id, .deleteSheet (.int id) ∈ requests → sheet.id ≠ id) : sheet ∈ after.sheets := by
  induction h with
  | nil => exact hsheet
  | cons hchanges _ ih =>
    refine ih ?_ fun id hid => hkept id (List.mem_cons_of_mem _ hid)
    cases hchanges with
    | add new _ hperm => exact hperm.symm.subset (List.mem_cons_of_mem _ hsheet)
    | delete hperm =>
      refine hperm.symm.subset (List.mem_filter.2 ⟨hsheet, ?_⟩)
      simpa using hkept _ List.mem_cons_self

/-- A sheet that is there after some requests was there before and not removed, or was added. -/
theorem ChangesAll.mem_cases {requests : List Request} {sheet : Sheet}
    (h : ChangesAll requests book after) (hsheet : sheet ∈ after.sheets) :
    (sheet ∈ book.sheets ∧ ∀ id, .deleteSheet (.int id) ∈ requests → sheet.id ≠ id) ∨
      ∃ request ∈ requests, Adds request sheet := by
  induction h with
  | nil => exact .inl ⟨hsheet, fun _ hid => nomatch hid⟩
  | cons hchanges _ ih =>
    -- By induction, the sheet is there after the first change or is added later.
    rcases ih hsheet with ⟨hmiddle, hkept⟩ | ⟨request, hrequest, hadds⟩
    · cases hchanges with
      | add new hadds hperm =>
        rcases List.mem_cons.1 (hperm.subset hmiddle) with rfl | hbook
        · exact .inr ⟨_, List.mem_cons_self, hadds⟩
        · refine .inl ⟨hbook, fun id hid => ?_⟩
          rcases List.mem_cons.1 hid with rfl | hid
          · cases hadds
          · exact hkept id hid
      | delete hperm =>
        -- It was not the one that was deleted, as it is still there.
        obtain ⟨hbook, hne⟩ := List.mem_filter.1 (hperm.subset hmiddle)
        refine .inl ⟨hbook, fun id hid => ?_⟩
        rcases List.mem_cons.1 hid with heq | hid
        · cases heq
          simpa using hne
        · exact hkept id hid
    · exact .inr ⟨request, List.mem_cons_of_mem _ hrequest, hadds⟩

/-- The call removes no sheet and writes only in tables. -/
def SparesUser : Call → Prop
  | .sheetsUpdate _ requests => ∀ id, .deleteSheet id ∉ requests
  | .valuesClear _ range | .valuesUpdate _ range _ => IsTableTitle range.sheet
  | _ => True

/-- Whoever touches a generated table keeps the sheets of the user. -/
theorem Touches.keepsUser {title : String} (h : Touches title book after)
    (htitle : IsTableTitle title) : KeepsUser book after := by
  obtain ⟨cells, hafter⟩ := h
  intro sheet hsheet huser
  rw [hafter]
  refine List.mem_map.2 ⟨sheet, hsheet, if_neg ?_⟩
  rintro rfl
  exact huser (.inr htitle)

/-- An exchange that spares the user keeps the sheets of the user. -/
theorem Takes.keepsUser {exchange : Exchange} (h : Takes spreadsheet exchange book after)
    (hspares : SparesUser exchange.call) : KeepsUser book after := by
  cases h with
  | listed | unlisted | unchanged | elsewhere => exact .refl _
  | changed _ hchanges =>
    exact fun sheet hsheet _ => hchanges.mem hsheet fun id hid => absurd hid (hspares _)
  | cleared _ htouches => exact htouches.keepsUser hspares
  | written _ _ htouches => exact htouches.keepsUser hspares

/-- Exchanges that spare the user keep the sheets of the user. -/
theorem Meets.keepsUser {exchanges : List Exchange} (h : Meets spreadsheet exchanges book after)
    (hspares : ∀ exchange ∈ exchanges, SparesUser exchange.call) : KeepsUser book after := by
  induction h with
  | nil => exact .refl _
  | cons hexchange _ ih =>
    obtain ⟨hfirst, hrest⟩ := List.forall_mem_cons.1 hspares
    exact (hexchange.keepsUser hfirst).trans (ih hrest)

theorem sparesUser_of_spreadsheet? {call : Call} (h : spreadsheet? call = none) :
    SparesUser call := by
  cases call with
  | sheetsUpdate | valuesClear | valuesUpdate => cases h
  | _ => trivial

/-- Charts are drawn from tables, so drawing one removes no sheet and writes only in a table. -/
theorem sparesUser_of_mem_chartSteps {tab : String} {dataset : Json} {replies : ChartReplies}
    {step : Step} (htab : IsTableTitle tab)
    (h : step ∈ chartSteps spreadsheet tab dataset replies) : SparesUser step.call := by
  have hadd : ∀ {request : Request}, (∀ id, request ≠ .deleteSheet id) →
      ∀ id, .deleteSheet id ∉ [request] :=
    fun hne id hmem => hne id (List.mem_singleton.1 hmem).symm
  rcases List.mem_append.1 h with h | h
  · rw [sheetSteps] at h
    rcases List.mem_cons.1 h with rfl | h
    · trivial
    · split at h
      · cases h
      · obtain rfl := List.mem_singleton.1 h
        exact hadd (by rintro _ ⟨⟩)
  · simp only [plotSteps, List.mem_cons, List.not_mem_nil, or_false] at h
    rcases h with rfl | rfl | rfl
    · exact htab
    · exact htab
    · exact hadd (by rintro _ ⟨⟩)

/-! ## What the program reads in a listing -/

theorem textOf?_properties (sheet : Sheet) :
    sheet.properties.textOf? "title" = some sheet.title ∧
      sheet.properties.textOf? "sheetType" = some sheet.type := by
  simp [Json.textOf?_eq_some, Sheet.properties, Json.field?, Fields.get?_cons]

/-- The listing of a spreadsheet lists its sheets. -/
theorem listedSheets_listing (book : Book) :
    listedSheets book.listing = book.sheets.map Sheet.properties := by
  have hentries : book.listing.entries "sheets" =
      book.sheets.map fun sheet => .obj [("properties", sheet.properties)] := by
    simp [Json.entries, Book.listing, Json.field?, Fields.get?_cons, Json.isGiven]
  rw [listedSheets, hentries, List.map_map]
  rfl

theorem looksGenerated_properties (sheet : Sheet) :
    looksGenerated sheet.properties = decide sheet.IsGenerated := by
  obtain ⟨htitle, htype⟩ := textOf?_properties sheet
  have htable : isTableTitle sheet.title = decide (IsTableTitle sheet.title) := by
    rw [Bool.eq_iff_iff, isTableTitle_iff, decide_eq_true_iff]
  rw [looksGenerated, typeOf, htype, titleOf?, htitle, Option.getD_some, Option.any_some, htable,
    ← Bool.decide_or]
  rfl

theorem hasTitle_properties (title : String) (sheet : Sheet) :
    hasTitle title sheet.properties = decide (sheet.title = title) := by
  rw [hasTitle, titleOf?, (textOf?_properties sheet).1]
  simp

theorem idOf_properties (sheet : Sheet) : idOf sheet.properties = .int sheet.id := by
  simp [idOf, Sheet.properties, Json.field?, Fields.get?_cons]

/-- The sheets that a cleanup removes are the generated ones. -/
theorem doomedSheets_listing (book : Book) :
    doomedSheets book.listing =
      (book.sheets.filter fun sheet => sheet.IsGenerated).map Sheet.properties := by
  have hsame : ∀ sheet ∈ book.sheets,
      (looksGenerated ∘ Sheet.properties) sheet = decide sheet.IsGenerated := by
    intro sheet _
    rw [Function.comp_apply, looksGenerated_properties]
  rw [doomedSheets, listedSheets_listing, List.filter_map, List.filter_congr hsame]

/-! ## Cleanups -/

/-- A cleanup removes the generated sheets. -/
theorem mem_cleanupRequests_iff {id : Int} :
    .deleteSheet (.int id) ∈ cleanupRequests book.listing ↔
      ∃ sheet ∈ book.sheets, sheet.IsGenerated ∧ sheet.id = id := by
  rw [cleanupRequests, doomedSheets_listing, List.mem_append]
  constructor
  · rintro (hadd | hdelete)
    · split at hadd
      · cases List.mem_singleton.1 hadd
      · cases hadd
    · obtain ⟨properties, hproperties, heq⟩ := List.mem_map.1 hdelete
      obtain ⟨sheet, hsheet, rfl⟩ := List.mem_map.1 hproperties
      obtain ⟨hbook, hgenerated⟩ := List.mem_filter.1 hsheet
      rw [idOf_properties] at heq
      cases heq
      exact ⟨sheet, hbook, of_decide_eq_true hgenerated, rfl⟩
  · rintro ⟨sheet, hsheet, hgenerated, rfl⟩
    refine .inr (List.mem_map.2 ⟨sheet.properties, List.mem_map.2 ⟨sheet, ?_, rfl⟩, ?_⟩)
    · exact List.mem_filter.2 ⟨hsheet, decide_eq_true hgenerated⟩
    · rw [idOf_properties]

/-- All that a cleanup adds is an empty sheet that is not generated. -/
theorem not_isGenerated_of_adds {listing : Json} {request : Request} {sheet : Sheet}
    (hrequest : request ∈ cleanupRequests listing) (hadds : Adds request sheet) :
    ¬ sheet.IsGenerated := by
  rcases List.mem_append.1 hrequest with hadd | hdelete
  · split at hadd
    · obtain rfl := List.mem_singleton.1 hadd
      obtain ⟨htitle, htype⟩ := hadds
      have hgrid : Text.uppered "GRID" ≠ "CHART" := by decide
      rw [Sheet.IsGenerated, htitle, htype]
      exact not_or.2 ⟨hgrid, not_isTableTitle_fallbackTitle⟩
    · cases hadd
  · obtain ⟨doomed, -, rfl⟩ := List.mem_map.1 hdelete
    cases hadds

/-- A cleanup keeps the sheets of the user. -/
theorem ChangesAll.keepsUser_cleanup (h : ChangesAll (cleanupRequests book.listing) book after) :
    KeepsUser book after := by
  intro sheet hsheet huser
  refine h.mem hsheet fun id hid heq => huser ?_
  obtain ⟨doomed, hdoomed, hgenerated, hsame⟩ := mem_cleanupRequests_iff.1 hid
  obtain rfl := Book.eq_of_id_eq hsheet hdoomed (heq.trans hsame.symm)
  exact hgenerated

/-- After a cleanup no sheet is generated. -/
theorem ChangesAll.generated_cleanup (h : ChangesAll (cleanupRequests book.listing) book after) :
    after.generated = [] := by
  rw [Book.generated, List.map_eq_nil_iff, List.filter_eq_nil_iff]
  intro sheet hsheet hgenerated
  replace hgenerated := of_decide_eq_true hgenerated
  rcases h.mem_cases hsheet with ⟨hbook, hkept⟩ | ⟨request, hrequest, hadds⟩
  · exact hkept sheet.id (mem_cleanupRequests_iff.2 ⟨sheet, hbook, hgenerated, rfl⟩) rfl
  · exact not_isGenerated_of_adds hrequest hadds hgenerated

/-- A cleanup keeps the sheets of the user, whether or not it is carried out. -/
theorem Takes.keepsUser_cleanup {reply : Except Fault Json}
    (h : Takes spreadsheet ⟨.sheetsUpdate spreadsheet (cleanupRequests book.listing), reply⟩ book
      after) : KeepsUser book after := by
  rcases h.of_update with hchanges | ⟨-, rfl⟩
  · exact hchanges.keepsUser_cleanup
  · exact .refl after

/-- A cleanup keeps the sheets of the user at every moment. -/
theorem Meets.keepsUser_cleanup {listing reply : Json} {exchanges : List Exchange}
    (hagrees : Agrees (cleanupSteps spreadsheet listing reply) exchanges)
    (h : Meets spreadsheet exchanges book after) : KeepsUser book after := by
  -- The exchanges may end before the listing, with it, or with the update after it.
  rw [cleanupSteps] at hagrees
  cases hagrees with
  | nil =>
    cases h
    exact .refl book
  | @last _ _ exchange hcall =>
    exact (meets_singleton.1 h).keepsUser (by rw [hcall]; trivial)
  | cons hagrees =>
    obtain _ | ⟨hget, hrest⟩ := h
    obtain ⟨rfl, hlisting⟩ := hget.of_get
    obtain rfl := hlisting _ rfl
    split at hagrees
    · cases hagrees
      cases hrest
      exact .refl _
    · cases hagrees with
      | nil =>
        cases hrest
        exact .refl _
      | @last _ _ exchange hcall =>
        obtain ⟨call, answer⟩ := exchange
        obtain rfl := hcall
        exact (meets_singleton.1 hrest).keepsUser_cleanup
      | cons hnil =>
        cases hnil
        exact (meets_singleton.1 hrest).keepsUser_cleanup

/-- After a cleanup that goes through no sheet is generated. -/
theorem Meets.generated_cleanup {listing reply : Json}
    (h : Meets spreadsheet ((cleanupSteps spreadsheet listing reply).map Step.exchange) book
      after) : after.generated = [] := by
  rw [cleanupSteps, List.map_cons] at h
  obtain _ | ⟨hget, hrest⟩ := h
  obtain ⟨rfl, hlisting⟩ := hget.of_get
  obtain rfl := hlisting _ rfl
  split at hrest
  · next hnone =>
    cases hrest
    rw [List.isEmpty_iff, doomedSheets_listing, List.map_eq_nil_iff] at hnone
    rw [Book.generated, hnone, List.map_nil]
  · rcases (meets_singleton.1 hrest).of_update with hchanges | ⟨⟨_, herror⟩, -⟩
    · exact hchanges.generated_cleanup
    · cases herror

/-! ## Charts -/

/-- The generated sheets are one table of each title and as many chart sheets. -/
def IsCharted (titles : List String) (book : Book) : Prop :=
  ∃ charts : List String, charts.length = titles.length ∧ (∀ title ∈ charts, ¬ IsTableTitle title) ∧
    book.generated.Perm
      (titles.map (fun title => (title, "GRID")) ++ charts.map fun title => (title, "CHART"))

/-- A spreadsheet without generated sheets has the tables of no topics. -/
theorem isCharted_nil (h : book.generated = []) : IsCharted [] book :=
  ⟨[], rfl, fun _ hmem => (nomatch hmem), by rw [h]; exact .refl _⟩

/-- A new generated sheet is one more. -/
theorem generated_add {new : Sheet} (hnew : new.IsGenerated)
    (hperm : after.sheets.Perm (new :: book.sheets)) :
    after.generated.Perm (new.face :: book.generated) := by
  have hnews : (new :: book.sheets).filter (fun sheet => sheet.IsGenerated) =
      new :: book.sheets.filter fun sheet => sheet.IsGenerated :=
    List.filter_cons_of_pos (by simpa using hnew)
  rw [Book.generated, Book.generated, ← List.map_cons, ← hnews]
  exact (hperm.filter _).map _

/-- Cells do not make a sheet a generated one. -/
theorem Touches.generated_eq {title : String} (h : Touches title book after) :
    after.generated = book.generated := by
  obtain ⟨cells, hafter⟩ := h
  have hface : ∀ sheet : Sheet, (if sheet.title = title then { sheet with cells := cells sheet }
      else sheet).face = sheet.face := by
    intro sheet
    split <;> rfl
  have hgenerated : ∀ sheet : Sheet, (if sheet.title = title then
      { sheet with cells := cells sheet } else sheet).IsGenerated ↔ sheet.IsGenerated := by
    intro sheet
    split <;> rfl
  rw [Book.generated, Book.generated, hafter, List.filter_map, List.map_map]
  simp only [Function.comp_def, hface, hgenerated]

/-- A sheet that a chart adds counts as generated. -/
theorem isGenerated_of_adds_chart {chart : Chart} {new : Sheet}
    (h : Adds (.addChart chart) new) : new.IsGenerated := by
  have hchart : Text.uppered "CHART" = "CHART" := by decide
  exact .inl (by rw [h.2, hchart])

/-- One request that is carried out alone. -/
theorem ChangesAll.of_add {request : Request} (h : ChangesAll [request] book after)
    (hrequest : ∀ id, request ≠ .deleteSheet id) :
    ∃ new, Adds request new ∧ after.sheets.Perm (new :: book.sheets) := by
  obtain _ | ⟨hchanges, ⟨⟩⟩ := h
  cases hchanges with
  | add new hadds hperm => exact ⟨new, hadds, hperm⟩
  | delete => exact absurd rfl (hrequest _)

/-- Without a table of the given title, no listed sheet has this title. -/
theorem not_hasTitle_of_isCharted {titles : List String} {tab : String} (htab : IsTableTitle tab)
    (hnew : tab ∉ titles) (h : IsCharted titles book) :
    (listedSheets book.listing).any (hasTitle tab) = false := by
  obtain ⟨charts, -, hcharts, hperm⟩ := h
  rw [listedSheets_listing, List.any_map, List.any_eq_false]
  intro sheet hsheet htitle
  simp only [Function.comp_apply, hasTitle_properties, decide_eq_true_eq] at htitle
  have hface : sheet.face ∈ book.generated :=
    List.mem_map_of_mem (List.mem_filter.2 ⟨hsheet, by simp [Sheet.IsGenerated, htitle, htab]⟩)
  rcases List.mem_append.1 (hperm.subset hface) with hmem | hmem
  · obtain ⟨title, hmem, heq⟩ := List.mem_map.1 hmem
    exact hnew (((Prod.mk.inj heq).1.trans htitle) ▸ hmem)
  · obtain ⟨title, hmem, heq⟩ := List.mem_map.1 hmem
    exact hcharts title hmem (((Prod.mk.inj heq).1.trans htitle) ▸ htab)

/-- Drawing a chart adds one table and one chart sheet. -/
theorem Meets.chart {tab : String} {titles : List String} {dataset : Json}
    {replies : ChartReplies} (htab : IsTableTitle tab) (hnew : tab ∉ titles)
    (hcharted : IsCharted titles book)
    (h : Meets spreadsheet ((chartSteps spreadsheet tab dataset replies).map Step.exchange)
      book after) : IsCharted (titles ++ [tab]) after := by
  rw [chartSteps, sheetSteps, List.cons_append, List.map_cons] at h
  obtain _ | ⟨hget, hrest⟩ := h
  obtain ⟨rfl, hlisting⟩ := hget.of_get
  have hnone := not_hasTitle_of_isCharted htab hnew hcharted
  rw [← hlisting _ rfl] at hnone
  -- No sheet has the title, so one is added.
  rw [if_neg (by simp [hnone])] at hrest
  obtain _ | ⟨hadd, _ | ⟨hclear, _ | ⟨hwrite, _ | ⟨hplot, ⟨⟩⟩⟩⟩⟩ := hrest
  rcases hadd.of_update with hadd | ⟨⟨_, herror⟩, -⟩
  · rcases hplot.of_update with hplot | ⟨⟨_, herror⟩, -⟩
    · obtain ⟨table, ⟨htitle, htype⟩, htable⟩ := hadd.of_add (by rintro _ ⟨⟩)
      obtain ⟨sheet, hsheet, hplotted⟩ := hplot.of_add (by rintro _ ⟨⟩)
      obtain ⟨charts, hlength, hcharts, hperm⟩ := hcharted
      refine ⟨sheet.title :: charts, by simp [hlength], ?_, ?_⟩
      · exact List.forall_mem_cons.2 ⟨hsheet.1, hcharts⟩
      · have hfirst := generated_add (.inr (htitle ▸ htab)) htable
        have hlast := generated_add (isGenerated_of_adds_chart hsheet) hplotted
        rw [hwrite.of_write.generated_eq, hclear.of_clear.generated_eq] at hlast
        have hfaces : sheet.face = (sheet.title, "CHART") ∧ table.face = (tab, "GRID") :=
          ⟨congrArg _ hsheet.2, by rw [Sheet.face, htitle, htype]⟩
        rw [hfaces.1] at hlast
        rw [hfaces.2] at hfirst
        rw [List.map_append, List.map_cons]
        refine hlast.trans (((hfirst.trans (hperm.cons _)).cons _).trans ?_)
        exact (List.perm_middle.trans (by
          rw [List.append_assoc]
          exact List.perm_middle.cons _)).symm
    · cases herror
  · cases herror

end DeckPlan.Sheets
