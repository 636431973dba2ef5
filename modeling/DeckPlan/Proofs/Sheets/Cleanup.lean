import DeckPlan.Proofs.Json.Equality
import DeckPlan.Proofs.Sheets.Drawing
import Mathlib.Data.List.Infix
import Mathlib.Data.List.Nodup

/-!
# What a cleanup leaves behind

A cleanup sends all its requests at once, and they are carried out one after the other
(`carriedOut`). `CleansUp` says what is true of the sheets meanwhile and at the end.

* A sheet that is not removed stays through every request (`mem_carriedOut`) and through all of them
  (`mem_foldl_carriedOut`), so there is a sheet at every moment (`ne_nil_of_prefix`).
* What is removed is there until then (`exists_of_split`).
* At the end the sheets are those that are not doomed, or an empty one (`foldl_cleanupRequests`). No
  other cleanup finds anything to do (`isSettled_sheetsAfter`).

`cleansUp_cleanUp` says all of this of every run. A spreadsheet without any sheet is left without
one (`not_cleansUp_of_noSheets`).
-/

namespace DeckPlan.Sheets

/-! ## Sheets while requests are carried out -/

/-- The sheet is a chart sheet, in whatever letters its type is written, or it has the title of a
table. -/
def IsDoomed (sheet : Json) : Prop :=
  Text.uppered (typeOf sheet) = "CHART" ∨ IsTableTitle ((titleOf? sheet).getD "")

instance (sheet : Json) : Decidable (IsDoomed sheet) :=
  inferInstanceAs (Decidable (_ ∨ _))

/-- A new sheet as it is listed. -/
def newSheet (id : Json) (title type : String) : Json :=
  .obj [("sheetId", id), ("title", .str title), ("sheetType", .str type)]

/-- The listed sheets after one more request, where `new` is the identifier of a sheet that is
added. A new sheet comes last. -/
def carriedOut (new : Json) (sheets : List Json) : Request → List Json
  | .addSheet title => sheets ++ [newSheet new title "GRID"]
  | .deleteSheet id => sheets.filter fun sheet => idOf sheet ≠ id
  | .addChart _ => sheets ++ [newSheet new "Chart" "CHART"]

/-- The sheets that are not doomed, or an empty sheet if there are none. -/
def sheetsAfter (new : Json) (sheets : List Json) : List Json :=
  if sheets.filter (fun sheet => ¬ IsDoomed sheet) = [] then [newSheet new fallbackTitle "GRID"]
  else sheets.filter fun sheet => ¬ IsDoomed sheet

/-- The calls that send requests for a listed spreadsheet. Without requests nothing is sent. -/
def sendingCalls (spreadsheet : String) (requests : List Request) : List Call :=
  .sheetsGet spreadsheet listedFields ::
    if requests.isEmpty then [] else [.sheetsUpdate spreadsheet requests]

/-- No cleanup that finds these sheets sends anything. -/
def IsSettled (spreadsheet : String) (sheets : List Json) : Prop :=
  ∀ {σ : Type} (answer : (action : Action) → σ → action.Answer × σ) (state : σ) (listing : Json),
    listedSheets listing = sheets →
      ⟨.sheetsGet spreadsheet listedFields, .ok listing⟩ ∈
        (cleanUp spreadsheet).transcript answer state →
      ((cleanUp spreadsheet).transcript answer state).map Exchange.call =
        sendingCalls spreadsheet []

/-- The calls of a cleanup send the requests, which take the sheets to those that are not doomed. -/
structure CleansUp (spreadsheet : String) (new : Json) (sheets : List Json)
    (requests : List Request) (calls : List Call) : Prop where
  calls_eq : calls = sendingCalls spreadsheet requests
  /-- Nothing is sent exactly if no sheet is doomed. -/
  none_iff : requests = [] ↔ ∀ sheet ∈ sheets, ¬ IsDoomed sheet
  /-- There is a sheet after each request. -/
  nonempty : ∀ first, first <+: requests → first ≠ [] → first.foldl (carriedOut new) sheets ≠ []
  /-- What is removed is there at that moment, and it is removed once. -/
  removed : ∀ first id rest, requests = first ++ .deleteSheet id :: rest →
    (∃ sheet ∈ first.foldl (carriedOut new) sheets, idOf sheet = id) ∧ .deleteSheet id ∉ first
  final : requests.foldl (carriedOut new) sheets = sheetsAfter new sheets
  settled : IsSettled spreadsheet (requests.foldl (carriedOut new) sheets)

/-- A well-formed listing whose sheets have different identifiers. Their titles and types are
strings. -/
structure IsShown (listing : Json) : Prop where
  isListing : IsListing listing
  texts : ∀ sheet ∈ listedSheets listing, sheet.HasTexts ["title", "sheetType"]
  ids : ∀ sheet ∈ listedSheets listing, (sheet.field? "sheetId").isSome
  nodup_ids : ((listedSheets listing).map idOf).Nodup

/-! ## One request and all requests -/

section Requests

variable {new : Json} {sheets : List Json} {requests : List Request} {sheet : Json}

/-- A request removes no sheet but the one that it names. -/
theorem mem_carriedOut (hsheet : sheet ∈ sheets) {request : Request}
    (hkept : request ≠ .deleteSheet (idOf sheet)) : sheet ∈ carriedOut new sheets request := by
  cases request with
  | addSheet | addChart => exact List.mem_append_left _ hsheet
  | deleteSheet id =>
    refine List.mem_filter.2 ⟨hsheet, decide_eq_true ?_⟩
    rintro rfl
    exact hkept rfl

/-- A sheet stays through requests that do not name it. -/
theorem mem_foldl_carriedOut (hsheet : sheet ∈ sheets)
    (hkept : .deleteSheet (idOf sheet) ∉ requests) :
    sheet ∈ requests.foldl (carriedOut new) sheets := by
  induction requests generalizing sheets with
  | nil => exact hsheet
  | cons request requests ih =>
    obtain ⟨hfirst, hlater⟩ := not_or.1 (mt List.mem_cons.2 hkept)
    exact ih (mem_carriedOut hsheet (Ne.symm hfirst)) hlater

/-- Removals leave the sheets that none of them names. -/
theorem foldl_deleteSheet (ids : List Json) (sheets : List Json) :
    (ids.map Request.deleteSheet).foldl (carriedOut new) sheets =
      sheets.filter fun sheet => idOf sheet ∉ ids := by
  induction ids generalizing sheets with
  | nil => simp
  | cons id ids ih =>
    rw [List.map_cons, List.foldl_cons, ih, carriedOut, List.filter_filter]
    refine List.filter_congr fun sheet _ => ?_
    simp only [List.mem_cons, not_or, ← Bool.decide_and]
    exact decide_eq_decide.2 and_comm

theorem idOf_newSheet (id : Json) (title type : String) : idOf (newSheet id title type) = id := by
  simp [idOf, newSheet, Json.field?, Fields.get?_cons]

end Requests

/-! ## Doomed sheets -/

/-- The sheets that look generated are the doomed ones. -/
theorem looksGenerated_iff {sheet : Json} : looksGenerated sheet = true ↔ IsDoomed sheet := by
  have hempty : ¬ IsTableTitle "" := by decide
  rw [looksGenerated, IsDoomed, ← isTableTitle_iff]
  cases titleOf? sheet with
  | none => simpa [isTableTitle_iff] using fun h => absurd h hempty
  | some title => simp

/-- The sheets that are removed are the doomed ones of the listing, in order. -/
theorem doomedSheets_eq (listing : Json) :
    doomedSheets listing = (listedSheets listing).filter fun sheet => IsDoomed sheet := by
  refine List.filter_congr fun sheet _ => ?_
  rw [Bool.eq_iff_iff, looksGenerated_iff, decide_eq_true_iff]

theorem doomedSheets_eq_nil_iff {listing : Json} :
    doomedSheets listing = [] ↔ ∀ sheet ∈ listedSheets listing, ¬ IsDoomed sheet := by
  simp [doomedSheets_eq]

/-- The sheet that is added is not a doomed one. -/
theorem not_isDoomed_fallback (new : Json) : ¬ IsDoomed (newSheet new fallbackTitle "GRID") := by
  have htexts : typeOf (newSheet new fallbackTitle "GRID") = "GRID" ∧
      titleOf? (newSheet new fallbackTitle "GRID") = some fallbackTitle := by
    simp [typeOf, titleOf?, newSheet, Json.textOf?, Json.field?, Fields.get?_cons]
  have hgrid : Text.uppered "GRID" ≠ "CHART" := by decide
  rw [IsDoomed, htexts.1, htexts.2]
  exact not_or.2 ⟨hgrid, not_isTableTitle_fallbackTitle⟩

/-- No doomed sheet is left after a cleanup. -/
theorem not_isDoomed_of_mem_sheetsAfter {new : Json} {sheets : List Json} {sheet : Json}
    (h : sheet ∈ sheetsAfter new sheets) : ¬ IsDoomed sheet := by
  rw [sheetsAfter] at h
  split at h
  · obtain rfl := List.mem_singleton.1 h
    exact not_isDoomed_fallback new
  · simpa using (List.mem_filter.1 h).2

/-! ## The requests of a cleanup -/

section Cleanup

variable {listing new id : Json} {sheet : Json}

/-- A sheet is removed exactly if it is doomed. -/
theorem idOf_mem_doomed_iff (hnodup : ((listedSheets listing).map idOf).Nodup)
    (hsheet : sheet ∈ listedSheets listing) :
    idOf sheet ∈ (doomedSheets listing).map idOf ↔ IsDoomed sheet := by
  rw [doomedSheets_eq]
  constructor
  · intro h
    obtain ⟨other, hother, heq⟩ := List.mem_map.1 h
    obtain ⟨hlisted, hdoomed⟩ := List.mem_filter.1 hother
    obtain rfl := List.inj_on_of_nodup_map hnodup hlisted hsheet heq
    exact of_decide_eq_true hdoomed
  · intro hdoomed
    exact List.mem_map_of_mem (List.mem_filter.2 ⟨hsheet, decide_eq_true hdoomed⟩)

/-- All sheets are doomed exactly if there are as many doomed ones. -/
theorem length_doomedSheets_iff :
    (doomedSheets listing).length = (listedSheets listing).length ↔
      ∀ sheet ∈ listedSheets listing, IsDoomed sheet := by
  simp [doomedSheets_eq, List.length_filter_eq_length_iff]

/-- The requests remove the doomed sheets. If all of them are doomed, an empty sheet is added
first. -/
theorem cleanupRequests_cases (listing : Json) :
    (∀ sheet ∈ listedSheets listing, IsDoomed sheet) ∧
        cleanupRequests listing = .addSheet fallbackTitle ::
          ((doomedSheets listing).map idOf).map Request.deleteSheet ∨
      (∃ sheet ∈ listedSheets listing, ¬ IsDoomed sheet) ∧
        cleanupRequests listing = ((doomedSheets listing).map idOf).map Request.deleteSheet := by
  rw [cleanupRequests, List.map_map]
  by_cases hall : ∀ sheet ∈ listedSheets listing, IsDoomed sheet
  · rw [if_pos (length_doomedSheets_iff.2 hall)]
    exact .inl ⟨hall, rfl⟩
  · rw [if_neg (mt length_doomedSheets_iff.1 hall)]
    push Not at hall
    exact .inr ⟨hall, rfl⟩

/-- A cleanup asks to delete the doomed sheets and no other ones. -/
theorem deleteSheet_mem_iff :
    .deleteSheet id ∈ cleanupRequests listing ↔ id ∈ (doomedSheets listing).map idOf := by
  rcases cleanupRequests_cases listing with ⟨-, h⟩ | ⟨-, h⟩ <;> rw [h] <;> simp

/-- Where there is a sheet, no request is made exactly if no sheet is doomed. -/
theorem cleanupRequests_eq_nil_iff (hne : listedSheets listing ≠ []) :
    cleanupRequests listing = [] ↔ ∀ sheet ∈ listedSheets listing, ¬ IsDoomed sheet := by
  rcases cleanupRequests_cases listing with ⟨hall, h⟩ | ⟨-, h⟩
  · obtain ⟨sheet, hsheet⟩ := List.exists_mem_of_ne_nil _ hne
    rw [h]
    simpa using ⟨sheet, hsheet, hall sheet hsheet⟩
  · rw [h, List.map_eq_nil_iff, List.map_eq_nil_iff, doomedSheets_eq_nil_iff]

/-- No request is made twice. -/
theorem nodup_cleanupRequests (hnodup : ((listedSheets listing).map idOf).Nodup) :
    (cleanupRequests listing).Nodup := by
  have hids : (((doomedSheets listing).map idOf).map Request.deleteSheet).Nodup :=
    (hnodup.sublist (List.filter_sublist.map _)).map fun _ _ h => Request.deleteSheet.inj h
  rcases cleanupRequests_cases listing with ⟨-, h⟩ | ⟨-, h⟩ <;> rw [h]
  · exact List.nodup_cons.2 ⟨by simp, hids⟩
  · exact hids

/-- There is a sheet after each request: one that is not doomed, or the one that is added first. -/
theorem ne_nil_of_prefix (hnodup : ((listedSheets listing).map idOf).Nodup)
    (hnew : new ∉ (listedSheets listing).map idOf) {first : List Request}
    (hfirst : first <+: cleanupRequests listing) (hne : first ≠ []) :
    first.foldl (carriedOut new) (listedSheets listing) ≠ [] := by
  rcases cleanupRequests_cases listing with ⟨-, h⟩ | ⟨⟨sheet, hsheet, hnot⟩, -⟩
  · -- All sheets go, but the one that is added first stays: it has a new identifier.
    rw [h] at hfirst
    obtain rfl | ⟨rest, rfl, hrest⟩ := List.prefix_cons_iff.1 hfirst
    · exact absurd rfl hne
    have hadded : newSheet new fallbackTitle "GRID" ∈
        carriedOut new (listedSheets listing) (.addSheet fallbackTitle) :=
      List.mem_append_right _ List.mem_cons_self
    rw [List.foldl_cons]
    refine List.ne_nil_of_mem (mem_foldl_carriedOut hadded fun hdelete => hnew ?_)
    rw [idOf_newSheet] at hdelete
    obtain ⟨id, hid, heq⟩ := List.mem_map.1 (hrest.subset hdelete)
    cases heq
    exact (List.filter_sublist.map _).subset hid
  · -- A sheet that is not doomed stays.
    refine List.ne_nil_of_mem (mem_foldl_carriedOut hsheet fun hdelete => hnot ?_)
    rw [← idOf_mem_doomed_iff hnodup hsheet]
    exact deleteSheet_mem_iff.1 (hfirst.subset hdelete)

/-- What is removed is there until then. -/
theorem exists_of_split (hnodup : ((listedSheets listing).map idOf).Nodup)
    {first rest : List Request}
    (hsplit : cleanupRequests listing = first ++ .deleteSheet id :: rest) :
    (∃ sheet ∈ first.foldl (carriedOut new) (listedSheets listing), idOf sheet = id) ∧
      .deleteSheet id ∉ first := by
  -- No sheet is removed twice, as no identifier stands in the listing twice.
  have hbefore : .deleteSheet id ∉ first := by
    have hrequests := nodup_cleanupRequests hnodup
    rw [hsplit] at hrequests
    exact fun hmem => (List.nodup_append.1 hrequests).2.2 _ hmem _ List.mem_cons_self rfl
  have hmem : .deleteSheet id ∈ cleanupRequests listing := by
    rw [hsplit]
    exact List.mem_append_right _ List.mem_cons_self
  obtain ⟨sheet, hsheet, rfl⟩ := List.mem_map.1 (deleteSheet_mem_iff.1 hmem)
  exact ⟨⟨sheet, mem_foldl_carriedOut (List.mem_of_mem_filter hsheet) hbefore, rfl⟩, hbefore⟩

/-- The requests lead to the sheets that are not doomed, or to an empty sheet. -/
theorem foldl_cleanupRequests (hnodup : ((listedSheets listing).map idOf).Nodup)
    (hnew : new ∉ (listedSheets listing).map idOf) :
    (cleanupRequests listing).foldl (carriedOut new) (listedSheets listing) =
      sheetsAfter new (listedSheets listing) := by
  -- As identifiers are unique, to remove by identifier is to remove the doomed sheets.
  have hkept : ((listedSheets listing).filter fun sheet =>
      idOf sheet ∉ (doomedSheets listing).map idOf) =
        (listedSheets listing).filter fun sheet => ¬ IsDoomed sheet := by
    refine List.filter_congr fun sheet hsheet => decide_eq_decide.2 (not_congr ?_)
    exact idOf_mem_doomed_iff hnodup hsheet
  rcases cleanupRequests_cases listing with ⟨hall, h⟩ | ⟨hsome, h⟩
  · have hnone : ((listedSheets listing).filter fun sheet => ¬ IsDoomed sheet) = [] := by
      simpa using hall
    have hfresh : new ∉ (doomedSheets listing).map idOf :=
      fun hmem => hnew ((List.filter_sublist.map _).subset hmem)
    rw [h, List.foldl_cons, foldl_deleteSheet, carriedOut, List.filter_append, hkept, hnone,
      List.nil_append, sheetsAfter, if_pos hnone,
      List.filter_cons_of_pos (by simpa only [idOf_newSheet] using decide_eq_true hfresh),
      List.filter_nil]
  · have hne : ((listedSheets listing).filter fun sheet => ¬ IsDoomed sheet) ≠ [] := by
      simpa using hsome
    rw [h, foldl_deleteSheet, hkept, sheetsAfter, if_neg hne]

end Cleanup

/-! ## Listings that can be cleaned up -/

/-- Whether a sheet is doomed can be told where its texts are strings. -/
theorem exists_isGenerated {sheet : Json} (h : sheet.HasTexts ["title", "sheetType"]) :
    ∃ found, isGenerated sheet = .ok found := by
  rw [isGenerated, h.field_eq (by simp : "title" ∈ _), h.field_eq (by simp : "sheetType" ∈ _)]
  simp only [bind, Except.bind, Json.text]
  split <;> exact ⟨_, rfl⟩

/-- Where all sheets have their texts, the generated ones can be told. -/
theorem generated_eq {sheets : List Json}
    (h : ∀ sheet ∈ sheets, sheet.HasTexts ["title", "sheetType"]) :
    generated sheets = .ok (sheets.filter looksGenerated) := by
  have hsome : ∃ doomed, generated sheets = .ok doomed := by
    induction sheets with
    | nil => exact ⟨[], rfl⟩
    | cons sheet sheets ih =>
      obtain ⟨hsheet, hlater⟩ := List.forall_mem_cons.1 h
      obtain ⟨found, hfound⟩ := exists_isGenerated hsheet
      obtain ⟨later, hlater⟩ := ih hlater
      exact ⟨_, by rw [generated, hfound, hlater]; rfl⟩
  obtain ⟨doomed, hdoomed⟩ := hsome
  rw [hdoomed, generated_eq_filter hdoomed]

theorem exists_removalRequests {doomed : List Json} (count : Nat)
    (h : ∀ sheet ∈ doomed, (sheet.field? "sheetId").isSome) :
    ∃ requests, removalRequests count doomed = .ok requests := by
  have hremovals : ∀ sheet ∈ doomed,
      (sheet.require "sheetId").map Request.deleteSheet = .ok (.deleteSheet (idOf sheet)) := by
    intro sheet hsheet
    obtain ⟨id, hid⟩ := Option.isSome_iff_exists.1 (h sheet hsheet)
    rw [Json.require_eq_ok.2 hid, idOf, hid]
    rfl
  rw [removalRequests, mapM_eq_ok_map hremovals]
  exact ⟨_, rfl⟩

theorem IsShown.isCleanable {listing : Json} (h : IsShown listing) : IsCleanable listing := by
  refine ⟨_, _, readListing_eq h.isListing, generated_eq h.texts, fun _ => ?_⟩
  exact exists_removalRequests _ fun sheet hsheet => h.ids sheet (List.mem_of_mem_filter hsheet)

/-! ## Every cleanup -/

section Runs

variable {spreadsheet : String} {listing : Json} {exchanges : List Exchange}
  {outcome : Except Fault Unit}

/-- A cleanup that gets a listing follows the order of that listing. -/
theorem follows_of_listed (h : (cleanUp spreadsheet).Dialogue exchanges outcome)
    (hlisted : ⟨.sheetsGet spreadsheet listedFields, .ok listing⟩ ∈ exchanges) :
    ∃ reply, Follows True (cleanupSteps spreadsheet listing reply) exchanges outcome := by
  obtain ⟨found, reply, hfollows⟩ := follows_cleanUp h
  rw [cleanupSteps] at hfollows
  cases hfollows with
  | accepted haccepted hrest =>
    rcases List.mem_cons.1 hlisted with heq | hlater
    · cases heq
      exact ⟨reply, .accepted haccepted hrest⟩
    · -- Behind the listing the cleanup asks for no other one.
      obtain ⟨step, hstep, hcases⟩ := hrest.mem_cases hlater
      have hcall : step.call = .sheetsGet spreadsheet listedFields := by
        rcases hcases with ⟨-, heq⟩ | hrefuses
        · exact (congrArg Exchange.call heq).symm
        · exact hrefuses.call_eq.symm
      split at hstep
      · cases hstep
      · obtain rfl := List.mem_singleton.1 hstep
        cases hcall
  | refused fault hrefuses =>
    -- The listing itself is what cannot be used.
    obtain rfl := List.mem_singleton.1 hlisted
    obtain ⟨answer, heq, hnot⟩ := hrefuses
    cases heq
    exact ⟨.null, .refused fault (Step.refuses_ok (hnot listing rfl))⟩
  | unusable _ hnot => exact absurd trivial hnot

/-- Where no listed sheet is doomed, nothing is sent. -/
theorem calls_of_none (h : (cleanUp spreadsheet).Dialogue exchanges outcome)
    (hlisted : ⟨.sheetsGet spreadsheet listedFields, .ok listing⟩ ∈ exchanges)
    (hnone : ∀ sheet ∈ listedSheets listing, ¬ IsDoomed sheet) :
    exchanges.map Exchange.call = sendingCalls spreadsheet [] := by
  obtain ⟨reply, hfollows⟩ := follows_of_listed h hlisted
  have hcalls := hfollows.calls_prefix
  have hsome : 1 ≤ (exchanges.map Exchange.call).length := by
    rw [List.length_map]
    exact List.length_pos_of_mem hlisted
  rw [cleanupSteps, doomedSheets_eq_nil_iff.2 hnone] at hcalls
  exact hcalls.eq_of_length_le hsome

/-- A spreadsheet without doomed sheets is left as it is. -/
theorem isSettled_of_forall {sheets : List Json} (h : ∀ sheet ∈ sheets, ¬ IsDoomed sheet) :
    IsSettled spreadsheet sheets := by
  rintro σ answer state listing rfl hlisted
  exact calls_of_none (Program.dialogue_transcript answer (cleanUp spreadsheet) state) hlisted h

/-- Where a listed sheet is doomed, the requests are sent, whether or not they are carried out. -/
theorem calls_of_isCleanable (h : (cleanUp spreadsheet).Dialogue exchanges outcome)
    (hlisted : ⟨.sheetsGet spreadsheet listedFields, .ok listing⟩ ∈ exchanges)
    (hcleanable : IsCleanable listing) (hne : doomedSheets listing ≠ []) :
    exchanges.map Exchange.call =
      [.sheetsGet spreadsheet listedFields,
        .sheetsUpdate spreadsheet (cleanupRequests listing)] := by
  obtain ⟨reply, hfollows⟩ := follows_of_listed h hlisted
  rw [cleanupSteps, if_neg (by simpa using hne)] at hfollows
  cases hfollows with
  | accepted _ hrest =>
    -- The call is made, whether it is refused or not.
    obtain ⟨last, rfl, hcases⟩ := hrest.singleton_cases trivial
    have hcall : last.call = .sheetsUpdate spreadsheet (cleanupRequests listing) := by
      rcases hcases with ⟨-, -, -, rfl⟩ | ⟨-, -, hrefuses⟩
      · rfl
      · exact hrefuses.call_eq
    rw [List.map_cons, List.map_singleton, hcall]
    rfl
  | refused fault hrefuses =>
    obtain rfl := List.mem_singleton.1 hlisted
    obtain ⟨answer, heq, hnot⟩ := hrefuses
    cases heq
    exact absurd hcleanable (hnot listing rfl)
  | unusable _ hnot => exact absurd trivial hnot

theorem cleansUp_of_dialogue (h : (cleanUp spreadsheet).Dialogue exchanges outcome)
    (hlisted : ⟨.sheetsGet spreadsheet listedFields, .ok listing⟩ ∈ exchanges)
    (hshown : IsShown listing) (hne : listedSheets listing ≠ []) {new : Json}
    (hnew : new ∉ (listedSheets listing).map idOf) :
    CleansUp spreadsheet new (listedSheets listing) (cleanupRequests listing)
      (exchanges.map Exchange.call) where
  calls_eq := by
    by_cases hnone : ∀ sheet ∈ listedSheets listing, ¬ IsDoomed sheet
    -- Nothing is sent where nothing is doomed, and all requests are sent otherwise.
    · rw [calls_of_none h hlisted hnone, (cleanupRequests_eq_nil_iff hne).2 hnone]
    · have hrequests : cleanupRequests listing ≠ [] :=
        fun heq => hnone ((cleanupRequests_eq_nil_iff hne).1 heq)
      rw [calls_of_isCleanable h hlisted hshown.isCleanable (mt doomedSheets_eq_nil_iff.1 hnone),
        sendingCalls, if_neg (by simpa using hrequests)]
  none_iff := cleanupRequests_eq_nil_iff hne
  nonempty first hfirst hsome := ne_nil_of_prefix hshown.nodup_ids hnew hfirst hsome
  removed first id rest hsplit := exists_of_split hshown.nodup_ids hsplit
  final := foldl_cleanupRequests hshown.nodup_ids hnew
  settled := by
    rw [foldl_cleanupRequests hshown.nodup_ids hnew]
    exact isSettled_of_forall fun sheet hsheet => not_isDoomed_of_mem_sheetsAfter hsheet

end Runs

/-- Every cleanup of listed sheets takes them to those that are not doomed, through at least one
sheet at every moment. Where no sheet is listed, nothing is sent. -/
theorem cleansUp_cleanUp {σ : Type} (answer : (action : Action) → σ → action.Answer × σ)
    (state : σ) (spreadsheet : String) {listing : Json}
    (hlisted : ⟨.sheetsGet spreadsheet listedFields, .ok listing⟩ ∈
      (cleanUp spreadsheet).transcript answer state) (hshown : IsShown listing) :
    (listedSheets listing = [] →
        ((cleanUp spreadsheet).transcript answer state).map Exchange.call =
          sendingCalls spreadsheet []) ∧
      (listedSheets listing ≠ [] → ∀ new, new ∉ (listedSheets listing).map idOf →
        CleansUp spreadsheet new (listedSheets listing) (cleanupRequests listing)
          (((cleanUp spreadsheet).transcript answer state).map Exchange.call)) := by
  have hdialogue := Program.dialogue_transcript answer (cleanUp spreadsheet) state
  constructor
  · intro hnone
    refine calls_of_none hdialogue hlisted fun sheet hsheet => ?_
    rw [hnone] at hsheet
    cases hsheet
  · intro hne new hnew
    exact cleansUp_of_dialogue hdialogue hlisted hshown hne hnew

/-! ## Cleanups on the service -/

/-- The listing of a spreadsheet shows its sheets. -/
theorem isShown_listing (book : Book) : IsShown book.listing where
  isListing := isListing_listing book
  texts := by
    rw [listedSheets_listing, List.forall_mem_map]
    refine fun sheet _ => ⟨⟨_, rfl⟩, fun key hkey found hfound => ?_⟩
    obtain ⟨htitle, htype⟩ := textOf?_properties sheet
    simp only [List.mem_cons, List.not_mem_nil, or_false] at hkey
    rcases hkey with rfl | rfl
    · exact ⟨_, Option.some.inj (hfound.symm.trans (Json.textOf?_eq_some.1 htitle))⟩
    · exact ⟨_, Option.some.inj (hfound.symm.trans (Json.textOf?_eq_some.1 htype))⟩
  ids := by
    rw [listedSheets_listing, List.forall_mem_map]
    exact fun sheet _ => rfl
  nodup_ids := by
    have hids : (book.sheets.map Sheet.properties).map idOf =
        (book.sheets.map Sheet.id).map Json.int := by
      simp only [List.map_map, Function.comp_def, idOf_properties]
    rw [listedSheets_listing, hids]
    exact book.nodup_ids.map fun _ _ h => Json.int.inj h

/-- A spreadsheet that holds a chart and a table. -/
def plots : Book where
  sheets := [⟨3, "Pie", "chart", []⟩, ⟨5, "Data_12", "GRID", []⟩]
  nodup_ids := by decide

/-- A cleanup of a spreadsheet whose sheets are all doomed. -/
theorem cleansUp_cleanUp_plots :
    ⟨.sheetsGet "book" listedFields, .ok plots.listing⟩ ∈
        (cleanUp "book").transcript (serve "book" fun _ => .error refusal) plots ∧
      IsShown plots.listing ∧ listedSheets plots.listing ≠ [] ∧
      CleansUp "book" (.int 1) (listedSheets plots.listing)
        [.addSheet "Sheet1", .deleteSheet (.int 3), .deleteSheet (.int 5)]
        (((cleanUp "book").transcript (serve "book" fun _ => .error refusal) plots).map
          Exchange.call) := by
  have hlisted : ⟨.sheetsGet "book" listedFields, .ok plots.listing⟩ ∈
      (cleanUp "book").transcript (serve "book" fun _ => .error refusal) plots :=
    List.mem_cons_self
  have hne : listedSheets plots.listing ≠ [] := by
    rw [listedSheets_listing]
    exact List.cons_ne_nil _ _
  have hnew : .int 1 ∉ (listedSheets plots.listing).map idOf := by decide
  refine ⟨hlisted, isShown_listing plots, hne, ?_⟩
  exact (cleansUp_cleanUp (serve "book" fun _ => .error refusal) plots "book" hlisted
    (isShown_listing plots)).2 hne (.int 1) hnew

/-- A spreadsheet without a sheet. -/
def bare : Book where
  sheets := []
  nodup_ids := .nil

/-- Without a sheet nothing is sent, so there is no empty sheet at the end either. -/
theorem not_cleansUp_of_noSheets :
    ⟨.sheetsGet "book" listedFields, .ok bare.listing⟩ ∈
        (cleanUp "book").transcript (serve "book" fun _ => .error refusal) bare ∧
      IsShown bare.listing ∧
      ∀ new requests, ¬ CleansUp "book" new (listedSheets bare.listing) requests
        (((cleanUp "book").transcript (serve "book" fun _ => .error refusal) bare).map
          Exchange.call) := by
  refine ⟨List.mem_cons_self, isShown_listing bare, fun new requests h => ?_⟩
  have hcalls : sendingCalls "book" [] = sendingCalls "book" requests := h.calls_eq
  cases requests with
  | nil =>
    have hfinal : [] = [newSheet new fallbackTitle "GRID"] := h.final
    cases hfinal
  | cons request requests => cases hcalls

end DeckPlan.Sheets
