import DeckPlan.Proofs.Sheets.Chart

/-!
# A service that does what it is asked

An exchange with the sheets service is served (`IsServed`) if the service does not fail, lists the
sheets in the form that listings have (`IsListing`) and names what it adds. No step in which a chart
is drawn is refused by such a service (`not_refuses_of_isServed`).
-/

namespace DeckPlan.Sheets

/-! ## Listings -/

/-- A listing is an object with an array of sheets, if there are any. The sheets are objects with
properties, and a sheet with a title has an identifier. -/
structure IsListing (listing : Json) : Prop where
  isObject : ∃ fields, listing = .obj fields
  isArray : ∀ sheets, listing.field? "sheets" = some sheets → ∃ entries, sheets = .arr entries
  entries : ∀ entry ∈ listing.entries "sheets", ∃ fields, entry = .obj fields
  properties : ∀ sheet ∈ listedSheets listing, ∃ fields, sheet = .obj fields
  identifier : ∀ sheet ∈ listedSheets listing,
    (titleOf? sheet).isSome → (sheet.field? "sheetId").isSome

/-- A listing in the form of the service can be read. -/
theorem readListing_eq {listing : Json} (h : IsListing listing) :
    readListing listing = .ok (listedSheets listing) := by
  obtain ⟨fields, rfl⟩ := h.isObject
  have hread : ∀ entry ∈ (Json.obj fields).entries "sheets",
      entry.field "properties" (.obj []) = .ok ((entry.field? "properties").getD (.obj [])) := by
    intro entry hentry
    obtain ⟨parts, rfl⟩ := h.entries entry hentry
    rfl
  -- A missing array is read as an empty one; empty entries are passed over.
  have hentries : ∃ items, ((Json.obj fields).field? "sheets").getD (.arr []) = .arr items ∧
      (Json.obj fields).entries "sheets" = items.filter Json.isGiven := by
    rw [Json.entries]
    cases hsheets : (Json.obj fields).field? "sheets" with
    | none => exact ⟨[], rfl, rfl⟩
    | some sheets =>
      obtain ⟨items, rfl⟩ := h.isArray sheets hsheets
      exact ⟨items, rfl, rfl⟩
  obtain ⟨items, hitems, hfilter⟩ := hentries
  rw [hfilter] at hread
  refine bind_eq_ok.2 ⟨.arr items, ?_, bind_eq_ok.2 ⟨items, rfl, ?_⟩⟩
  · exact Json.field_eq_ok.2 ⟨fields, rfl, hitems.symm⟩
  · rw [listedSheets, hfilter]
    exact mapM_eq_ok_map hread

/-- A sheet can be looked for where each sheet with a title has an identifier. -/
theorem exists_find?_eq_ok {title : String} {sheets : List Json}
    (hobject : ∀ sheet ∈ sheets, ∃ fields, sheet = .obj fields)
    (hid : ∀ sheet ∈ sheets, (titleOf? sheet).isSome → (sheet.field? "sheetId").isSome) :
    ∃ found, find? title sheets = .ok found := by
  induction sheets with
  | nil => exact ⟨none, rfl⟩
  | cons sheet rest ih =>
    obtain ⟨⟨fields, rfl⟩, hobjects⟩ := List.forall_mem_cons.1 hobject
    obtain ⟨hfirst, hlater⟩ := List.forall_mem_cons.1 hid
    obtain ⟨found, hfound⟩ := ih hobjects hlater
    have hfield : (Json.obj fields).field "title" .null =
        .ok (((Json.obj fields).field? "title").getD .null) := rfl
    rw [find?, hfield]
    cases htitle : ((Json.obj fields).field? "title").getD .null with
    | str text =>
      -- Only the sheet that is looked for is asked for its identifier.
      by_cases heq : text = title
      · have hsome : (titleOf? (.obj fields)).isSome := by
          rw [titleOf?, Json.textOf?]
          cases hget : (Json.obj fields).field? "title" with
          | none =>
            rw [hget] at htitle
            cases htitle
          | some value =>
            rw [hget, Option.getD_some] at htitle
            rw [htitle]
            rfl
        obtain ⟨id, hget⟩ := Option.isSome_iff_exists.1 (hfirst hsome)
        have hrequire := Json.require_eq_ok.2 hget
        exact ⟨some id, by simp only [bind, Except.bind, heq, if_true, hrequire]; rfl⟩
      · exact ⟨found, by simpa only [bind, Except.bind, heq, if_false] using hfound⟩
    | _ => exact ⟨found, hfound⟩

/-- A sheet can be looked for in a listing in the form of the service. -/
theorem IsListing.isSearchable {listing : Json} (h : IsListing listing) (title : String) :
    IsSearchable title listing := by
  obtain ⟨found, hfound⟩ := exists_find?_eq_ok h.properties h.identifier
  exact ⟨listedSheets listing, found, readListing_eq h, hfound⟩

/-! ## Served exchanges -/

/-- The service does what it is asked: it lists the sheets, and it names the sheet or the chart that
it adds. -/
def IsServed : Exchange → Prop
  | ⟨.sheetsGet .., reply⟩ => ∃ listing, reply = .ok listing ∧ IsListing listing
  | ⟨.sheetsUpdate _ requests, reply⟩ => ∃ answer, reply = .ok answer ∧
      (∀ title, requests = [.addSheet title] → (addedSheet? answer).isSome) ∧
      ∀ chart, requests = [.addChart chart] → (addedChart? answer).isSome
  | ⟨.valuesClear .., reply⟩ | ⟨.valuesUpdate .., reply⟩ => ∃ answer, reply = .ok answer
  | _ => True

/-- No step of a chart is refused by a service that does what it is asked. -/
theorem not_refuses_of_isServed {spreadsheet tab : String} {dataset : Json} {replies : ChartReplies}
    {step : Step} (hstep : step ∈ chartSteps spreadsheet tab dataset replies) {exchange : Exchange}
    (hserved : IsServed exchange) : ¬ step.Refuses exchange := by
  rintro ⟨reply, rfl, hrefused⟩
  -- Each step is told from its call, and what is served to that call is what the step needs.
  rcases List.mem_append.1 hstep with hstep | hstep
  · rw [sheetSteps] at hstep
    rcases List.mem_cons.1 hstep with rfl | hstep
    · obtain ⟨listing, rfl, hlisting⟩ := hserved
      exact hrefused listing rfl (hlisting.isSearchable tab)
    · split at hstep
      · cases hstep
      · obtain rfl := List.mem_singleton.1 hstep
        obtain ⟨answer, rfl, hadded, -⟩ := hserved
        exact hrefused answer rfl (hadded tab rfl)
  · simp only [plotSteps, List.mem_cons, List.not_mem_nil, or_false] at hstep
    rcases hstep with rfl | rfl | rfl
    · obtain ⟨answer, rfl⟩ := hserved
      exact hrefused answer rfl trivial
    · obtain ⟨answer, rfl⟩ := hserved
      exact hrefused answer rfl trivial
    · obtain ⟨answer, rfl, -, hadded⟩ := hserved
      exact hrefused answer rfl (hadded _ rfl)

end DeckPlan.Sheets
