import DeckPlan.Image.Search
import DeckPlan.Proofs.Image.Score
import DeckPlan.Proofs.Json.Access
import DeckPlan.Proofs.Outside.Dialogue

/-!
# The image that is found

A search goes through its results once and keeps the best one so far. `IsFirstBest` says what it has
at the end, for any results: all before it have fewer points, and none behind it has more.

* `points` are the points of a result, from its own texts,
* `isFirstBest_foldl_better` holds of the pass through the results, by one step more
  (`IsFirstBest.better`),
* `isFirstBest_search` holds of every search whose reply has results,
* `pick_eq_ok_iff` says that no other reply leads to a link.
-/

namespace DeckPlan.Image

/-! ## Results -/

/-- A result is an object whose texts are strings. Any of them may be missing. -/
def IsResult (item : Json) : Prop :=
  item.HasTexts ["title", "snippet", "link", "mime"]

instance (item : Json) : Decidable (IsResult item) :=
  inferInstanceAs (Decidable (item.HasTexts _))

/-- A text of a result; a missing one is empty. -/
def textOf (item : Json) (key : String) : String :=
  (item.textOf? key).getD ""

/-- The points of a result: one for each term that its title, its snippet or its link mentions, one
for an encrypted link and one for a type of images. -/
def points (query : String) (item : Json) : Nat :=
  ((terms query).countP fun term =>
      ∃ text ∈ [textOf item "title", textOf item "snippet", textOf item "link"],
        Mentions term text) +
    (if "https://".toList <+: Text.lower (textOf item "link").toList then 1 else 0) +
    (if "image/".toList <+: (textOf item "mime").toList then 1 else 0)

/-- The fields of a result that count are texts, or empty where they are missing. -/
theorem IsResult.field_eq {item : Json} (h : IsResult item) {key : String}
    (hkey : key ∈ ["title", "snippet", "link", "mime"]) :
    item.field key (.str "") = .ok (.str (textOf item key)) :=
  Json.HasTexts.field_eq h hkey

/-- Every result can be scored. -/
theorem scoreItem_eq {item : Json} (h : IsResult item) (query : String) :
    scoreItem (terms query) item = .ok (points query item, textOf item "link") := by
  have hhttps : isHttps (textOf item "link") =
      decide ("https://".toList <+: Text.lower (textOf item "link").toList) := by
    rw [Bool.eq_iff_iff, isHttps_iff, decide_eq_true_iff]
  have himage : "image/".toList.isPrefixOf (textOf item "mime").toList =
      decide ("image/".toList <+: (textOf item "mime").toList) := by
    rw [Bool.eq_iff_iff, List.isPrefixOf_iff_prefix, decide_eq_true_iff]
  rw [scoreItem, h.field_eq (by simp : "link" ∈ _), h.field_eq (by simp : "title" ∈ _),
    h.field_eq (by simp : "snippet" ∈ _), h.field_eq (by simp : "mime" ∈ _)]
  simp only [bind, Except.bind, joinable, Json.text, termScore_eq, hhttps, himage,
    decide_eq_true_iff]
  rfl

/-! ## The first of the best -/

/-- The item has more points than all before it, and none behind it has more. -/
def IsFirstBest {α : Type} (score : α → Nat) (items : List α) (best : α) : Prop :=
  ∃ before after, items = before ++ best :: after ∧
    (∀ item ∈ before, score item < score best) ∧ ∀ item ∈ after, score item ≤ score best

/-- One more item is the best one if it has more points than the best one so far. An item with as
many points does not replace it. -/
theorem IsFirstBest.better {items : List (Nat × String)} {best : Nat × String}
    (h : IsFirstBest Prod.fst items best) (next : Nat × String) :
    IsFirstBest Prod.fst (items ++ [next]) (better best next) := by
  obtain ⟨before, after, rfl, hbefore, hafter⟩ := h
  rw [Image.better]
  split
  · next hlt =>
    refine ⟨before ++ best :: after, [], rfl, fun item hitem => ?_, fun _ hitem => nomatch hitem⟩
    simp only [List.mem_append, List.mem_cons] at hitem
    rcases hitem with hitem | rfl | hitem
    · exact (hbefore item hitem).trans hlt
    · exact hlt
    · exact (hafter item hitem).trans_lt hlt
  · next hnot =>
    refine ⟨before, after ++ [next], by simp, hbefore, fun item hitem => ?_⟩
    rcases List.mem_append.1 hitem with hitem | hitem
    · exact hafter item hitem
    · obtain rfl := List.mem_singleton.1 hitem
      exact Nat.le_of_not_lt hnot

/-- The pass through the items ends with the first of the best. -/
theorem isFirstBest_foldl_better (first : Nat × String) (rest : List (Nat × String)) :
    IsFirstBest Prod.fst (first :: rest) (rest.foldl better first) := by
  -- The items are passed from left to right, so the last one is the step.
  induction rest using List.reverseRecOn with
  | nil => exact ⟨[], [], rfl, fun _ hitem => (nomatch hitem), fun _ hitem => nomatch hitem⟩
  | append_singleton rest next ih =>
    rw [List.foldl_append, ← List.cons_append]
    exact ih.better next

/-- The first best of what items are mapped to comes from the first best item. -/
theorem IsFirstBest.of_map {α β : Type} {score : β → Nat} {f : α → β} {items : List α} {best : β}
    (h : IsFirstBest score (items.map f) best) :
    ∃ item, best = f item ∧ IsFirstBest (fun item => score (f item)) items item := by
  obtain ⟨before, after, hitems, hbefore, hafter⟩ := h
  obtain ⟨front, back, rfl, rfl, hback⟩ := List.map_eq_append_iff.1 hitems
  obtain ⟨item, later, rfl, rfl, rfl⟩ := List.map_eq_cons_iff.1 hback
  exact ⟨item, rfl, front, later, rfl, List.forall_mem_map.1 hbefore, List.forall_mem_map.1 hafter⟩

/-- Results that can be scored have a best one. -/
theorem exists_firstBest (query : String) {items : List Json} (hne : items ≠ [])
    (hitems : ∀ item ∈ items, IsResult item) :
    ∃ scored item, items.mapM (scoreItem (terms query)) = .ok scored ∧
      firstBest? scored = some (points query item, textOf item "link") ∧
      IsFirstBest (points query) items item := by
  have hscored := mapM_eq_ok_map fun item hitem => scoreItem_eq (hitems item hitem) query
  obtain ⟨first, rest, rfl⟩ := List.exists_cons_of_ne_nil hne
  have hbest := isFirstBest_foldl_better (points query first, textOf first "link")
    (rest.map fun item => (points query item, textOf item "link"))
  rw [← List.map_cons (f := fun item => (points query item, textOf item "link"))] at hbest
  obtain ⟨item, heq, hitem⟩ := hbest.of_map
  exact ⟨_, item, hscored, congrArg some heq, hitem⟩

/-! ## The reply to a search -/

/-- The results in the body of a reply. -/
def resultsOf (reply : WebReply) : List Json :=
  match Json.read reply.body with
  | .ok (.obj fields) =>
    match Fields.get? fields "items" with
    | some (.arr items) => items
    | _ => []
  | _ => []

/-- The search has succeeded, and there are results. -/
structure IsFound (reply : WebReply) : Prop where
  status : ¬ (400 ≤ reply.status ∧ reply.status < 600)
  nonempty : resultsOf reply ≠ []
  results : ∀ item ∈ resultsOf reply, IsResult item

/-- Where there are results, the reply is an object with a list of them. -/
theorem exists_read_of_resultsOf {reply : WebReply} (hne : resultsOf reply ≠ []) :
    ∃ fields, Json.read reply.body = .ok (.obj fields) ∧
      Fields.get? fields "items" = some (.arr (resultsOf reply)) := by
  rw [resultsOf] at hne ⊢
  split at hne
  · next fields hread =>
    split at hne
    · next items hitems => exact ⟨fields, hread, hitems⟩
    · exact absurd rfl hne
  · exact absurd rfl hne

/-- Where an image is found, the link is that of the first best result. -/
theorem exists_bestLink {reply : WebReply} (h : IsFound reply) (query : String) :
    ∃ item, IsFirstBest (points query) (resultsOf reply) item ∧
      bestLink query reply.body = .ok (textOf item "link") := by
  obtain ⟨fields, hbody, hget⟩ := exists_read_of_resultsOf h.nonempty
  obtain ⟨scored, item, hscored, hbest, hitem⟩ :=
    exists_firstBest query h.nonempty h.results
  have hgiven : (Json.arr (resultsOf reply)).isGiven = true := by
    simpa [Json.isGiven] using h.nonempty
  have hfield : (Json.obj fields).field "items" .null = .ok (.arr (resultsOf reply)) :=
    Json.field_eq_ok.2 ⟨fields, rfl, by rw [Json.field?, hget, Option.getD_some]⟩
  refine ⟨item, hitem, ?_⟩
  rw [bestLink, hbody]
  simp only [Except.mapError, bind, Except.bind, hfield, hgiven, Json.items, hscored, hbest]
  rfl

/-! ## Any reply -/

/-- The link of the best image in a reply that may have any status. -/
def pick (query : String) (reply : WebReply) : Except Fault String :=
  checkStatus searchUrl reply >>= fun _ => bestLink query reply.body

/-- The link is that of the first of the best results in a reply that has results. -/
structure IsPicked (query : String) (reply : WebReply) (link : String) : Prop where
  isFound : IsFound reply
  isLink : ∃ item, IsFirstBest (points query) (resultsOf reply) item ∧ link = textOf item "link"

/-- A reply is refused for its status exactly if that tells of an error. -/
theorem checkStatus_eq_ok {url : String} {reply : WebReply} :
    checkStatus url reply = .ok () ↔ ¬ (400 ≤ reply.status ∧ reply.status < 600) := by
  rw [checkStatus]
  split
  · next h => exact iff_of_false (fun heq => nomatch heq) (fun hnot => hnot h)
  · next h => exact iff_of_true rfl h

theorem joinable_eq_ok {index : Nat} {value : Json} {text : String} :
    joinable index value = .ok text ↔ value = .str text := by
  cases value <;> simp [joinable]

/-- Whatever can be scored is a result. -/
theorem isResult_of_scoreItem {terms : List String} {item : Json} {scored : Nat × String}
    (h : scoreItem terms item = .ok scored) : IsResult item := by
  simp only [scoreItem, bind_eq_ok, joinable_eq_ok, Json.text_eq_ok] at h
  obtain ⟨_, hlink, _, htitle, _, hsnippet, title, rfl, snippet, rfl, link, rfl, _, hmime, mime,
    rfl, -⟩ := h
  obtain ⟨fields, hobject, -⟩ := Json.field_eq_ok.1 hlink
  refine ⟨⟨fields, hobject⟩, fun key hkey found hfound => ?_⟩
  -- What is read as a string is one.
  have hread : ∀ {text : String}, item.field key (.str "") = .ok (.str text) →
      ∃ text, found = .str text := by
    intro text hfield
    obtain ⟨-, -, hvalue⟩ := Json.field_eq_ok.1 hfield
    rw [hfound, Option.getD_some] at hvalue
    exact ⟨text, hvalue.symm⟩
  simp only [List.mem_cons, List.not_mem_nil, or_false] at hkey
  rcases hkey with rfl | rfl | rfl | rfl
  · exact hread htitle
  · exact hread hsnippet
  · exact hread hlink
  · exact hread hmime

/-- Items of which one is the best are those of an array. -/
theorem eq_arr_of_scored {query : String} {found : Json} {items : List Json}
    {scored : List (Nat × String)} (hitems : found.items = .ok items) (hne : items ≠ [])
    (hscored : items.mapM (scoreItem (terms query)) = .ok scored) : found = .arr items := by
  -- The characters of a string and the keys of an object are no results.
  have hstrings : ∀ texts : List String, texts.map Json.str ≠ items := by
    rintro texts rfl
    obtain ⟨text, later, rfl⟩ := List.exists_cons_of_ne_nil fun h => hne (List.map_eq_nil_iff.2 h)
    obtain ⟨result, hresult⟩ := exists_of_mem_mapM hscored List.mem_cons_self
    obtain ⟨fields, hfields⟩ := (isResult_of_scoreItem hresult).isObject
    cases hfields
  cases found with
  | arr values => rw [Except.ok.inj hitems]
  | str text =>
    refine absurd ?_ (hstrings (text.toList.map String.singleton))
    rw [List.map_map]
    exact Except.ok.inj hitems
  | obj fields =>
    refine absurd ?_ (hstrings (fields.map Prod.fst))
    rw [List.map_map]
    exact Except.ok.inj hitems
  | null | bool | int | float => cases hitems

/-- A reply from which a link is picked has results. -/
theorem isFound_of_pick {query : String} {reply : WebReply} {link : String}
    (h : pick query reply = .ok link) : IsFound reply := by
  obtain ⟨⟨⟩, hstatus, hbest⟩ := bind_eq_ok.1 h
  obtain ⟨body, hbody, hread⟩ := bind_eq_ok.1 hbest
  obtain ⟨found, hfield, hscore⟩ := bind_eq_ok.1 hread
  split at hscore
  · cases hscore
  obtain ⟨items, hitems, hpick⟩ := bind_eq_ok.1 hscore
  obtain ⟨scored, hscored, hlast⟩ := bind_eq_ok.1 hpick
  -- There is no best one of no results.
  have hne : items ≠ [] := by
    rintro rfl
    obtain rfl := Except.ok.inj hscored
    cases hlast
  obtain rfl := eq_arr_of_scored hitems hne hscored
  obtain ⟨fields, rfl, hvalue⟩ := Json.field_eq_ok.1 hfield
  have hjson : Json.read reply.body = .ok (.obj fields) := by
    cases hjson : Json.read reply.body with
    | error => simp [hjson, Except.mapError] at hbody
    | ok value =>
      rw [hjson] at hbody
      exact congrArg _ (Except.ok.inj hbody)
  have hget : Fields.get? fields "items" = some (.arr items) := by
    rw [Json.field?] at hvalue
    cases hget : Fields.get? fields "items" with
    | none => simp [hget] at hvalue
    | some value =>
      rw [hget, Option.getD_some] at hvalue
      rw [hvalue]
  -- What was read step by step is what counts as the results of the reply.
  have hresults : resultsOf reply = items := by
    simp only [resultsOf, hjson, hget]
  refine ⟨checkStatus_eq_ok.1 hstatus, hresults ▸ hne, hresults ▸ fun item hmem => ?_⟩
  obtain ⟨result, hresult⟩ := exists_of_mem_mapM hscored hmem
  exact isResult_of_scoreItem hresult

/-- In a reply with images the status and the form are right, so the best one counts. -/
theorem pick_eq_bestLink {reply : WebReply} (h : IsFound reply) (query : String) :
    pick query reply = bestLink query reply.body := by
  rw [pick, checkStatus_eq_ok.2 h.status]
  rfl

/-- A reply with images leads to one of them. -/
theorem exists_pick {reply : WebReply} (h : IsFound reply) (query : String) :
    ∃ link, pick query reply = .ok link := by
  obtain ⟨item, -, hlink⟩ := exists_bestLink h query
  exact ⟨_, (pick_eq_bestLink h query).trans hlink⟩

/-- Of two firsts of the best items, none stands before the other. -/
theorem eq_of_place {α : Type} {score : α → Nat} {best best' : α}
    {before between after after' : List α}
    (hplace : between ++ best' :: after' = best :: after)
    (hbefore' : ∀ item ∈ before ++ between, score item < score best')
    (hafter : ∀ item ∈ after, score item ≤ score best) : best = best' := by
  cases between with
  | nil => exact (List.cons.inj hplace).1.symm
  | cons first between =>
    -- The one before has fewer points than the other, and is not surpassed by it.
    obtain ⟨rfl, rfl⟩ := List.cons.inj hplace
    have hlt := hbefore' first (by simp)
    have hle := hafter best' (by simp)
    omega

/-- There is only one first of the best items. -/
theorem IsFirstBest.unique {α : Type} {score : α → Nat} {items : List α} {best best' : α}
    (h : IsFirstBest score items best) (h' : IsFirstBest score items best') : best = best' := by
  obtain ⟨before, after, rfl, hbefore, hafter⟩ := h
  obtain ⟨before', after', hitems, hbefore', hafter'⟩ := h'
  rcases List.append_eq_append_iff.1 hitems with ⟨between, rfl, hrest⟩ | ⟨between, rfl, hrest⟩
  · exact eq_of_place hrest.symm hbefore' hafter
  · exact (eq_of_place hrest.symm hbefore hafter').symm

/-- The one link that is picked from a reply is that of the first of the best results, and other
replies lead to no link. -/
theorem pick_eq_ok_iff {query : String} {reply : WebReply} {link : String} :
    pick query reply = .ok link ↔ IsPicked query reply link := by
  constructor
  · intro h
    have hfound := isFound_of_pick h
    obtain ⟨item, hitem, hlink⟩ := exists_bestLink hfound query
    rw [pick_eq_bestLink hfound, hlink] at h
    exact ⟨hfound, item, hitem, (Except.ok.inj h).symm⟩
  · rintro ⟨hfound, item, hitem, rfl⟩
    obtain ⟨item', hitem', hlink⟩ := exists_bestLink hfound query
    rw [pick_eq_bestLink hfound, hlink, hitem.unique hitem']

/-- A reply leads to one link at most. -/
theorem IsPicked.unique {query : String} {reply : WebReply} {link link' : String}
    (h : IsPicked query reply link) (h' : IsPicked query reply link') : link = link' :=
  Except.ok.inj ((pick_eq_ok_iff.2 h).symm.trans (pick_eq_ok_iff.2 h'))

/-- Every search whose reply has results yields the link of the first of the best of them. -/
theorem isFirstBest_search {σ : Type} (answer : (action : Action) → σ → action.Answer × σ)
    (state : σ) {access : SearchAccess} (hkey : Text.isBlankText access.key = false)
    (hengine : Text.isBlankText access.engine = false) {query : String}
    (hquery : Text.isBlankText query = false) (filters : Filters) (count : Option Int)
    {url : String} {parameters : List (String × String)} {timeout : Nat} {reply : WebReply}
    (hreply : ⟨.webGet url parameters timeout, .ok reply⟩ ∈
      (search access query filters count).transcript answer state)
    (hfound : IsFound reply) :
    ∃ item, IsFirstBest (points query) (resultsOf reply) item ∧
      ((search access query filters count).run answer state).1 = .ok (textOf item "link") := by
  obtain ⟨item, hitem, hlink⟩ := exists_bestLink hfound query
  refine ⟨item, hitem, ?_⟩
  have hdialogue := Program.dialogue_transcript answer (search access query filters count) state
  generalize (search access query filters count).transcript answer state = exchanges at *
  generalize ((search access query filters count).run answer state).1 = outcome at *
  rw [search, if_neg (by simp [hkey, hengine]), if_neg (by simp [hquery])] at hdialogue
  -- A search that has got a reply has asked, so its number of results could be read.
  rcases Program.trace_ofExcept_bind.1 hdialogue with ⟨fault, -, rfl, -⟩ | ⟨number, -, hasked⟩
  · cases hreply
  rcases Program.dialogue_call_bind.1 hasked with ⟨fault, rfl, -⟩ | ⟨page, rest, rfl, hrest⟩
  · cases List.mem_singleton.1 hreply
  · obtain ⟨rfl, rfl⟩ := Program.trace_ofExcept.1 hrest
    cases List.mem_singleton.1 hreply
    rw [checkStatus, if_neg hfound.status]
    exact hlink

/-- Four images of cars: the third one has as many points as the second, and the last one has no
texts. -/
def cars : WebReply where
  body := "\x7b\"items\":[\x7b\"snippet\":\"Cars\"\x7d,\x7b\"link\":\"https://b/CAR\"\x7d," ++
    "\x7b\"title\":\"Red car\",\"mime\":\"image/gif\"\x7d,\x7b\x7d]\x7d"

/-- The script of a search for images of cars. -/
def carSearch : World :=
  { World.silent with
    replies
      | .webGet => [.ok cars]
      | _ => [] }

/-- The search finds the first one of the two images of cars that are equally good. -/
theorem isFirstBest_search_cars :
    ⟨.webGet searchUrl (searchParameters ⟨"k", "c"⟩ "car" {} 5) searchTimeout, .ok cars⟩ ∈
        (search ⟨"k", "c"⟩ "car" {} (some 5)).transcript World.answer carSearch ∧
      IsFound cars ∧ (resultsOf cars).map (points "car") = [1, 2, 2, 0] ∧
      ∃ item, IsFirstBest (points "car") (resultsOf cars) item ∧
        ((search ⟨"k", "c"⟩ "car" {} (some 5)).run World.answer carSearch).1 =
          .ok (textOf item "link") := by
  have hreply : ⟨.webGet searchUrl (searchParameters ⟨"k", "c"⟩ "car" {} 5) searchTimeout,
      .ok cars⟩ ∈ (search ⟨"k", "c"⟩ "car" {} (some 5)).transcript World.answer carSearch :=
    List.mem_cons_self
  have hpoints : (resultsOf cars).map (points "car") = [1, 2, 2, 0] := by decide +kernel
  have hfound : IsFound cars := by
    refine ⟨by decide, fun hnone => ?_, by decide +kernel⟩
    rw [hnone] at hpoints
    cases hpoints
  refine ⟨hreply, hfound, hpoints, ?_⟩
  exact isFirstBest_search World.answer carSearch (by decide) (by decide) (by decide) {} _ hreply
    hfound

end DeckPlan.Image
