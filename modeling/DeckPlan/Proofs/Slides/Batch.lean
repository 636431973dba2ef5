import DeckPlan.Proofs.Slides.Deck

/-!
# References among the requests of a batch

A batch of requests is sound (`IsSound`) if no two of its objects have one name, if it puts objects
only on slides and edits only text boxes that it created before, and if every text box gets its text
by one edit, before the edits of its style.

Batches without common names are sound together (`IsSound.append`), and the names of different
topics differ, because kind and number can be read off a name (`objectName_inj`). So the slides of
all topics can be written by one batch (`isSound_of_mem_calls`).
-/

namespace DeckPlan.Slides

/-! ## Names of objects -/

theorem toList_objectName (kind : String) (index : Nat) (suffix : String) :
    (objectName kind index suffix).toList = "auto_".toList ++ ((kind.toList ++ ['_']) ++
      ((toString index).toList ++ '_' :: suffix.toList)) := by
  simp only [objectName, String.toList_append, List.append_assoc]
  rfl

/-- A kind without digits is all that stands before the first digit. -/
theorem takeWhile_kind {kind : String} (hkind : ∀ c ∈ kind.toList, Text.isDigit c = false)
    (index : Nat) (rest : List Char) :
    ((kind.toList ++ ['_']) ++ ((toString index).toList ++ rest)).takeWhile
      (fun c => !Text.isDigit c) = kind.toList ++ ['_'] := by
  rw [List.takeWhile_append_of_pos]
  · obtain ⟨digit, digits, hdigits⟩ := List.exists_cons_of_ne_nil (Text.numeral_ne_nil index)
    have hdigit : Text.isDigit digit = true :=
      Text.isDigit_of_mem_numeral (n := index) (hdigits ▸ List.mem_cons_self)
    rw [hdigits, List.cons_append, List.takeWhile_cons_of_neg (by simp [hdigit]), List.append_nil]
  · intro c hc
    rcases List.mem_append.1 hc with hc | hc
    · simp [hkind c hc]
    · obtain rfl := List.mem_singleton.1 hc
      decide

/-- The kind and the number of an object can be read off its name, whatever the suffix. -/
theorem objectName_inj {kind kind' : String} {index index' : Nat} {suffix suffix' : String}
    (hkind : ∀ c ∈ kind.toList, Text.isDigit c = false)
    (hkind' : ∀ c ∈ kind'.toList, Text.isDigit c = false)
    (h : objectName kind index suffix = objectName kind' index' suffix') :
    kind = kind' ∧ index = index' := by
  have hlists := congrArg String.toList h
  rw [toList_objectName, toList_objectName] at hlists
  have hbody := List.append_cancel_left hlists
  have hkinds := congrArg (List.takeWhile fun c => !Text.isDigit c) hbody
  rw [takeWhile_kind hkind, takeWhile_kind hkind'] at hkinds
  obtain rfl : kind = kind' := String.toList_injective (List.append_cancel_right hkinds)
  exact ⟨rfl, Text.numeral_append_inj (by decide) (List.append_cancel_left hbody)⟩

/-- The name of an object is not empty. -/
theorem objectName_ne_empty (kind : String) (index : Nat) (suffix : String) :
    (objectName kind index suffix).isEmpty = false := by
  rw [← Bool.not_eq_true, String.isEmpty_iff]
  intro hempty
  have hlist := toList_objectName kind index suffix
  rw [hempty] at hlist
  cases hlist

/-- The kinds of objects that the slides of a topic have. -/
def kinds : List String :=
  ["slide", "title", "image", "summary", "summary_body", "chart_slide", "chart"]

/-- The kinds of objects are named without digits, so a name falls apart in one way only. -/
theorem not_isDigit_of_mem_kinds : ∀ kind ∈ kinds, ∀ c ∈ kind.toList, Text.isDigit c = false := by
  have hall : (kinds.all fun kind => kind.toList.all fun c => !Text.isDigit c) = true := by
    decide
  intro kind hkind c hc
  simpa using List.all_eq_true.1 (List.all_eq_true.1 hall kind hkind) c hc

/-! ## Sound batches -/

namespace Request

/-- The object that a request creates. -/
def created? : Request → Option String
  | .createSlide object | .createTextBox object .. | .createImage object .. => some object
  | .embedChart embed => some embed.object
  | .editText _ | .deleteObject _ => none

/-- The slide that a request creates. -/
def slide? : Request → Option String
  | .createSlide object => some object
  | _ => none

/-- The text box that a request creates. -/
def textBox? : Request → Option String
  | .createTextBox object .. => some object
  | _ => none

/-- The slide that receives the object of a request. -/
def page? : Request → Option String
  | .createTextBox _ page _ | .createImage _ page .. => some page
  | .embedChart embed => some embed.page
  | .createSlide _ | .editText _ | .deleteObject _ => none

/-- The edit of a text that a request makes. -/
def edit? : Request → Option Markup.Edit
  | .editText edit => some edit
  | _ => none

/-- The object whose text a request edits. -/
def target? (request : Request) : Option String :=
  request.edit?.map Markup.Edit.target

end Request

/-- Every name that a request refers to was made by an earlier request. -/
def Scoped (refers makes : Request → Option String) (requests : List Request) : Prop :=
  ∀ before request after name, requests = before ++ request :: after →
    refers request = some name → name ∈ before.filterMap makes

/-- The edits of the text of an object, in order. -/
def editsOn (object : String) (requests : List Request) : List Markup.Edit :=
  (requests.filterMap Request.edit?).filter fun edit => edit.target = object

/-- Whether an edit inserts text. -/
def insertsText : Markup.Edit → Bool
  | .insertText .. => true
  | _ => false

/-- The requests of a batch refer to each other correctly. -/
structure IsSound (requests : List Request) : Prop where
  distinct : (requests.filterMap Request.created?).Nodup
  pages : Scoped Request.page? Request.slide? requests
  targets : Scoped Request.target? Request.textBox? requests
  /-- Text is inserted once into each text box, before all edits of its style. -/
  texts : ∀ object ∈ requests.filterMap Request.textBox?, ∃ text styles,
    editsOn object requests = .insertText object text :: styles ∧
      ∀ style ∈ styles, insertsText style = false

namespace Scoped

variable {refers makes : Request → Option String} {first second requests : List Request}

/-- Requests that refer to nothing are correct. -/
theorem of_none (h : ∀ request ∈ requests, refers request = none) :
    Scoped refers makes requests := by
  rintro before request after name rfl hname
  rw [h request (List.mem_append_right _ List.mem_cons_self)] at hname
  cases hname

/-- Requests that refer to what was made before still do behind other requests. -/
theorem append (hfirst : Scoped refers makes first) (hsecond : Scoped refers makes second) :
    Scoped refers makes (first ++ second) := by
  intro before request after name hsplit hname
  rcases List.append_eq_append_iff.1 hsplit with ⟨rest, rfl, hrest⟩ | ⟨rest, rfl, hrest⟩
  · rw [List.filterMap_append]
    exact List.mem_append_right _ (hsecond rest request after name hrest hname)
  · cases rest with
    | nil => exact absurd (hsecond [] request after name hrest.symm hname) List.not_mem_nil
    | cons head rest =>
      obtain ⟨rfl, rfl⟩ := List.cons.inj hrest
      exact hfirst before request rest name rfl hname

/-- Requests that refer to one name only may follow a request that makes it. -/
theorem cons {request : Request} {name : String} (hmakes : makes request = some name)
    (hfirst : refers request = none)
    (hrest : ∀ other ∈ requests, refers other = none ∨ refers other = some name) :
    Scoped refers makes (request :: requests) := by
  intro before other after found hsplit hfound
  cases before with
  | nil =>
    obtain ⟨rfl, -⟩ := List.cons.inj hsplit
    rw [hfirst] at hfound
    cases hfound
  | cons head before =>
    obtain ⟨rfl, rfl⟩ := List.cons.inj hsplit
    rw [List.filterMap_cons_some hmakes]
    rcases hrest other (List.mem_append_right _ List.mem_cons_self) with hother | hother
    · rw [hother] at hfound
      cases hfound
    · rw [hother] at hfound
      cases hfound
      exact List.mem_cons_self

end Scoped

/-! ## Batches in a row -/

section Append

variable {first second requests : List Request} {object : String}

theorem mem_created_of_mem_textBox (h : object ∈ requests.filterMap Request.textBox?) :
    object ∈ requests.filterMap Request.created? := by
  obtain ⟨request, hmem, hbox⟩ := List.mem_filterMap.1 h
  refine List.mem_filterMap.2 ⟨request, hmem, ?_⟩
  cases request with
  | createTextBox => exact hbox
  | _ => cases hbox

/-- The edits of two batches follow each other. -/
theorem editsOn_append : editsOn object (first ++ second) =
    editsOn object first ++ editsOn object second := by
  rw [editsOn, List.filterMap_append, List.filter_append]
  rfl

/-- A batch edits only the text boxes that it creates. -/
theorem editsOn_eq_nil (h : Scoped Request.target? Request.textBox? requests)
    (hobject : object ∉ requests.filterMap Request.textBox?) : editsOn object requests = [] := by
  refine List.filter_eq_nil_iff.2 fun edit hedit htarget => hobject ?_
  obtain ⟨request, hmem, hrequest⟩ := List.mem_filterMap.1 hedit
  obtain ⟨before, after, hsplit⟩ := List.append_of_mem hmem
  have hbefore := h before request after edit.target hsplit (by rw [Request.target?, hrequest]; rfl)
  rw [of_decide_eq_true htarget] at hbefore
  rw [hsplit, List.filterMap_append]
  exact List.mem_append_left _ hbefore

theorem isSound_nil : IsSound [] :=
  { distinct := List.nodup_nil
    pages := .of_none fun _ hmem => nomatch hmem
    targets := .of_none fun _ hmem => nomatch hmem
    texts := fun _ hmem => nomatch hmem }

/-- Sound batches whose objects have different names are sound together. -/
theorem IsSound.append (hfirst : IsSound first) (hsecond : IsSound second)
    (hdistinct : ((first ++ second).filterMap Request.created?).Nodup) :
    IsSound (first ++ second) := by
  have hdisjoint : ∀ name ∈ first.filterMap Request.created?,
      name ∉ second.filterMap Request.created? := by
    rw [List.filterMap_append] at hdistinct
    exact fun name hname hother => (List.nodup_append.1 hdistinct).2.2 name hname name hother rfl
  refine ⟨hdistinct, hfirst.pages.append hsecond.pages, hfirst.targets.append hsecond.targets, ?_⟩
  · intro object hobject
    rw [List.filterMap_append] at hobject
    rcases List.mem_append.1 hobject with hmem | hmem
    · have hnot : object ∉ second.filterMap Request.textBox? := fun hother =>
        hdisjoint object (mem_created_of_mem_textBox hmem) (mem_created_of_mem_textBox hother)
      rw [editsOn_append, editsOn_eq_nil hsecond.targets hnot, List.append_nil]
      exact hfirst.texts object hmem
    · have hnot : object ∉ first.filterMap Request.textBox? := fun hother =>
        hdisjoint object (mem_created_of_mem_textBox hother) (mem_created_of_mem_textBox hmem)
      rw [editsOn_append, editsOn_eq_nil hfirst.targets hnot, List.nil_append]
      exact hsecond.texts object hmem

end Append

/-! ## The batches of single slides -/

/-- All edits that give an object a marked-up text edit that object, and only the first inserts
text. -/
theorem editsOf_eq (markup object : String) : ∃ text styles,
    Markup.editsOf markup object = .insertText object text :: styles ∧
      ∀ style ∈ styles, insertsText style = false ∧ style.target = object := by
  refine ⟨_, _, rfl, fun style hstyle => ?_⟩
  rcases List.mem_append.1 hstyle with hstyle | hstyle
  · obtain ⟨range, -, rfl⟩ := List.mem_map.1 hstyle
    exact ⟨rfl, rfl⟩
  · obtain ⟨range, -, rfl⟩ := List.mem_map.1 hstyle
    exact ⟨rfl, rfl⟩

theorem filterMap_editText {β : Type} {f : Request → Option β}
    (hf : ∀ edit, f (.editText edit) = none) (edits : List Markup.Edit) :
    (edits.map Request.editText).filterMap f = [] := by
  rw [List.filterMap_map]
  exact List.filterMap_eq_nil_iff.2 fun edit _ => hf edit

/-- A slide with text makes itself, its box and its image. -/
theorem created_textSlide (page object image markup : String) (box place : Box)
    (url? : Option Json) :
    (Request.createSlide page :: textBox object page box markup ++
      url?.toList.map fun url => Request.createImage image page url place).filterMap
        Request.created? = page :: object :: url?.toList.map fun _ => image := by
  rw [textBox, List.filterMap_append]
  change page :: object :: (List.filterMap Request.created? _ ++ _) = _
  rw [filterMap_editText fun _ => rfl]
  cases url? <;> rfl

/-- A slide with a chart makes itself and the chart. -/
theorem created_chartRequests {name : String → String} (hname : (name "chart").isEmpty = false)
    (spreadsheet : String) (chart : Json) :
    (chartRequests name spreadsheet chart).filterMap Request.created? =
      [name "chart_slide", name "chart"] := by
  simp [chartRequests, topicEmbed, Request.created?, hname]

/-- The edits for an object are edits of it. -/
theorem target_of_mem_editsOf {markup object : String} {edit : Markup.Edit}
    (h : edit ∈ Markup.editsOf markup object) : edit.target = object := by
  obtain ⟨text, styles, hedits, hstyles⟩ := editsOf_eq markup object
  rw [hedits] at h
  rcases List.mem_cons.1 h with rfl | hstyle
  · rfl
  · exact (hstyles edit hstyle).2

section TextSlide

variable (page object image markup : String) (box place : Box) (url? : Option Json)

theorem textBoxes_textSlide :
    (Request.createSlide page :: textBox object page box markup ++
      url?.toList.map fun url => Request.createImage image page url place).filterMap
        Request.textBox? = [object] := by
  rw [textBox, List.filterMap_append]
  change object :: (List.filterMap Request.textBox? _ ++ _) = _
  rw [filterMap_editText fun _ => rfl]
  cases url? <;> rfl

/-- All edits on a slide with a text box are those of its text. -/
theorem editsOn_textSlide :
    editsOn object (.createSlide page :: textBox object page box markup ++
      url?.toList.map fun url => .createImage image page url place) =
        Markup.editsOf markup object := by
  have himages : List.filterMap Request.edit?
      (url?.toList.map fun url => .createImage image page url place) = [] := by
    cases url? <;> rfl
  have hall : List.filterMap Request.edit? (.createSlide page :: textBox object page box markup) =
      Markup.editsOf markup object := by
    rw [textBox]
    change List.filterMap Request.edit? (List.map Request.editText _) = _
    rw [List.filterMap_map]
    exact List.filterMap_some
  rw [editsOn, List.filterMap_append, hall, himages, List.append_nil]
  exact List.filter_eq_self.2 fun edit hedit => by simp [target_of_mem_editsOf hedit]

end TextSlide

/-- A slide with a text box and perhaps an image. -/
theorem isSound_textSlide {page object image : String} (box place : Box) (markup : String)
    (url? : Option Json)
    (hdistinct : ((Request.createSlide page :: textBox object page box markup ++
      url?.toList.map fun url => Request.createImage image page url place).filterMap
        Request.created?).Nodup) :
    IsSound (.createSlide page :: textBox object page box markup ++
      url?.toList.map fun url => .createImage image page url place) := by
  have hboxes := textBoxes_textSlide page object image markup box place url?
  have hedits := editsOn_textSlide page object image markup box place url?
  rw [textBox, List.cons_append, List.cons_append] at hdistinct hboxes hedits ⊢
  -- Behind the slide and the text box stand edits of the box and images on the slide.
  have hothers : ∀ other ∈ (Markup.editsOf markup object).map Request.editText ++
        url?.toList.map fun url => Request.createImage image page url place,
      (∃ edit, other = .editText edit ∧ edit.target = object) ∨
        ∃ url, other = .createImage image page url place := by
    intro other hother
    rcases List.mem_append.1 hother with hother | hother
    · obtain ⟨edit, hedit, rfl⟩ := List.mem_map.1 hother
      exact .inl ⟨edit, rfl, target_of_mem_editsOf hedit⟩
    · obtain ⟨url, -, rfl⟩ := List.mem_map.1 hother
      exact .inr ⟨url, rfl⟩
  refine ⟨hdistinct, .cons rfl rfl ?_, ?_, ?_⟩
  · refine List.forall_mem_cons.2 ⟨.inr rfl, fun other hother => ?_⟩
    rcases hothers other hother with ⟨edit, rfl, -⟩ | ⟨url, rfl⟩
    · exact .inl rfl
    · exact .inr rfl
  · have hslide : Scoped Request.target? Request.textBox? [.createSlide page] :=
      .of_none (List.forall_mem_cons.2 ⟨rfl, List.forall_mem_nil _⟩)
    refine hslide.append (.cons rfl rfl fun other hother => ?_)
    rcases hothers other hother with ⟨edit, rfl, htarget⟩ | ⟨url, rfl⟩
    · exact .inr (congrArg some htarget)
    · exact .inl rfl
  · intro other hother
    rw [hboxes] at hother
    obtain rfl := List.mem_singleton.1 hother
    obtain ⟨text, styles, htext, hstyles⟩ := editsOf_eq markup other
    exact ⟨text, styles, hedits.trans htext, fun style hstyle => (hstyles style hstyle).1⟩

/-- The requests for a chart are sound if their two names differ. -/
theorem isSound_chartRequests {name : String → String} {spreadsheet : String} {chart : Json}
    (hdistinct : ((chartRequests name spreadsheet chart).filterMap Request.created?).Nodup) :
    IsSound (chartRequests name spreadsheet chart) := by
  refine ⟨hdistinct, .cons rfl rfl ?_, .of_none ?_, fun _ hmem => nomatch hmem⟩
  · exact List.forall_mem_cons.2 ⟨.inr rfl, fun _ hmem => nomatch hmem⟩
  · exact List.forall_mem_cons.2 ⟨rfl, List.forall_mem_cons.2 ⟨rfl, fun _ hmem => nomatch hmem⟩⟩

/-! ## The batches of topics -/

/-- Names of different kinds differ. -/
theorem Draft.name_ne (draft : Draft) (index : Nat) {kind kind' : String} (hkind : kind ∈ kinds)
    (hkind' : kind' ∈ kinds) (hne : kind ≠ kind') :
    draft.name index kind ≠ draft.name index kind' := by
  intro h
  exact hne (objectName_inj (not_isDigit_of_mem_kinds kind hkind)
    (not_isDigit_of_mem_kinds kind' hkind') h).1

namespace Draft

theorem name_ne_empty (draft : Draft) (index : Nat) (kind : String) :
    (draft.name index kind).isEmpty = false :=
  objectName_ne_empty kind index draft.suffix

/-- The objects of a topic have different names. -/
theorem nodup_names (draft : Draft) (index : Nat) : (kinds.map (draft.name index)).Nodup := by
  have hkinds : kinds.Nodup := by decide
  exact List.pairwise_map.2 (hkinds.imp_of_mem (draft.name_ne index))

/-- The slide with the summary has a text box and no image. -/
theorem summarySlide_eq (name : String → String) (content : TopicContent) :
    summarySlide name content =
      .createSlide (name "summary") ::
        textBox (name "summary_body") (name "summary") bodyBox content.summary ++
          (none : Option Json).toList.map fun url =>
            .createImage (name "image") (name "summary") url imageBox :=
  (List.append_nil _).symm

/-- A topic has at most one object of each kind. -/
theorem created_slides_sublist (spreadsheet : String) (draft : Draft) (index : Nat) :
    ((draft.slides spreadsheet index).filterMap Request.created?).Sublist
      (kinds.map (draft.name index)) := by
  rw [slides]
  cases TopicContent.of draft.topic with
  | error fault => exact List.nil_sublist _
  | ok content =>
    -- The image and the chart may be missing, so this is a part of the names only.
    have htitle : ((titleSlide (draft.name index) content).filterMap Request.created?).Sublist
        (["slide", "title", "image"].map (draft.name index)) := by
      rw [titleSlide, created_textSlide]
      cases content.image <;> simp
    have hsummary : (summarySlide (draft.name index) content).filterMap Request.created? =
        ["summary", "summary_body"].map (draft.name index) := by
      rw [summarySlide_eq, created_textSlide]
      rfl
    have hchart : ((draft.chartSlides spreadsheet index).filterMap Request.created?).Sublist
        (["chart_slide", "chart"].map (draft.name index)) := by
      rw [chartSlides]
      split
      · rw [created_chartRequests (draft.name_ne_empty index "chart")]
        exact List.Sublist.refl _
      · exact List.nil_sublist _
    simp only [List.filterMap_append, hsummary]
    exact (htitle.append (List.Sublist.refl _)).append hchart

/-- The slides of a topic are a sound batch. -/
theorem isSound_slides (spreadsheet : String) (draft : Draft) (index : Nat) :
    IsSound (draft.slides spreadsheet index) := by
  have hdistinct := (draft.nodup_names index).sublist
    (draft.created_slides_sublist spreadsheet index)
  -- The names are made for all slides together, and each part has some of them.
  revert hdistinct
  rw [slides]
  cases TopicContent.of draft.topic with
  | error fault => exact fun _ => isSound_nil
  | ok content =>
    intro hdistinct
    have hpart : ∀ {part : List Request}, part.Sublist (titleSlide (draft.name index) content ++
        summarySlide (draft.name index) content ++ draft.chartSlides spreadsheet index) →
        (part.filterMap Request.created?).Nodup :=
      fun hpart => hdistinct.sublist (hpart.filterMap _)
    have hslides := List.sublist_append_left (titleSlide (draft.name index) content ++
      summarySlide (draft.name index) content) (draft.chartSlides spreadsheet index)
    have htitle : IsSound (titleSlide (draft.name index) content) :=
      isSound_textSlide _ _ _ _ (hpart ((List.sublist_append_left _ _).trans hslides))
    have hsummary : IsSound (summarySlide (draft.name index) content) := by
      have hdistinct := hpart ((List.sublist_append_right _ _).trans hslides)
      rw [summarySlide_eq] at hdistinct ⊢
      exact isSound_textSlide _ _ _ _ hdistinct
    have hchart : IsSound (draft.chartSlides spreadsheet index) := by
      have hdistinct := hpart (List.sublist_append_right _ _)
      rw [chartSlides] at hdistinct ⊢
      split
      · next hdata =>
        rw [hdata] at hdistinct
        exact isSound_chartRequests hdistinct
      · exact isSound_nil
    exact (htitle.append hsummary (hpart hslides)).append hchart hdistinct

end Draft

/-- The objects of topics have names with a number from that of the first topic on. -/
theorem exists_of_mem_created_deckSlides {spreadsheet object : String} {first : Nat}
    {drafts : List Draft}
    (h : object ∈ (deckSlides spreadsheet first drafts).filterMap Request.created?) :
    ∃ kind ∈ kinds, ∃ index suffix, first ≤ index ∧ object = objectName kind index suffix := by
  obtain ⟨request, hrequest, hcreated⟩ := List.mem_filterMap.1 h
  obtain ⟨⟨draft, index⟩, hdraft, hslides⟩ := List.mem_flatMap.1 hrequest
  obtain ⟨kind, hkind, rfl⟩ := List.mem_map.1
    ((draft.created_slides_sublist spreadsheet index).subset
      (List.mem_filterMap.2 ⟨request, hslides, hcreated⟩))
  exact ⟨kind, hkind, index, draft.suffix, (List.mem_zipIdx hdraft).1, rfl⟩

/-- The slides of all topics are one sound batch, even if all suffixes are equal. -/
theorem isSound_deckSlides (spreadsheet : String) (first : Nat) (drafts : List Draft) :
    IsSound (deckSlides spreadsheet first drafts) := by
  induction drafts generalizing first with
  | nil => exact isSound_nil
  | cons draft rest ih =>
    have hdraft := draft.isSound_slides spreadsheet first
    refine hdraft.append (ih (first + 1)) ?_
    rw [List.filterMap_append]
    refine List.nodup_append.2 ⟨hdraft.distinct, (ih (first + 1)).distinct, ?_⟩
    rintro object hobject other hother rfl
    obtain ⟨kind, hkind, rfl⟩ := List.mem_map.1
      ((draft.created_slides_sublist spreadsheet first).subset hobject)
    obtain ⟨kind', hkind', index, suffix, hindex, hname⟩ :=
      exists_of_mem_created_deckSlides hother
    have hsame := (objectName_inj (not_isDigit_of_mem_kinds kind hkind)
      (not_isDigit_of_mem_kinds kind' hkind') hname).2
    omega

/-! ## The batches of a run -/

/-- A batch that only deletes is sound. -/
theorem isSound_deletion (objects : List Json) : IsSound (objects.map .deleteObject) := by
  have hnone : ∀ {f : Request → Option String}, (∀ object, f (.deleteObject object) = none) →
      (objects.map Request.deleteObject).filterMap f = [] := by
    intro f hf
    rw [List.filterMap_map]
    exact List.filterMap_eq_nil_iff.2 fun object _ => hf object
  have hall : ∀ {f : Request → Option String}, (∀ object, f (.deleteObject object) = none) →
      ∀ request ∈ objects.map Request.deleteObject, f request = none := by
    intro f hf request hrequest
    obtain ⟨object, -, rfl⟩ := List.mem_map.1 hrequest
    exact hf object
  refine ⟨?_, .of_none (hall fun _ => rfl), .of_none (hall fun _ => rfl), ?_⟩
  · rw [hnone fun _ => rfl]
    exact List.nodup_nil
  · rw [hnone fun _ => rfl]
    exact fun _ hmem => nomatch hmem

/-- All that is sent to the slides service in one batch is sound, whatever the topics and the
suffixes are and whatever the outside answers. -/
theorem isSound_of_mem_calls {σ : Type} (answer : (action : Action) → σ → action.Answer × σ)
    (state : σ) (clients : Clients) (spreadsheet presentation : String) (topics : List Json)
    {target : String} {requests : List Request}
    (h : .slidesUpdate target requests ∈
      ((writeTopics clients spreadsheet presentation (.arr topics)).transcript answer state).map
        Exchange.call) : IsSound requests := by
  obtain ⟨script, -, hfollows⟩ := follows_writeTopics (Program.dialogue_transcript answer
    (writeTopics clients spreadsheet presentation (.arr topics)) state)
  obtain ⟨step, hstep, hcall⟩ := List.mem_map.1 (hfollows.calls_prefix.subset h)
  rcases List.mem_append.1 hstep with hstep | hstep
  · -- Before the new slides are written, only the old ones are deleted by a batch.
    rcases mem_preparation_cases hstep with hstep | hsheets
    · rw [removalSteps] at hstep
      rcases List.mem_cons.1 hstep with rfl | hstep
      · cases hcall
      · split at hstep
        · cases hstep
        · obtain rfl := List.mem_singleton.1 hstep
          cases hcall
          exact isSound_deletion _
    · rw [hcall] at hsheets
      cases hsheets
  · rw [Script.creation] at hstep
    split at hstep
    · cases hstep
    · obtain rfl := List.mem_singleton.1 hstep
      cases hcall
      exact isSound_deckSlides spreadsheet 0 script.drafts

/-- A reply that names a new sheet and a new chart. -/
def steadyReply : Json :=
  .obj [("replies", .arr [.obj [
    ("addSheet", .obj [("properties", .obj [("sheetId", .int 7)])]),
    ("addChart", .obj [("chart", .obj [("chartId", .int 9)])])]])]

/-- An outside that gives every call to the two services the same reply and draws only zeros. -/
def steadyAnswer : (action : Action) → Unit → action.Answer × Unit :=
  answerCalls fun
    | .sheetsGet .., _ | .sheetsUpdate .., _ | .valuesClear .., _ | .valuesUpdate .., _
    | .slidesGet _, _ | .slidesUpdate .., _ => (.ok steadyReply, ())
    | request, _ => (request.quietReply, ())

/-- A topic with a formatted summary, an image and data. -/
def sampleTopic : Json :=
  .obj [("topic", .str "Trains"), ("summary", .str "• **fast**\n  ◦ green"),
    ("image_url", .str "train.png"),
    ("dataset", .obj [("points", .arr [.obj [("label", .str "2020"), ("value", .int 1)]])])]

/-- Twelve topics with all kinds of objects and one suffix, so that numbers and kinds of some names
begin like those of others. -/
theorem isSound_of_equal_suffixes : ∃ target requests,
    .slidesUpdate target requests ∈
      ((writeTopics ⟨some ⟨"login"⟩, some ⟨"login"⟩⟩ "book" "deck"
        (.arr (List.replicate 12 sampleTopic))).transcript steadyAnswer ()).map Exchange.call ∧
      requests.any Request.addsSlide = true ∧ IsSound requests := by
  have hadds : (((writeTopics ⟨some ⟨"login"⟩, some ⟨"login"⟩⟩ "book" "deck"
      (.arr (List.replicate 12 sampleTopic))).transcript steadyAnswer ()).map
        Exchange.call).any addsSlides = true := by
    decide +kernel
  obtain ⟨call, hmem, hcall⟩ := List.any_eq_true.1 hadds
  cases call with
  | slidesUpdate target requests =>
    exact ⟨target, requests, hmem, hcall, isSound_of_mem_calls _ _ _ _ _ _ hmem⟩
  | _ => cases hcall

end DeckPlan.Slides
