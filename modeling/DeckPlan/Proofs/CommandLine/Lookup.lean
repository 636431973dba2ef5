import DeckPlan.CommandLine.Pipeline
import DeckPlan.Proofs.Image.Check
import DeckPlan.Proofs.Image.Search

/-!
# How images are looked up

For each topic an image is searched for, at most once, and the image that is found is checked, at
most once. `ImageCourse` lists the courses that this can take for a query, with the image that is
shown at the end, and `LookupCourse` are those for a topic. `IllustrationCourse` are the courses for
all topics, one topic after the other.
-/

namespace DeckPlan

open Program

/-! ## The search -/

namespace Image

variable {events : List Event}

/-- The call that searches for images. -/
abbrev searchCall (parameters : List (String × String)) : Call :=
  .webGet searchUrl parameters searchTimeout

/-- There is something to search for and to search with. -/
structure IsAskable (access : SearchAccess) (query : String) : Prop where
  key : Text.isBlankText access.key = false
  engine : Text.isBlankText access.engine = false
  query : Text.isBlankText query = false

/-- A search that is configured and asked for something is one call, whose reply decides. -/
theorem course_search {access : SearchAccess} {query : String} {filters : Filters} {count : Int}
    {outcome : Except Fault String}
    (h : (search access query filters (some count)).Course events outcome) :
    let parameters := searchParameters access query filters (clampResults count)
    (¬ IsAskable access query ∧ ∃ fault, events = [] ∧ outcome = .error fault) ∨
      (∃ fault, events = [⟨.call (searchCall parameters), .error fault⟩] ∧
        outcome = .error fault) ∨
      ∃ reply, events = [⟨.call (searchCall parameters), .ok reply⟩] ∧
        outcome = pick query reply := by
  intro parameters
  rw [search] at h
  split at h
  · next hblank =>
    refine .inl ⟨fun haskable => ?_, _, h⟩
    simp [haskable.key, haskable.engine] at hblank
  split at h
  · next hblank =>
    refine .inl ⟨fun haskable => ?_, _, h⟩
    simp [haskable.query] at hblank
  rcases course_call_bind.1 h with ⟨fault, rfl, rfl⟩ | ⟨reply, rest, rfl, hread⟩
  · exact .inr (.inl ⟨fault, rfl, rfl⟩)
  · obtain ⟨rfl, rfl⟩ := trace_ofExcept.1 hread
    exact .inr (.inr ⟨reply, rfl, rfl⟩)

end Image

namespace CommandLine

variable {options : Options} {access : Image.SearchAccess} {events : List Event}

/-! ## The image of a topic -/

/-- What is asked in the search for an image with the given title. -/
def imageParameters (options : Options) (access : Image.SearchAccess) (title : String) :
    List (String × String) :=
  Image.searchParameters access title options.filters (Image.clampResults imageResults)

/-- What is asked in the search for an image for a topic. -/
def imageQuery (options : Options) (access : Image.SearchAccess) (topic : Fields) :
    List (String × String) :=
  imageParameters options access (titleOf topic)

/-- The courses in which an image for a query is looked up, with what is shown. -/
inductive ImageCourse (access : Image.SearchAccess) (parameters : List (String × String))
    (query : String) (fallback : Json) : List Event → Except Fault Json → Prop
  /-- There is nothing to search for. -/
  | unasked (line : String) : ¬ Image.IsAskable access query →
      ImageCourse access parameters query fallback [⟨.log line, ()⟩] (.ok fallback)
  | refused (cause : Fault) (start : String) :
      ImageCourse access parameters query fallback
        [⟨.call (Image.searchCall parameters), .error cause⟩, ⟨.log (start ++ cause.message), ()⟩]
        (.ok fallback)
  /-- The reply has no results. -/
  | unfound {reply : WebReply} (line : String) : ¬ Image.IsFound reply →
      ImageCourse access parameters query fallback
        [⟨.call (Image.searchCall parameters), .ok reply⟩, ⟨.log line, ()⟩] (.ok fallback)
  /-- The best image has no encrypted address. -/
  | unchecked {reply : WebReply} {link : String} : Image.IsPicked query reply link →
      Image.isHttps link = false →
      ImageCourse access parameters query fallback
        [⟨.call (Image.searchCall parameters), .ok reply⟩] (.ok fallback)
  | checked {reply : WebReply} {link : String} (answer : Except Fault WebReply) :
      Image.IsPicked query reply link → Image.isHttps link = true →
      ImageCourse access parameters query fallback
        [⟨.call (Image.searchCall parameters), .ok reply⟩,
          ⟨.call (.webHead link Image.headTimeout), answer⟩] (Image.shownAfter link fallback answer)

/-- The courses in which the image of a topic is looked up. -/
abbrev LookupCourse (options : Options) (access : Image.SearchAccess) (topic : Fields) :
    List Event → Except Fault Json → Prop :=
  ImageCourse access (imageQuery options access topic) (titleOf topic)
    (.str options.defaultImageUrl)

/-- Whoever looks up an image takes one of the courses. -/
theorem imageCourse_of_course {title : String} {outcome : Except Fault Json}
    (h : (findImage options access title).Course events outcome) :
    ImageCourse access (imageParameters options access title) title (.str options.defaultImageUrl)
      events outcome := by
  -- An empty address is not checked.
  have hempty : ∀ {later : List Event} {outcome : Except Fault Json},
      (Image.usableUrl (.str "") (.str options.defaultImageUrl)).Course later outcome →
        later = [] ∧ outcome = .ok (.str options.defaultImageUrl) := by
    intro later outcome hurl
    rcases Image.course_usableUrl hurl with ⟨-, hnone⟩ | ⟨hsecure, -⟩
    · exact hnone
    · cases hsecure
  rcases trace_bind.1 h with ⟨fault, hsearch, -⟩ | ⟨found, first, second, rfl, hsearch, hurl⟩
  · rcases trace_recover.1 hsearch with
      ⟨found, -, heq⟩ | ⟨cause, before, last, -, -, hlog⟩
    · cases heq
    · obtain ⟨rest, -, -, heq⟩ := course_log_bind.1 hlog
      cases heq
  rcases trace_recover.1 hsearch with
    ⟨link, hfound, heq⟩ | ⟨cause, before, last, rfl, hcause, hlog⟩
  · obtain rfl := Except.ok.inj heq
    rcases Image.course_search hfound with ⟨-, _, -, heq⟩ | ⟨_, -, heq⟩ | ⟨reply, rfl, hpick⟩
    · cases heq
    · cases heq
    have hpicked : Image.IsPicked title reply found := Image.pick_eq_ok_iff.1 hpick.symm
    rcases Image.course_usableUrl hurl with ⟨hplain, rfl, rfl⟩ | ⟨hsecure, answer, rfl, rfl⟩
    · exact .unchecked hpicked hplain
    · exact .checked answer hpicked hsecure
  · obtain ⟨rest, rfl, rfl, heq⟩ := course_log_bind.1 hlog
    obtain rfl := Except.ok.inj heq
    obtain ⟨rfl, rfl⟩ := hempty hurl
    -- The search fails before its call, by its call, or on a reply without an image.
    rcases Image.course_search hcause with ⟨hblank, _, rfl, -⟩ | ⟨_, rfl, heq⟩ | ⟨reply, rfl, hpick⟩
    · exact .unasked _ hblank
    · obtain rfl := Except.error.inj heq
      exact .refused cause _
    · refine .unfound _ fun hfound => ?_
      obtain ⟨link, hlink⟩ := Image.exists_pick hfound title
      rw [hlink] at hpick
      cases hpick

/-! ## The images of all topics -/

/-- The courses in which the images of topics are looked up. -/
inductive IllustrationCourse (options : Options) (access : Image.SearchAccess) :
    List Fields → List Event → Except Fault (List Fields) → Prop
  | done (illustrated : List Fields) : IllustrationCourse options access [] [] (.ok illustrated)
  /-- The remaining topics are left out after a failure. -/
  | failed {topic : Fields} {rest : List Fields} {first : List Event} {fault : Fault}
      (line : String) : LookupCourse options access topic first (.error fault) →
      IllustrationCourse options access (topic :: rest) (⟨.log line, ()⟩ :: first) (.error fault)
  | next {topic : Fields} {rest : List Fields} {first later : List Event} {url : Json}
      {outcome outcome' : Except Fault (List Fields)} (line : String) :
      LookupCourse options access topic first (.ok url) →
      IllustrationCourse options access rest later outcome →
      (∀ fault, outcome' = .error fault ↔ outcome = .error fault) →
      IllustrationCourse options access (topic :: rest) (⟨.log line, ()⟩ :: (first ++ later))
        outcome'

/-- Whoever gives images to topics takes one of the courses. -/
theorem illustrationCourse_of_course {topics : List Fields} {outcome : Except Fault (List Fields)}
    (h : (addImages options access topics).Course events outcome) :
    IllustrationCourse options access topics events outcome := by
  induction topics generalizing events outcome with
  | nil =>
    obtain ⟨rfl, rfl⟩ := h
    exact .done []
  | cons topic rest ih =>
    obtain ⟨events, rfl, hfind⟩ := course_log_bind.1 h
    rcases trace_bind.1 hfind with
      ⟨fault, hfirst, rfl⟩ | ⟨url, first, later, rfl, hfirst, hrest⟩
    · exact .failed _ (imageCourse_of_course hfirst)
    rcases trace_bind.1 hrest with
      ⟨fault, hlater, rfl⟩ | ⟨illustrated, later, last, rfl, hlater, rfl, rfl⟩
    · exact .next _ (imageCourse_of_course hfirst) (ih hlater) (by simp)
    · rw [List.append_nil]
      exact .next _ (imageCourse_of_course hfirst) (ih hlater) (by simp)

/-- Images are looked up if the search is configured. -/
theorem illustrate_cases {env : Environment} {topics : List Fields}
    {outcome : Except Fault (List Fields)}
    (h : (illustrate env options topics).Course events outcome) :
    (events = [] ∧ outcome = .ok topics) ∨
      ((searchAccess env options).key ≠ "" ∧ (searchAccess env options).engine ≠ "" ∧
        IllustrationCourse options (searchAccess env options) topics events outcome) := by
  rw [illustrate] at h
  split at h
  · exact .inl h
  · next hconfigured =>
    simp only [Bool.or_eq_true, String.isEmpty_iff, not_or] at hconfigured
    exact .inr ⟨hconfigured.1, hconfigured.2, illustrationCourse_of_course h⟩

end CommandLine

end DeckPlan
