import DeckPlan.Proofs.CommandLine.Escape
import DeckPlan.Proofs.CommandLine.Lookup

/-!
# Which images are shown

An image is shown only if it was the best one of the search and its server said that it is an image
(`IsVetted`); otherwise the default image is shown.

* `isSelective_findImage` says so of every run (`IsSelective`): nothing else comes onto a slide when
  the search fails (`SearchFails`), when it finds an address that is not encrypted (`FindsPlain`),
  or when the check of the address fails (`CheckFails`).
* `isBestEffort_images` says which failures can be seen (`IsBestEffort`): those of the check that
  are not failures of the web, and no other ones. Such a failure ends the lookup of the images of
  all topics, so not every failure leads to the default image (`not_fallsBack_of_brokenCheck`).
-/

namespace DeckPlan.CommandLine

open Program

variable {options : Options} {access : Image.SearchAccess} {events : List Event}
  {parameters : List (String × String)} {query : String} {fallback : Json}
  {outcome : Except Fault Json}

/-! ## What can go wrong -/

/-- The search was not made, it failed, or its reply has no results. -/
def SearchFails (parameters : List (String × String)) (events : List Event) : Prop :=
  ∀ reply, ⟨.call (Image.searchCall parameters), .ok reply⟩ ∈ events → ¬ Image.IsFound reply

/-- The address of the best image that was found is not encrypted. -/
def FindsPlain (parameters : List (String × String)) (query : String) (events : List Event) :
    Prop :=
  ∃ reply link, ⟨.call (Image.searchCall parameters), .ok reply⟩ ∈ events ∧
    Image.IsPicked query reply link ∧ ¬ "https://".toList <+: Text.lower link.toList

/-- No server said that there is an image: it was not asked, it did not answer, or it answered
something else. -/
def CheckFails (events : List Event) : Prop :=
  ∀ link timeout answer, ⟨.call (.webHead link timeout), .ok answer⟩ ∈ events →
    ¬ Image.IsImageAnswer answer

/-- The check of an address failed with the fault. -/
def CheckRaises (events : List Event) (fault : Fault) : Prop :=
  ∃ link timeout, ⟨.call (.webHead link timeout), .error fault⟩ ∈ events

/-- The address is that of the best image in the reply to the one search, it is encrypted, and the
server that was asked about it, once and after the search, said that there is an image. -/
structure IsVetted (parameters : List (String × String)) (query link : String)
    (events : List Event) : Prop where
  isAnswered : ∃ reply answer,
    events = [⟨.call (Image.searchCall parameters), .ok reply⟩,
      ⟨.call (.webHead link Image.headTimeout), .ok answer⟩] ∧
      Image.IsPicked query reply link ∧ Image.IsImageAnswer answer
  isSecure : "https://".toList <+: Text.lower link.toList

/-! ## Images that are shown -/

/-- Images are looked for, and only vetted ones are shown and the default. -/
structure IsSelective (access : Image.SearchAccess) (parameters : List (String × String))
    (query : String) (fallback : Json) (events : List Event) (outcome : Except Fault Json) :
    Prop where
  searched : Image.IsAskable access query →
    ∃ reply rest, events = ⟨.call (Image.searchCall parameters), reply⟩ :: rest
  /-- The best image is checked if its address is encrypted. -/
  checked : ∀ reply link, ⟨.call (Image.searchCall parameters), .ok reply⟩ ∈ events →
    Image.IsPicked query reply link → "https://".toList <+: Text.lower link.toList →
      ∃ answer, ⟨.call (.webHead link Image.headTimeout), answer⟩ ∈ events
  vetted : ∀ url, outcome = .ok url →
    url = fallback ∨ ∃ link, url = .str link ∧ IsVetted parameters query link events
  /-- Vetted images are shown. -/
  shown : ∀ link, IsVetted parameters query link events → outcome = .ok (.str link)
  /-- Whatever goes wrong, no other image than the default is shown. -/
  spared : SearchFails parameters events ∨ FindsPlain parameters query events ∨ CheckFails events →
    ∀ url, outcome = .ok url → url = fallback

/-- A vetted image was found. -/
theorem IsVetted.not_searchFails {link : String} (h : IsVetted parameters query link events) :
    ¬ SearchFails parameters events := by
  obtain ⟨⟨reply, answer, rfl, hpicked, -⟩, -⟩ := h
  exact fun hfails => hfails reply List.mem_cons_self hpicked.isFound

/-- A vetted image passed its check. -/
theorem IsVetted.not_checkFails {link : String} (h : IsVetted parameters query link events) :
    ¬ CheckFails events := by
  obtain ⟨⟨reply, answer, rfl, -, himage⟩, -⟩ := h
  exact fun hfails => hfails link Image.headTimeout answer (by simp) himage

/-- A vetted image has an encrypted address. -/
theorem IsVetted.not_findsPlain {link : String} (h : IsVetted parameters query link events) :
    ¬ FindsPlain parameters query events := by
  obtain ⟨⟨reply, answer, rfl, hpicked, -⟩, hsecure⟩ := h
  rintro ⟨other, plain, hmem, hplain, hinsecure⟩
  -- The reply with the address that is not encrypted would be the same one.
  have hreply : other = reply := by simpa using hmem
  rw [hreply] at hplain
  exact hinsecure (hpicked.unique hplain ▸ hsecure)

/-- The search is the first that happens if there is something to search for. -/
theorem ImageCourse.exists_reply (h : ImageCourse access parameters query fallback events outcome)
    (haskable : Image.IsAskable access query) :
    ∃ reply rest, events = ⟨.call (Image.searchCall parameters), reply⟩ :: rest := by
  cases h with
  | unasked _ hblank => exact absurd haskable hblank
  | refused | unfound | unchecked | checked => exact ⟨_, _, rfl⟩

/-- The best image is checked if its address is encrypted. -/
theorem ImageCourse.exists_answer (h : ImageCourse access parameters query fallback events outcome)
    {reply : WebReply} {link : String}
    (hmem : ⟨.call (Image.searchCall parameters), .ok reply⟩ ∈ events)
    (hpicked : Image.IsPicked query reply link)
    (hsecure : "https://".toList <+: Text.lower link.toList) :
    ∃ answer, ⟨.call (.webHead link Image.headTimeout), answer⟩ ∈ events := by
  cases h with
  | unasked | refused => simp at hmem
  | @unfound other _ hunfound =>
    obtain rfl : reply = other := by simpa using hmem
    exact absurd hpicked.isFound hunfound
  | @unchecked other _ hother hplain =>
    obtain rfl : reply = other := by simpa using hmem
    rw [hother.unique hpicked, Image.isHttps_iff.2 hsecure] at hplain
    cases hplain
  | @checked other _ answer hother =>
    obtain rfl : reply = other := by simpa using hmem
    rw [hother.unique hpicked]
    exact ⟨answer, by simp⟩

/-- What is shown is the default or vetted. -/
theorem ImageCourse.vetted (h : ImageCourse access parameters query fallback events outcome)
    {url : Json} (hurl : outcome = .ok url) :
    url = fallback ∨ ∃ link, url = .str link ∧ IsVetted parameters query link events := by
  cases h with
  | unasked | refused | unfound | unchecked => exact .inl (Except.ok.inj hurl).symm
  | checked answer hpicked hsecure =>
    rcases Image.shownAfter_eq_ok hurl with ⟨image, rfl, himage, rfl⟩ | ⟨-, rfl⟩
    · exact .inr ⟨_, rfl, ⟨_, image, rfl, hpicked, himage⟩, Image.isHttps_iff.1 hsecure⟩
    · exact .inl rfl

/-- A vetted image is shown. -/
theorem ImageCourse.shown (h : ImageCourse access parameters query fallback events outcome)
    {link : String} (hlink : IsVetted parameters query link events) :
    outcome = .ok (.str link) := by
  obtain ⟨⟨reply, answer, hevents, hpicked, himage⟩, hsecure⟩ := hlink
  cases h with
  | unasked | refused | unfound | unchecked => simp at hevents
  | checked other =>
    -- The two lookups ask the same server and get the same answer.
    obtain ⟨-, hcheck⟩ := List.cons.inj hevents
    cases hcheck
    rw [Image.shownAfter, if_pos (Image.isImageReply_iff.2 himage)]

/-- Each course of a lookup shows a vetted image or the default. -/
theorem ImageCourse.isSelective (h : ImageCourse access parameters query fallback events outcome) :
    IsSelective access parameters query fallback events outcome where
  searched := h.exists_reply
  checked _ _ := h.exists_answer
  vetted _ := h.vetted
  shown _ := h.shown
  spared hwrong url hurl := by
    rcases h.vetted hurl with heq | ⟨link, -, hvetted⟩
    · exact heq
    · rcases hwrong with hfails | hplain | hfails
      · exact absurd hfails hvetted.not_searchFails
      · exact absurd hplain hvetted.not_findsPlain
      · exact absurd hfails hvetted.not_checkFails

/-- Every lookup of an image searches for one and checks what it finds, and it shows a vetted one or
the default, whatever the outside answers. -/
theorem isSelective_findImage {σ : Type} (answer : (action : Action) → σ → action.Answer × σ)
    (state : σ) (options : Options) (access : Image.SearchAccess) (title : String) :
    IsSelective access (imageParameters options access title) title
      (.str options.defaultImageUrl) ((findImage options access title).events answer state)
      ((findImage options access title).run answer state).1 :=
  (imageCourse_of_course (course_events answer _ state)).isSelective

/-- A search engine and a server that write everything in capital letters. -/
def loudReplies : World :=
  { World.silent with
    replies
      | .webGet => [.ok { body := "\x7b\"items\":[\x7b\"link\":\"HTTPS://A.B/C.PNG\"\x7d]\x7d" }]
      | .webHead => [.ok { headers := [("CONTENT-TYPE", "IMAGE/PNG")] }]
      | _ => [] }

/-- Letter case does not count, and the address is shown as it was found. -/
example : ((loudReplies.play (findImage (.initial {}) ⟨"key", "engine"⟩ "Cars")).1.bind fun url =>
    url.text "lower").toOption = some "HTTPS://A.B/C.PNG" := by
  decide +kernel

/-! ## Failures that are seen -/

/-- The outcome is a failure exactly if a check fails with it, and not as a failure of the web. -/
def FailsByCheck {α : Type} (events : List Event) (outcome : Except Fault α) : Prop :=
  ∀ fault, outcome = .error fault ↔ CheckRaises events fault ∧ fault.isWebFault = false

/-- Failures lead to the default image, but for those of the check that are no failures of the
web. -/
structure IsBestEffort (parameters : List (String × String)) (query : String) (fallback : Json)
    (events : List Event) (outcome : Except Fault Json) : Prop where
  failsByCheck : FailsByCheck events outcome
  unfound : SearchFails parameters events ∨ FindsPlain parameters query events →
    outcome = .ok fallback
  unchecked : CheckFails events → (∀ fault, CheckRaises events fault → fault.isWebFault = true) →
    outcome = .ok fallback

/-- Where only the web is called, nothing but a check has failures that are seen. -/
theorem escapes_iff_of_web {event : Event} {fault : Fault} (h : Within [.web] event.action) :
    Escapes event fault ↔ (∃ link timeout, event = ⟨.call (.webHead link timeout), .error fault⟩) ∧
      fault.isWebFault = false := by
  constructor
  · rintro ⟨hraises, hunguarded⟩
    obtain ⟨request, rfl, hparty⟩ := eq_call_of_raises h (by simp) hraises
    cases request with
    | webHead link timeout => exact ⟨⟨link, timeout, rfl⟩, hunguarded⟩
    | _ =>
      -- Other calls are unguarded only as calls of another party.
      have hweb : Call.party _ = .web := List.mem_singleton.1 hparty
      exact absurd (hunguarded.1.symm.trans hweb) (by decide)
  · rintro ⟨⟨link, timeout, rfl⟩, hother⟩
    exact ⟨rfl, hother⟩

/-- Where only the web is called, what escapes is a failure of a check. -/
theorem FailsByEscape.failsByCheck {α : Type} {outcome : Except Fault α}
    (h : FailsByEscape events outcome) (hweb : ∀ event ∈ events, Within [.web] event.action) :
    FailsByCheck events outcome := by
  intro fault
  rw [h fault]
  constructor
  · rintro ⟨event, hmem, hescapes⟩
    obtain ⟨⟨link, timeout, rfl⟩, hother⟩ := (escapes_iff_of_web (hweb event hmem)).1 hescapes
    exact ⟨⟨link, timeout, hmem⟩, hother⟩
  · rintro ⟨⟨link, timeout, hmem⟩, hother⟩
    exact ⟨_, hmem, rfl, hother⟩

/-- The default image is shown unless a check fails in a way that is seen. -/
theorem ImageCourse.eq_fallback_of_unfound
    (h : ImageCourse access parameters query fallback events outcome)
    (hwrong : SearchFails parameters events ∨ FindsPlain parameters query events) :
    outcome = .ok fallback := by
  cases h with
  | unasked | refused | unfound | unchecked => rfl
  | @checked reply link answer hpicked hsecure =>
    -- The search went well, or there would be no check.
    rcases hwrong with hfails | ⟨other, plain, hmem, hplain, hinsecure⟩
    · exact absurd hpicked.isFound (hfails reply List.mem_cons_self)
    · obtain rfl : other = reply := by simpa using hmem
      rw [hplain.unique hpicked] at hinsecure
      exact absurd (Image.isHttps_iff.1 hsecure) hinsecure

/-- In each course of a lookup failures lead to the default image, but for those of a check. -/
theorem isBestEffort_of_course {title : String}
    (h : (findImage options access title).Course events outcome) :
    IsBestEffort (imageParameters options access title) title (.str options.defaultImageUrl) events
      outcome := by
  have hcourse := imageCourse_of_course h
  have hfails : FailsByCheck events outcome :=
    hcourse.failsByEscape.failsByCheck
      ((keepsTo_findImage options access title).forall_mem_course h)
  refine ⟨hfails, hcourse.eq_fallback_of_unfound, fun hcheck hweb => ?_⟩
  cases outcome with
  | error fault =>
    obtain ⟨hraises, hother⟩ := (hfails fault).1 rfl
    rw [hweb fault hraises] at hother
    cases hother
  | ok url => exact congrArg _ (hcourse.isSelective.spared (.inr (.inr hcheck)) url rfl)

/-- In every run, a failure of the search or of the check leads to the default image, unless it is a
failure of the check but not one of the web. Such a failure, and no other one, ends the lookup of
the image and that of the images of all topics. -/
theorem isBestEffort_images {σ : Type} (answer : (action : Action) → σ → action.Answer × σ)
    (state : σ) (options : Options) (access : Image.SearchAccess) :
    (∀ title, IsBestEffort (imageParameters options access title) title
      (.str options.defaultImageUrl) ((findImage options access title).events answer state)
      ((findImage options access title).run answer state).1) ∧
    ∀ topics, FailsByCheck ((addImages options access topics).events answer state)
      ((addImages options access topics).run answer state).1 := by
  refine ⟨fun title => isBestEffort_of_course (course_events answer _ state), fun topics => ?_⟩
  have hcourse := course_events answer (addImages options access topics) state
  exact (illustrationCourse_of_course hcourse).failsByEscape.failsByCheck
    ((keepsTo_addImages options access topics).forall_mem_course hcourse)

/-- The search finds an image with an encrypted address that cannot even be taken apart. -/
def brokenCheck : World :=
  { World.silent with
    replies
      | .webGet => [.ok { body := "\x7b\"items\":[\x7b\"link\":\"https://a.b/c.png\"\x7d]\x7d" }]
      | .webHead => [.error (.reported .value "label too long")]
      | _ => [] }

/-- A failure of the check that is not one of the web does not lead to the default image. -/
theorem not_fallsBack_of_brokenCheck :
    ¬ ∀ (world : World) (options : Options) (access : Image.SearchAccess) (title : String),
      (∃ url, (world.play (findImage options access title)).1 = .ok url) ∧
        (SearchFails (imageParameters options access title)
            ((findImage options access title).events World.answer world) ∨
          CheckFails ((findImage options access title).events World.answer world) →
            (world.play (findImage options access title)).1 =
              .ok (.str options.defaultImageUrl)) := by
  intro h
  obtain ⟨⟨url, hurl⟩, -⟩ := h brokenCheck (.initial {}) ⟨"key", "engine"⟩ "Cars"
  have hfails : (brokenCheck.play (findImage (.initial {}) ⟨"key", "engine"⟩ "Cars")).1.isOk =
      false := by
    decide +kernel
  rw [hurl] at hfails
  cases hfails

end DeckPlan.CommandLine
