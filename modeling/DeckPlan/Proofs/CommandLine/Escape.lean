import DeckPlan.Proofs.CommandLine.Lookup
import DeckPlan.Proofs.CommandLine.Stages
import DeckPlan.Proofs.Slides.Failure

/-!
# What becomes of failures

A run ends by giving up or with its topics printed, whatever fails outside, but for the failures
that nothing recovers from (`Escapes`): that of printing the topics, those of the authorization
other than a missing file, and those of the check of an image other than the ones of the web. A run
fails with such a failure, and on the empty number of topics (`IsSettled.failed`).

All other failures are told to the user in a line that holds their message, unless they are passed
over (`IsPassedOver`).
-/

namespace DeckPlan

open Program

/-! ## Failures of the parts -/

/-- Whoever asks a model fails with what the model fails with. -/
theorem Model.failsBy_generate (env : Environment) (prompt : String) (model : Json) :
    (generate env prompt model).FailsBy fun _ => True := by
  refine (failsBy_ofExcept fun _ _ => trivial).bind fun name => ?_
  unfold ask
  split
  · split
    · exact failsBy_fail trivial
    · exact (failsBy_take _).bind fun _ => failsBy_done _
  · split
    · exact failsBy_fail trivial
    · exact (failsBy_take _).bind fun _ => failsBy_done _

/-- Nothing that fails while topics are asked for is recovered from. -/
theorem Topics.failsBy_propose (env : Environment) (inputs : Guard.Inputs) (limit : Option Int)
    (model : Json) : (propose env inputs limit model).FailsBy fun _ => True := by
  have hrequest : ∀ prompt, (request env prompt model).FailsBy fun _ => True := by
    intro prompt
    refine (Model.failsBy_generate env _ model).bind fun reply => ?_
    split
    · exact failsBy_done _
    · split
      · refine (failsBy_take _).bind fun _ =>
          (Model.failsBy_generate env _ model).bind fun strict => ?_
        split
        · exact failsBy_done _
        · exact failsBy_fail trivial
      · exact failsBy_fail trivial
  refine (failsBy_take _).bind fun _ => (hrequest _).bind fun answer => ?_
  exact (failsBy_take _).bind fun _ => (failsBy_ofExcept fun _ _ => trivial).bind fun _ =>
    failsBy_done _

namespace CommandLine

variable {env : Environment} {options : Options} {events : List Event}

/-! ## What becomes of a failure -/

/-- Nothing recovers from the fault where the action fails with it. -/
def Unguarded : Action → Fault → Prop
  | .call (.webHead ..), fault => fault.isWebFault = false
  | .call request, fault => request.party = .authorization ∧ fault.kind ≠ .fileNotFound
  | .hasFile _, fault | .makeFolder _, fault | .openFile _, fault | .serialize _, fault
  | .writeFile .., fault => fault.kind ≠ .fileNotFound
  | .print _, _ => True
  | _, _ => False

/-- A failure that nothing recovers from. -/
def Escapes (event : Event) (fault : Fault) : Prop :=
  event.Raises fault ∧ Unguarded event.action fault

/-- The user is not told of the failure: a model that is asked too often may be asked again, and
where an image cannot be checked another one is shown. -/
def IsPassedOver (event : Event) (fault : Fault) : Prop :=
  (event.call?.map Call.party = some .model ∧ Model.isRateLimit (some fault.message) = true) ∨
    ∃ link timeout, event.call? = some (.webHead link timeout) ∧ fault.isWebFault = true

/-- The line holds the message of the fault. -/
def Tells (line : String) (fault : Fault) : Prop :=
  ∃ start rest, line = start ++ fault.message ++ rest

/-- All failures among the events are accounted for: one escapes, is passed over, or is told in a
line that is logged or is the reason for giving up. -/
def IsAccounted (reason : Option String) (events : List Event) : Prop :=
  ∀ event ∈ events, ∀ fault, event.Raises fault → Escapes event fault ∨ IsPassedOver event fault ∨
    ∃ line, Tells line fault ∧ (⟨.log line, ()⟩ ∈ events ∨ reason = some line)

section Accounts

variable {reason : Option String} {first second : List Event}

/-- Failures stay accounted for when more happens. -/
theorem IsAccounted.append (hfirst : IsAccounted reason first)
    (hsecond : IsAccounted reason second) : IsAccounted reason (first ++ second) := by
  intro event hmem fault hraises
  rcases List.mem_append.1 hmem with hmem | hmem
  · rcases hfirst event hmem fault hraises with h | h | ⟨line, htells, hline⟩
    · exact .inl h
    · exact .inr (.inl h)
    · exact .inr (.inr ⟨line, htells, hline.imp_left (List.mem_append_left _)⟩)
  · rcases hsecond event hmem fault hraises with h | h | ⟨line, htells, hline⟩
    · exact .inl h
    · exact .inr (.inl h)
    · exact .inr (.inr ⟨line, htells, hline.imp_left (List.mem_append_right _)⟩)

/-- Where nothing fails there is nothing to account for. -/
theorem isAccounted_of_not_raises (h : ∀ event ∈ events, ∀ fault, ¬ event.Raises fault) :
    IsAccounted reason events :=
  fun event hmem fault hraises => absurd hraises (h event hmem fault)

/-- A log line accounts for all failures that it tells of. -/
theorem isAccounted_append_log {line : String}
    (h : ∀ event ∈ events, ∀ fault, event.Raises fault →
      Escapes event fault ∨ IsPassedOver event fault ∨ Tells line fault) :
    IsAccounted reason (events ++ [⟨.log line, ()⟩]) := by
  intro event hmem fault hraises
  rcases List.mem_append.1 hmem with hmem | hmem
  · rcases h event hmem fault hraises with h | h | htells
    · exact .inl h
    · exact .inr (.inl h)
    · exact .inr (.inr ⟨line, htells, .inl (by simp)⟩)
  · obtain rfl := List.mem_singleton.1 hmem
    cases hraises

end Accounts

/-- Nothing escapes where neither the web nor the authorization is called. -/
theorem not_escapes_of_within {parties : List Party} (hweb : .web ∉ parties)
    (hauthorization : .authorization ∉ parties)
    (h : ∀ event ∈ events, Within parties event.action) :
    ∀ event ∈ events, ∀ fault, ¬ Escapes event fault := by
  rintro event hmem fault ⟨hraises, hunguarded⟩
  obtain ⟨request, rfl, hparty⟩ := eq_call_of_raises (h event hmem) hauthorization hraises
  cases request with
  | webHead => exact hweb hparty
  | _ =>
    have hcalled : Call.party _ = .authorization := hunguarded.1
    exact hauthorization (hcalled ▸ hparty)

/-- The outcome is a failure exactly if a failure escapes, and then it is that failure. -/
def FailsByEscape {α : Type} (events : List Event) (outcome : Except Fault α) : Prop :=
  ∀ fault, outcome = .error fault ↔ ∃ event ∈ events, Escapes event fault

section FailsByEscape

variable {α β : Type}

/-- A part that is done has failed by nothing that escapes. -/
theorem failsByEscape_ok (h : ∀ event ∈ events, ∀ fault, ¬ Escapes event fault) (value : α) :
    FailsByEscape events (.ok value : Except Fault α) :=
  fun fault => ⟨fun heq => (nomatch heq), fun ⟨event, hmem, hescapes⟩ =>
    absurd hescapes (h event hmem fault)⟩

/-- Events of which none escapes may come before and after. -/
theorem FailsByEscape.congr {outcome : Except Fault α} {outcome' : Except Fault β}
    {events' : List Event} (h : FailsByEscape events outcome)
    (houtcome : ∀ fault, outcome' = .error fault ↔ outcome = .error fault)
    (hevents : ∀ event fault, Escapes event fault → (event ∈ events' ↔ event ∈ events)) :
    FailsByEscape events' outcome' := by
  intro fault
  rw [houtcome, h]
  constructor
  · rintro ⟨event, hmem, hescapes⟩
    exact ⟨event, (hevents event fault hescapes).2 hmem, hescapes⟩
  · rintro ⟨event, hmem, hescapes⟩
    exact ⟨event, (hevents event fault hescapes).1 hmem, hescapes⟩

/-- Events of which none escapes do not count. -/
theorem FailsByEscape.append_left {outcome : Except Fault α} {first : List Event}
    (hfirst : ∀ event ∈ first, ∀ fault, ¬ Escapes event fault) (h : FailsByEscape events outcome) :
    FailsByEscape (first ++ events) outcome := by
  refine h.congr (fun _ => Iff.rfl) fun event fault hescapes => ?_
  rw [List.mem_append, or_iff_right]
  exact fun hmem => hfirst event hmem fault hescapes

/-- Nothing has escaped from a part that is done. -/
theorem FailsByEscape.not_escapes {value : α}
    (h : FailsByEscape events (.ok value : Except Fault α)) :
    ∀ event ∈ events, ∀ fault, ¬ Escapes event fault :=
  fun event hmem fault hescapes => nomatch (h fault).2 ⟨event, hmem, hescapes⟩

end FailsByEscape

/-! ## Images -/

section Images

variable {parameters : List (String × String)} {access : Image.SearchAccess} {query : String}
  {fallback : Json}

theorem not_escapes_log (line : String) : ∀ fault, ¬ Escapes ⟨.log line, ()⟩ fault :=
  fun _ h => nomatch h.1

/-- The failure of a search for images does not escape. -/
theorem not_escapes_search (reply : Except Fault WebReply) :
    ∀ fault, ¬ Escapes ⟨.call (Image.searchCall parameters), reply⟩ fault :=
  fun _ h => nomatch h.2.1

/-- Only the failure of a check can escape. -/
theorem ImageCourse.failsByEscape {outcome : Except Fault Json}
    (h : ImageCourse access parameters query fallback events outcome) :
    FailsByEscape events outcome := by
  cases h with
  | unasked => exact failsByEscape_ok (by simp [not_escapes_log]) fallback
  | refused | unfound =>
    exact failsByEscape_ok (by simp [not_escapes_log, not_escapes_search]) fallback
  | unchecked => exact failsByEscape_ok (by simp [not_escapes_search]) fallback
  | checked answer =>
    intro fault
    rw [Image.shownAfter_eq_error]
    constructor
    · rintro ⟨rfl, hother⟩
      exact ⟨_, List.mem_cons_of_mem _ List.mem_cons_self, rfl, hother⟩
    · rintro ⟨event, hmem, hescapes⟩
      rcases List.mem_cons.1 hmem with rfl | hmem
      · exact absurd hescapes (not_escapes_search _ fault)
      · obtain rfl := List.mem_singleton.1 hmem
        cases answer with
        | ok => cases hescapes.1
        | error cause =>
          obtain rfl := Except.error.inj hescapes.1
          exact ⟨rfl, hescapes.2⟩

/-- The failure of a search is told, and that of a check escapes or is passed over. -/
theorem ImageCourse.isAccounted {outcome : Except Fault Json} {reason : Option String}
    (h : ImageCourse access parameters query fallback events outcome) :
    IsAccounted reason events := by
  cases h with
  | unasked | unfound | unchecked =>
    refine isAccounted_of_not_raises ?_
    simp [Event.Raises, Action.result]
  | refused cause start =>
    intro event hmem fault hraises
    rcases List.mem_cons.1 hmem with rfl | hmem
    · -- The message of the failure is the end of the line that is logged next.
      obtain rfl := Except.error.inj hraises
      exact .inr (.inr ⟨_, ⟨start, "", String.append_empty.symm⟩, .inl (by simp)⟩)
    · obtain rfl := List.mem_singleton.1 hmem
      cases hraises
  | @checked reply link answer =>
    intro event hmem fault hraises
    rcases List.mem_cons.1 hmem with rfl | hmem
    · cases hraises
    · obtain rfl := List.mem_singleton.1 hmem
      cases hweb : fault.isWebFault with
      | true => exact .inr (.inl (.inr ⟨link, _, rfl, hweb⟩))
      | false => exact .inl ⟨hraises, hweb⟩

/-- The images of all topics fail with what escapes from the check of one. -/
theorem IllustrationCourse.failsByEscape {topics : List Fields}
    {outcome : Except Fault (List Fields)}
    (h : IllustrationCourse options access topics events outcome) :
    FailsByEscape events outcome := by
  induction h with
  | done illustrated => exact failsByEscape_ok (by simp) illustrated
  | @failed topic rest first fault line hfirst =>
    refine hfirst.failsByEscape.congr (fun fault => by simp) fun event fault hescapes => ?_
    rw [List.mem_cons, or_iff_right]
    rintro rfl
    exact not_escapes_log line fault hescapes
  | @next topic rest first later url outcome outcome' line hfirst _ houtcome ih =>
    refine ih.congr houtcome fun event fault hescapes => ?_
    -- The image of the first topic was looked up without a failure that escapes.
    rw [List.mem_cons, List.mem_append, or_iff_right, or_iff_right]
    · exact fun hmem => hfirst.failsByEscape.not_escapes event hmem fault hescapes
    · rintro rfl
      exact not_escapes_log line fault hescapes

theorem isAccounted_log (reason : Option String) (line : String) :
    IsAccounted reason [⟨.log line, ()⟩] :=
  isAccounted_of_not_raises fun event hmem fault hraises => by
    obtain rfl := List.mem_singleton.1 hmem
    cases hraises

/-- Failures are accounted for in the lookups of all images. -/
theorem IllustrationCourse.isAccounted {topics : List Fields}
    {outcome : Except Fault (List Fields)} {reason : Option String}
    (h : IllustrationCourse options access topics events outcome) :
    IsAccounted reason events := by
  induction h with
  | done => exact isAccounted_of_not_raises (by simp)
  | failed line hfirst => exact (isAccounted_log reason line).append hfirst.isAccounted
  | next line hfirst _ _ ih =>
    exact (isAccounted_log reason line).append (hfirst.isAccounted.append ih)

/-- Where images are not looked up nothing escapes either. -/
theorem failsByEscape_of_illustrate {topics : List Fields} {outcome : Except Fault (List Fields)}
    (h : (illustrate env options topics).Course events outcome) : FailsByEscape events outcome := by
  rcases illustrate_cases h with ⟨rfl, rfl⟩ | ⟨-, -, hcourse⟩
  · exact failsByEscape_ok (by simp) topics
  · exact hcourse.failsByEscape

theorem isAccounted_of_illustrate {topics : List Fields} {outcome : Except Fault (List Fields)}
    {reason : Option String} (h : (illustrate env options topics).Course events outcome) :
    IsAccounted reason events := by
  rcases illustrate_cases h with ⟨rfl, -⟩ | ⟨-, -, hcourse⟩
  · exact isAccounted_of_not_raises (by simp)
  · exact hcourse.isAccounted

end Images

/-! ## The presentation -/

/-- What fails in the authorization is that a file is missing, or it escapes. -/
theorem escapes_iff_of_authorization {event : Event} {fault : Fault}
    (h : Within [.authorization] event.action) (hraises : event.Raises fault) :
    Escapes event fault ↔ fault.kind ≠ .fileNotFound := by
  obtain ⟨action, answer⟩ := event
  cases action with
  | call request =>
    cases request with
    | webHead => cases List.mem_singleton.1 h
    | _ =>
      have hparty : Call.party _ = .authorization := List.mem_singleton.1 h
      exact ⟨fun hescapes => hescapes.2.2, fun hkind => ⟨hraises, hparty, hkind⟩⟩
  | hasFile | makeFolder | openFile | serialize | writeFile =>
    exact ⟨fun hescapes => hescapes.2, fun hkind => ⟨hraises, hkind⟩⟩
  | print => exact h.elim
  | _ => cases hraises

/-- Nothing escapes from an authorization that succeeds. -/
theorem not_escapes_of_authorize {clients : Slides.Clients}
    (h : (authorize env).Course events (.ok clients)) :
    ∀ event ∈ events, ∀ fault, ¬ Escapes event fault :=
  fun event hmem fault hescapes =>
    (failsBy_authorize env).not_raises_of_ok h event hmem fault hescapes.1

theorem not_escapes_singleton_log (line : String) :
    ∀ event ∈ [(⟨.log line, ()⟩ : Event)], ∀ fault, ¬ Escapes event fault :=
  fun _ hmem fault => List.mem_singleton.1 hmem ▸ not_escapes_log line fault

/-- Nothing escapes from the writing of topics. -/
theorem not_escapes_of_writeTopics {clients : Slides.Clients} {topics : Json}
    {outcome : Except Fault Unit}
    (h : (Slides.writeTopics clients options.spreadsheet options.presentation topics).Course
      events outcome) : ∀ event ∈ events, ∀ fault, ¬ Escapes event fault :=
  not_escapes_of_within (by simp) (by simp) (within_of_writeTopics h)

/-- The second stage fails with what escapes from it: failures of the authorization and of checks.
-/
theorem DeckCourse.failsByEscape {topics : List Fields} {outcome : Except Fault Unit}
    (h : DeckCourse env options topics events outcome) : FailsByEscape events outcome := by
  have hlog : ∀ line, FailsByEscape [⟨.log line, ()⟩] (.ok () : Except Fault Unit) := fun line =>
    failsByEscape_ok (not_escapes_singleton_log line) ()
  cases h with
  | @skipped first fault hauthorize hkind =>
    -- All that failed is the missing file, and that is recovered from.
    refine (hlog _).append_left fun event hmem cause hescapes => ?_
    obtain rfl := (failsBy_authorize env).eq_of_raises hauthorize event hmem cause hescapes.1
    have hwithin := within_of_authorize hauthorize event hmem
    exact (escapes_iff_of_authorization hwithin hescapes.1).1 hescapes hkind
  | @unauthorized _ fault hauthorize hkind =>
    intro cause
    constructor
    · intro heq
      obtain rfl := Except.error.inj heq
      rcases (failsBy_authorize env).caused hauthorize with hmissing | ⟨event, hmem, hraises⟩
      · exact absurd hmissing hkind
      · have hwithin := within_of_authorize hauthorize event hmem
        exact ⟨event, hmem, (escapes_iff_of_authorization hwithin hraises).2 hkind⟩
    · rintro ⟨event, hmem, hescapes⟩
      have hfault := (failsBy_authorize env).error_of_raises hauthorize hmem hescapes.1
      exact congrArg _ (Except.error.inj hfault)
  | noSheet hauthorize _ => exact (hlog _).append_left (not_escapes_of_authorize hauthorize)
  | noImage hauthorize _ himages =>
    have hillustrate := failsByEscape_of_illustrate himages
    refine FailsByEscape.append_left (not_escapes_of_authorize hauthorize) ?_
    exact hillustrate.congr (by simp) fun _ _ _ => Iff.rfl
  | written hauthorize _ himages hwrite =>
    refine FailsByEscape.append_left (not_escapes_of_authorize hauthorize) ?_
    refine FailsByEscape.append_left (failsByEscape_of_illustrate himages).not_escapes ?_
    exact failsByEscape_ok (not_escapes_of_writeTopics hwrite) ()
  | unwritten hauthorize _ himages hwrite =>
    refine FailsByEscape.append_left (not_escapes_of_authorize hauthorize) ?_
    refine FailsByEscape.append_left (failsByEscape_of_illustrate himages).not_escapes ?_
    exact (hlog _).append_left (not_escapes_of_writeTopics hwrite)

/-- The report on a failure holds the message of its cause. -/
theorem tells_of_isReport {stage : Slides.Stage} {cause fault : Fault}
    (h : stage.IsReport cause fault) : Tells fault.message cause := by
  rw [Slides.Stage.IsReport] at h
  split at h
  · next name _ => exact ⟨name ++ ": ", "", by rw [h.2, String.append_empty]⟩
  · exact ⟨"", "", by rw [h, String.append_empty, String.empty_append]⟩

/-- Whatever fails while topics are written is told in the message of the fault that ends it. -/
theorem tells_of_writeTopics {clients : Slides.Clients} {topics : List Json}
    {outcome : Except Fault Unit} {before : List Event}
    (hauthorize : (authorize env).Course before (.ok clients))
    (h : (Slides.writeTopics clients options.spreadsheet options.presentation
      (.arr topics)).Course events outcome) :
    ∀ event ∈ events, ∀ cause, event.Raises cause →
      ∃ fault, outcome = .error fault ∧ Tells fault.message cause := by
  intro event hmem cause hraises
  have hwithin := within_of_writeTopics h event hmem
  -- Nothing but a call can fail here.
  have hcause : event.cause? = some cause := by
    obtain ⟨request, rfl, -⟩ := eq_call_of_raises hwithin (by simp) hraises
    rfl
  obtain ⟨credentials, rfl, -⟩ := built_of_authorize hauthorize
  obtain ⟨earlier, later, rfl⟩ := List.append_of_mem hmem
  have hplace : earlier ++ [event] <+: earlier ++ event :: later := ⟨later, by simp⟩
  obtain ⟨_, houtcome, cause', stage, hcause', -, rfl⟩ :=
    Slides.endsBy_writeTopics rfl rfl _ _ _ h hplace ⟨cause, hcause⟩
  obtain rfl := Option.some.inj (hcause'.symm.trans hcause)
  exact ⟨_, houtcome, tells_of_isReport (stage.isReport_fault cause')⟩

/-- Nothing has failed in an authorization that is done. -/
theorem isAccounted_of_authorize {clients : Slides.Clients} {reason : Option String}
    (h : (authorize env).Course events (.ok clients)) : IsAccounted reason events :=
  isAccounted_of_not_raises ((failsBy_authorize env).not_raises_of_ok h)

/-- Failures of the second stage are accounted for. -/
theorem DeckCourse.isAccounted {topics : List Fields} {outcome : Except Fault Unit}
    {reason : Option String} (h : DeckCourse env options topics events outcome) :
    IsAccounted reason events := by
  cases h with
  | @skipped first fault hauthorize hkind =>
    refine isAccounted_append_log fun event hmem cause hraises => .inr (.inr ?_)
    obtain rfl := (failsBy_authorize env).eq_of_raises hauthorize event hmem cause hraises
    exact ⟨"⚠️ ", "; skipping Slides editing", rfl⟩
  | @unauthorized _ fault hauthorize hkind =>
    intro event hmem cause hraises
    obtain rfl := (failsBy_authorize env).eq_of_raises hauthorize event hmem cause hraises
    have hwithin := within_of_authorize hauthorize event hmem
    exact .inl ((escapes_iff_of_authorization hwithin hraises).2 hkind)
  | noSheet hauthorize _ =>
    exact (isAccounted_of_authorize hauthorize).append (isAccounted_log reason _)
  | noImage hauthorize _ himages =>
    exact (isAccounted_of_authorize hauthorize).append (isAccounted_of_illustrate himages)
  | written hauthorize _ himages hwrite =>
    refine (isAccounted_of_authorize hauthorize).append
      ((isAccounted_of_illustrate himages).append ?_)
    -- A failure would have ended the writing.
    refine isAccounted_of_not_raises fun event hmem cause hraises => ?_
    obtain ⟨fault, heq, -⟩ :=
      tells_of_writeTopics hauthorize hwrite event hmem cause hraises
    cases heq
  | unwritten hauthorize _ himages hwrite =>
    refine (isAccounted_of_authorize hauthorize).append
      ((isAccounted_of_illustrate himages).append ?_)
    refine isAccounted_append_log fun event hmem cause hraises => .inr (.inr ?_)
    obtain ⟨fault, heq, start, rest, hline⟩ :=
      tells_of_writeTopics hauthorize hwrite event hmem cause hraises
    obtain rfl := Except.error.inj heq
    exact ⟨"❌ Writing topics to presentation failed: " ++ start, rest, by
      rw [hline]; simp only [String.append_assoc]⟩

/-! ## The questions to models -/

/-- The failure of a model that is asked again is passed over, and any other one is the outcome. -/
theorem passedOver_of_askPatiently {prompt : String} {model : Json}
    {outcome : Except Fault Model.Reply}
    (h : (Guard.askPatiently env prompt model).Course events outcome) :
    ∀ event ∈ events, ∀ cause, event.Raises cause →
      IsPassedOver event cause ∨ outcome = .error cause := by
  have hgenerate := Model.failsBy_generate env prompt model
  intro event hmem cause hraises
  rcases trace_recover.1 h with
    ⟨reply, hreply, -⟩ | ⟨fault, first, second, rfl, hfirst, hagain⟩
  · exact absurd hraises (hgenerate.not_raises_of_ok hreply event hmem cause)
  -- The failure of the first try is passed over if there is a second one, whose failure counts.
  rcases List.mem_append.1 hmem with hmem | hmem
  · obtain rfl := hgenerate.eq_of_raises hfirst event hmem cause hraises
    have hwithin := (Model.keepsTo_generate env prompt model).forall_mem_course hfirst event hmem
    split at hagain
    · next hlimit =>
      obtain ⟨request, rfl, hparty⟩ := eq_call_of_raises hwithin (by simp) hraises
      exact .inl (.inl ⟨congrArg some (List.mem_singleton.1 hparty), hlimit⟩)
    · exact .inr hagain.2
  · split at hagain
    · exact .inr (((failsBy_take _).bind fun _ => hgenerate).error_of_raises hagain hmem hraises)
    · obtain ⟨rfl, -⟩ := hagain
      cases hmem

/-- The failure of a verdict is passed over or is the outcome. -/
theorem passedOver_of_isRejected {inputs : Guard.Inputs} {model : Json}
    {outcome : Except Fault Bool} (h : (Guard.isRejected env inputs model).Course events outcome) :
    ∀ event ∈ events, ∀ cause, event.Raises cause →
      IsPassedOver event cause ∨ outcome = .error cause := by
  intro event hmem cause hraises
  obtain ⟨result, hask, rfl⟩ := trace_bind_ofExcept.1 h
  refine (passedOver_of_askPatiently hask event hmem cause hraises).imp_right fun heq => ?_
  rw [heq]
  rfl

/-- The user is told of a verdict that cannot be had. -/
theorem isAccounted_of_screen {inputs : Guard.Inputs} {outcome : Except Fault Bool}
    {reason : Option String} (h : (screen env options inputs).Course events outcome) :
    IsAccounted reason events := by
  rcases trace_recover.1 h with
    ⟨rejected, hverdict, -⟩ | ⟨fault, first, second, rfl, hverdict, hlog⟩
  · intro event hmem cause hraises
    rcases passedOver_of_isRejected hverdict event hmem cause hraises with hpassed | heq
    · exact .inr (.inl hpassed)
    · cases heq
  · obtain ⟨rest, rfl, rfl, -⟩ := course_log_bind.1 hlog
    refine isAccounted_append_log fun event hmem cause hraises => ?_
    rcases passedOver_of_isRejected hverdict event hmem cause hraises with hpassed | heq
    · exact .inr (.inl hpassed)
    · obtain rfl := Except.error.inj heq
      exact .inr (.inr ⟨"⚠️ warning: classifier error: ", "", String.append_empty.symm⟩)

/-- Whatever fails while topics are asked for is told in the reason for giving up. -/
theorem ProposalCourse.isAccounted {outcome : Except Fault Topics.Report} {reason : Option String}
    (h : ProposalCourse env options events outcome)
    (hreason : ∀ fault, outcome = .error fault → ∃ line, reason = some line ∧ Tells line fault) :
    IsAccounted reason events := by
  obtain ⟨line, -, -, hscreen, hpropose⟩ := h
  refine (isAccounted_of_screen hscreen).append ((isAccounted_log reason line).append ?_)
  intro event hmem cause hraises
  obtain ⟨line, hline, htells⟩ :=
    hreason cause ((Topics.failsBy_propose _ _ _ _).error_of_raises hpropose hmem hraises)
  exact .inr (.inr ⟨line, htells, .inr hline⟩)

/-! ## Runs -/

/-- The number of topics is empty, and the run comes to look at it. -/
def HasEmptyNumber (env : Environment) (arguments : List String) : Prop :=
  ∃ options, readArguments env arguments = .ok (.plan options) ∧ options.subject ≠ "" ∧
    options.maxTopics = none

/-- How a run ends that does not fail. -/
inductive EndsWell (env : Environment) (arguments : List String) :
    List Event → Outcome → Prop
  | misused (misuse : Misuse) : readArguments env arguments = .error misuse →
      EndsWell env arguments [] (.misused misuse)
  | helped : readArguments env arguments = .ok .help → EndsWell env arguments [] .helped
  /-- The run is given up before anything is printed. -/
  | stopped {events : List Event} (reason : String) : printedIn events = [] →
      EndsWell env arguments events (.stopped ("❌ " ++ reason))
  | finished {events : List Event} (report : Topics.Report) :
      printedIn events = [report.toJson.indented] → EndsWell env arguments events .finished

/-- What becomes of the failures in a run. -/
structure IsSettled (env : Environment) (arguments : List String) (events : List Event)
    (outcome : Except Fault Outcome) : Prop where
  /-- The run fails on the empty number of topics and with the failures that escape only. -/
  failed : ∀ fault, outcome = .error fault ↔
    (HasEmptyNumber env arguments ∧ fault = .notComparable .arr "<=") ∨
      ∃ event ∈ events, Escapes event fault
  ended : ∀ result, outcome = .ok result → EndsWell env arguments events result
  /-- Failures are told to the user. -/
  told : ∀ event ∈ events, ∀ fault, event.Raises fault →
    Escapes event fault ∨ IsPassedOver event fault ∨
      ∃ line, Tells line fault ∧ (⟨.log line, ()⟩ ∈ events ∨ outcome = .ok (.stopped line))

/-- Nothing escapes from questions to models. -/
theorem IsAsking.not_escapes (h : IsAsking events) :
    ∀ event ∈ events, ∀ fault, ¬ Escapes event fault :=
  not_escapes_of_within (by simp) (by simp) h

/-- A run fails with what escapes from it, unless the number of topics is empty. -/
theorem RunCourse.failsByEscape {outcome : Except Fault Outcome}
    (h : RunCourse env options events outcome)
    (hnumber : options.maxTopics = none → options.subject = "") : FailsByEscape events outcome := by
  have hprinting : ∀ (report : Topics.Report) (fault : Fault), ¬ Escapes (printing report) fault :=
    fun _ _ hescapes => nomatch hescapes.1
  cases h with
  | emptyNumber hsubject hnone => exact absurd (hnumber hnone) hsubject
  | refused => exact failsByEscape_ok (by simp) _
  | rejected reason _ _ hscreen => exact failsByEscape_ok (isAsking_of_screen hscreen).not_escapes _
  | unproposed hproposal => exact failsByEscape_ok hproposal.isAsking.not_escapes _
  | @unprinted first report fault hproposal =>
    -- A refused result is not guarded: it is what the run fails with.
    refine FailsByEscape.append_left hproposal.isAsking.not_escapes fun cause => ?_
    simp [Escapes, Event.Raises, Action.result, Unguarded]
  | @printed first report hproposal =>
    exact FailsByEscape.append_left hproposal.isAsking.not_escapes
      (failsByEscape_ok (by simp [hprinting]) _)
  | @written first last report result hproposal _ hdeck =>
    refine FailsByEscape.append_left hproposal.isAsking.not_escapes ?_
    refine (deckCourse_of_course hdeck).failsByEscape.congr (fun fault => ?_)
      fun event fault hescapes => ?_
    · cases result <;> simp [Except.map]
    · -- Nothing escapes from a result that was printed.
      rw [List.mem_cons, or_iff_right]
      rintro rfl
      exact hprinting report fault hescapes

/-- The reason for which a run is given up. -/
def reason? : Except Fault Outcome → Option String
  | .ok (.stopped reason) => some reason
  | _ => none

/-- Failures are accounted for in the lines of a run and in the reason for giving it up. -/
theorem RunCourse.isAccounted {outcome : Except Fault Outcome}
    (h : RunCourse env options events outcome) : IsAccounted (reason? outcome) events := by
  have hprinting : ∀ reason report, IsAccounted reason [printing report] := fun reason report =>
    isAccounted_of_not_raises (by simp [printing, Event.Raises, Action.result])
  cases h with
  | emptyNumber | refused => exact isAccounted_of_not_raises (by simp)
  | rejected reason _ _ hscreen => exact isAccounted_of_screen hscreen
  | @unproposed _ fault hproposal =>
    refine hproposal.isAccounted fun cause heq => ⟨_, rfl, "❌ Topic generation failed: ", "", ?_⟩
    rw [Except.error.inj heq, String.append_empty, ← String.append_assoc]
    rfl
  | unprinted fault hproposal =>
    refine (hproposal.isAccounted (by simp)).append fun event hmem cause hraises => .inl ?_
    obtain rfl := List.mem_singleton.1 hmem
    exact ⟨hraises, trivial⟩
  | printed hproposal =>
    exact (hproposal.isAccounted (by simp)).append (hprinting _ _)
  | written hproposal _ hdeck =>
    exact (hproposal.isAccounted (by simp)).append
      ((hprinting _ _).append (deckCourse_of_course hdeck).isAccounted)

/-- A run that does not fail is given up before anything is printed, or prints its topics. -/
theorem RunCourse.endsWell {arguments : List String} {result : Outcome}
    (h : RunCourse env options events (.ok result)) : EndsWell env arguments events result := by
  generalize houtcome : (Except.ok result : Except Fault Outcome) = outcome at h
  cases h with
  | emptyNumber | unprinted => cases houtcome
  | refused reason =>
    cases houtcome
    exact .stopped reason rfl
  | rejected reason _ _ hscreen =>
    cases houtcome
    exact .stopped reason (printedIn_eq_nil (isAsking_of_screen hscreen))
  | unproposed hproposal =>
    cases houtcome
    exact .stopped _ (printedIn_eq_nil hproposal.isAsking)
  | @printed first report hproposal =>
    cases houtcome
    exact .finished report (hproposal.printedIn_eq report rfl)
  | @written first last report result hproposal _ hdeck =>
    cases result with
    | error => cases houtcome
    | ok =>
      cases houtcome
      exact .finished report (hproposal.printedIn_eq report (printedIn_of_writeDeck hdeck))

/-- Topics are asked for only after the number of topics was looked at. -/
theorem ProposalCourse.maxTopics_ne_none {outcome : Except Fault Topics.Report}
    (h : ProposalCourse env options events outcome) : options.maxTopics ≠ none := by
  obtain ⟨line, -, hcount, -, -⟩ := h
  simp [hcount]

/-- The run fails at once where the number of topics is empty. -/
theorem RunCourse.eq_of_emptyNumber {outcome : Except Fault Outcome}
    (h : RunCourse env options events outcome) (hsubject : options.subject ≠ "")
    (hnone : options.maxTopics = none) :
    events = [] ∧ outcome = .error (.notComparable .arr "<=") := by
  cases h with
  | emptyNumber => exact ⟨rfl, rfl⟩
  | refused reason hempty => exact absurd (hempty hnone) hsubject
  | rejected reason _ hcount => simp [hnone] at hcount
  | unproposed hproposal => exact absurd hnone hproposal.maxTopics_ne_none
  | unprinted fault hproposal => exact absurd hnone hproposal.maxTopics_ne_none
  | printed hproposal => exact absurd hnone hproposal.maxTopics_ne_none
  | written hproposal => exact absurd hnone hproposal.maxTopics_ne_none

/-- A run that only looks at its arguments fails in no way. -/
theorem isSettled_of_idle {arguments : List String} {result : Outcome}
    (hread : ∀ options, readArguments env arguments ≠ .ok (.plan options))
    (hend : EndsWell env arguments [] result) : IsSettled env arguments [] (.ok result) where
  failed fault := by
    simp only [reduceCtorEq, List.not_mem_nil, false_and, exists_false, or_false, false_iff]
    rintro ⟨⟨options, hplan, -⟩, -⟩
    exact hread options hplan
  ended _ heq := Except.ok.inj heq ▸ hend
  told _ hmem := nomatch hmem

/-- All failures are settled in each course of a run. -/
theorem RunCourse.isSettled {arguments : List String} {outcome : Except Fault Outcome}
    (hread : readArguments env arguments = .ok (.plan options))
    (h : RunCourse env options events outcome) : IsSettled env arguments events outcome where
  failed fault := by
    have hnumber : HasEmptyNumber env arguments ↔
        options.subject ≠ "" ∧ options.maxTopics = none := by
      simp [HasEmptyNumber, hread]
    -- On the empty number the run fails before anything happens, so nothing escapes from it.
    by_cases hempty : HasEmptyNumber env arguments
    · obtain ⟨hsubject, hnone⟩ := hnumber.1 hempty
      obtain ⟨rfl, rfl⟩ := h.eq_of_emptyNumber hsubject hnone
      simp [hempty, eq_comm]
    · rw [h.failsByEscape (by_contra fun hnot => hempty (hnumber.2 (by tauto)))]
      simp [hempty]
  ended result heq := (heq ▸ h).endsWell
  told event hmem fault hraises := by
    rcases h.isAccounted event hmem fault hraises with hescapes | hpassed | ⟨line, htells, hline⟩
    · exact .inl hescapes
    · exact .inr (.inl hpassed)
    · refine .inr (.inr ⟨line, htells, hline.imp_right fun hreason => ?_⟩)
      unfold reason? at hreason
      split at hreason
      · rw [Option.some.inj hreason]
      · cases hreason

/-- In every run all failures are settled, whatever the outside answers. -/
theorem isSettled_run {σ : Type} (answer : (action : Action) → σ → action.Answer × σ) (state : σ)
    (env : Environment) (arguments : List String) :
    IsSettled env arguments ((run env arguments).events answer state)
      ((run env arguments).run answer state).1 := by
  have hcourse := course_events answer (run env arguments) state
  cases hread : readArguments env arguments with
  | error misuse =>
    have hrun : run env arguments = .done (.misused misuse) := by rw [run, hread]; rfl
    rw [hrun]
    exact isSettled_of_idle (by simp [hread]) (.misused misuse hread)
  | ok reading =>
    cases reading with
    | help =>
      have hrun : run env arguments = .done .helped := by rw [run, hread]; rfl
      rw [hrun]
      exact isSettled_of_idle (by simp [hread]) (.helped hread)
    | plan options => exact (runCourse_of_course hread hcourse).isSettled hread

/-- An outside where all goes well, but for the check of the image that is found: it fails, and not
with a failure of the web. -/
def failCheck : (action : Action) → Bool → action.Answer × Bool
  | .hasFile _, again => (.ok true, again)
  | action, again =>
    answerCalls (fun
      | .gemini .., again | .openai .., again =>
        (.ok { text := some (if again then "[\x7b\"topic\": \"Cars\"\x7d]" else "FALSE") }, true)
      | .webGet .., again =>
        (.ok { body := "\x7b\"items\": [\x7b\"link\": \"https://a.b/c.png\"\x7d]\x7d" }, again)
      | .webHead .., again => (.error (.reported .runtime "out of memory"), again)
      | .loadLogin .., again => (.ok { credentials := ⟨"login"⟩, valid := true }, again)
      | request, again => (request.quietReply, again)) action again

/-- A run may fail, though no part of it but the search for an image does. -/
theorem not_exists_result_of_failedCheck :
    ¬ ∀ (answer : (action : Action) → Bool → action.Answer × Bool) state env arguments,
      ∃ result, ((run env arguments).run answer state).1 = .ok result := by
  intro h
  obtain ⟨result, hresult⟩ := h failCheck false { geminiApiKey := some "key" }
    ["--subject", "Cars", "--presentation-id", "deck", "--sheet-id", "book", "--cse-key", "key",
      "--cse-cx", "engine"]
  have hfails : ((run { geminiApiKey := some "key" } ["--subject", "Cars", "--presentation-id",
      "deck", "--sheet-id", "book", "--cse-key", "key", "--cse-cx", "engine"]).run failCheck
        false).1.isOk = false := by
    decide +kernel
  rw [hresult] at hfails
  cases hfails

end CommandLine

end DeckPlan
