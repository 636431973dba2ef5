import DeckPlan.Proofs.Outside.Login

/-!
# What an authorization does to the saved login

A login is saved between being gained and being used. `BuildCourse` lists what can happen once there
are credentials or none. With the courses on which credentials are got, it follows what becomes of
the files (`IsGuarded`), whatever fails on the way: they change only for a login that was prolonged
or made, and that is the one that the clients are built with.
-/

namespace DeckPlan

open Program

variable {env : Environment} {events : List Event}

/-- The authorization fails by what fails in it, or because a file is missing. -/
theorem failsBy_authorize (env : Environment) :
    (authorize env).FailsBy fun fault => fault.kind = .fileNotFound :=
  (failsBy_getCredentials env).bind fun _ => (failsBy_take _).bind fun _ =>
    (failsBy_take _).bind fun _ => failsBy_done _

/-! ## With the credentials -/

/-- The courses on which the clients are built with the credentials, if there are any. -/
inductive BuildCourse :
    Except Fault Credentials → List Event → Except Fault Slides.Clients → Prop
  | unauthorized (fault : Fault) : BuildCourse (.error fault) [] (.error fault)
  | noSlides (credentials : Credentials) (fault : Fault) :
      BuildCourse (.ok credentials) [⟨.call (.buildClient "slides" "v1" credentials), .error fault⟩]
        (.error fault)
  | built (credentials : Credentials) (answer : Except Fault Unit) :
      BuildCourse (.ok credentials)
        [⟨.call (.buildClient "slides" "v1" credentials), .ok ()⟩,
          ⟨.call (.buildClient "sheets" "v4" credentials), answer⟩]
        (answer.map fun _ => ⟨some credentials, some credentials⟩)

/-- An authorization gets credentials and builds the clients with them. -/
theorem authorize_cases {outcome : Except Fault Slides.Clients}
    (h : (authorize env).Course events outcome) :
    ∃ result first last, events = first ++ last ∧ (getCredentials env).Course first result ∧
      BuildCourse result last outcome := by
  rcases trace_bind.1 h with ⟨fault, hfail, rfl⟩ | ⟨credentials, first, last, rfl, hfirst, hend⟩
  · exact ⟨.error fault, events, [], (List.append_nil _).symm, hfail, .unauthorized fault⟩
  refine ⟨.ok credentials, first, last, rfl, hfirst, ?_⟩
  rcases course_call_bind.1 hend with ⟨fault, rfl, rfl⟩ | ⟨⟨⟩, rest, rfl, hsheets⟩
  · exact .noSlides credentials fault
  rcases course_call_bind.1 hsheets with ⟨fault, rfl, rfl⟩ | ⟨⟨⟩, rest, rfl, rfl, rfl⟩
  · exact .built credentials (.error fault)
  · exact .built credentials (.ok ())

/-- Both clients are built if there are any. -/
theorem BuildCourse.eq_of_ok {result : Except Fault Credentials}
    {outcome : Except Fault Slides.Clients} {clients : Slides.Clients}
    (h : BuildCourse result events outcome) (heq : outcome = .ok clients) : ∃ credentials,
      clients = ⟨some credentials, some credentials⟩ ∧
        events = [⟨.call (.buildClient "slides" "v1" credentials), .ok ()⟩,
          ⟨.call (.buildClient "sheets" "v4" credentials), .ok ()⟩] := by
  cases h with
  | unauthorized | noSlides => cases heq
  | built credentials answer =>
    cases answer with
    | error => cases heq
    | ok => exact ⟨credentials, (Except.ok.inj heq).symm, rfl⟩

/-- All that is done with the credentials is to build clients with them. -/
theorem BuildCourse.isBuilding {result : Except Fault Credentials}
    {outcome : Except Fault Slides.Clients} (h : BuildCourse result events outcome) :
    ∀ event ∈ events, event.changed? = none ∧ event.loaded? = none ∧
      ∃ credentials, event.built? = some credentials ∧ result = .ok credentials := by
  cases h <;> simp [Event.changed?, Event.loaded?, Event.built?]

/-- Nothing comes after a client that cannot be built. -/
theorem BuildCourse.not_raises {result : Except Fault Credentials}
    {outcome : Except Fault Slides.Clients} {earlier : List Event} {event : Event}
    (h : BuildCourse result events outcome) (hplace : earlier ++ [event] <+: events) :
    ∀ step ∈ earlier, ∀ fault, ¬ step.Raises fault := by
  -- Only the client of the slides service is built before another one.
  have hearlier : earlier <+: events.dropLast := by
    obtain ⟨later, rfl⟩ := hplace
    rw [List.append_assoc, List.dropLast_append_of_ne_nil (by simp)]
    exact List.prefix_append _ _
  intro step hmem fault hraises
  cases h with
  | unauthorized => simpa using hearlier.subset hmem
  | noSlides => simpa using hearlier.subset hmem
  | built =>
    obtain rfl : step = _ := by simpa using hearlier.subset hmem
    cases hraises

/-! ## The saving of a login -/

/-- The file in which logins are kept holds the content, and all other files are as before. -/
def Saves (content : String) (before after : FileTree) : Prop :=
  after.content? loginPath = some content ∧
    ∀ path, pathParts path ≠ pathParts loginPath → after.content? path = before.content? path

/-- Whatever is in the file before, it is written over. -/
theorem Saves.write {first : String} {before between : FileTree} (h : Saves first before between)
    (content : String) : Saves content before (between.write loginPath content) :=
  ⟨between.content?_write_self _ _, fun path hother =>
    (between.content?_write_of_ne _ _ hother).trans (h.2 path hother)⟩

/-- The file is empty when it was opened. -/
theorem saves_open (before : FileTree) : Saves "" before (before.write loginPath "") :=
  ⟨before.content?_write_self _ _, fun _ hother => before.content?_write_of_ne _ _ hother⟩

namespace SaveCourse

variable {credentials : Credentials} {outcome : Except Fault Credentials}

/-- No other file than that of the login is changed. -/
theorem changed (h : SaveCourse credentials events outcome) :
    ∀ event ∈ events, ∀ path, event.changed? = some path → path = loginPath := by
  cases h <;> simp [Event.changed?]

/-- To save a login gains none, builds no client and loads nothing. -/
theorem isSaving (h : SaveCourse credentials events outcome) :
    ∀ event ∈ events, event.gained? = none ∧ event.built? = none ∧ event.loaded? = none ∧
      event ≠ ⟨.hasFile clientSecretsPath, .ok false⟩ := by
  cases h <;> simp [Event.gained?, Event.built?, Event.loaded?]

/-- Where the text is not to be had, the file stays empty. -/
theorem saves_of_noText (h : SaveCourse credentials events outcome) {used : Credentials}
    {fault : Fault} (hmem : ⟨.serialize used, .error fault⟩ ∈ events) (before : FileTree) :
    Saves "" before (filesAfter before events) := by
  cases h with
  | noText => exact saves_open before
  | _ => simp at hmem

/-- Where the text cannot be written, the file holds the beginning that was written. -/
theorem saves_of_cut (h : SaveCourse credentials events outcome) {path content : String}
    {fault : WriteFault} (hmem : ⟨.writeFile path content, .error fault⟩ ∈ events)
    (before : FileTree) :
    Saves (fault.beginning content) before (filesAfter before events) ∧
      ⟨.serialize credentials, .ok content⟩ ∈ events := by
  cases h with
  | cut text cause =>
    have heq : (path = loginPath ∧ content = text) ∧ fault = cause := by simpa using hmem
    obtain ⟨⟨-, rfl⟩, rfl⟩ := heq
    exact ⟨(saves_open before).write _, by simp⟩
  | _ => simp at hmem

/-- There are credentials only if they are saved. -/
theorem eq_of_ok (h : SaveCourse credentials events outcome) {used : Credentials}
    (heq : outcome = .ok used) : used = credentials := by
  cases h with
  | saved => exact (Except.ok.inj heq).symm
  | _ => cases heq

/-- A login that is saved is kept as its text. -/
theorem saves_of_ok (h : SaveCourse credentials events outcome) {used : Credentials}
    (heq : outcome = .ok used) (before : FileTree) :
    ∃ content, ⟨.serialize credentials, .ok content⟩ ∈ events ∧
      Saves content before (filesAfter before events) := by
  cases h with
  | saved content => exact ⟨content, by simp, (saves_open before).write content⟩
  | _ => cases heq

/-- Where something fails before the file is open, the files are as before. -/
theorem kept_of_raises (h : SaveCourse credentials events outcome) {event : Event}
    (hmem : event ∈ events) {fault : Fault} (hraises : event.Raises fault)
    (hfilling : ¬ event.IsFilling) (before : FileTree) : filesAfter before events = before := by
  cases h with
  | noFolder | unopened => rfl
  | _ =>
    simp only [List.mem_cons, List.not_mem_nil, or_false] at hmem
    rcases hmem with rfl | rfl | rfl | rfl <;>
      simp_all [Event.Raises, Event.IsFilling, Action.result]

/-- A failure to save a login has failed as a step of it. -/
theorem exists_raises (h : SaveCourse credentials events outcome) {fault : Fault}
    (heq : outcome = .error fault) : ∃ event ∈ events, event.Raises fault := by
  cases h with
  | saved => cases heq
  | cut text cause =>
    cases heq
    exact ⟨⟨.writeFile loginPath text, .error cause⟩, by simp, rfl⟩
  | _ => simpa [Event.Raises, Action.result] using heq

end SaveCourse

/-! ## What becomes of the files until there are credentials -/

/-- A login is gained because none that can be used was found, and nothing was missing for it. -/
structure IsRenewal (env : Environment) (events : List Event) (credentials : Credentials) :
    Prop where
  personal : nonempty? env.credentialsPath = none
  unusable : ∀ event ∈ events, ∀ login, event.loaded? = some login → login.valid = false
  complete : ∀ event ∈ events, event ≠ ⟨.hasFile clientSecretsPath, .ok false⟩
  gained : ∃ gain ∈ events, gain.gained? = some credentials
  unique : ∀ gain ∈ events, ∀ other, gain.gained? = some other → other = credentials

section Gain

variable {earlier last : List Event} {gain : Event} {credentials : Credentials}
  {outcome : Except Fault Credentials}

/-- Only the saving of the login changes files. -/
theorem filesAfter_gain (hsearch : IsSearch earlier) (hgain : gain.gained? = some credentials)
    (before : FileTree) :
    filesAfter before (earlier ++ gain :: last) = filesAfter before last := by
  have hearlier : filesAfter before earlier = before :=
    filesAfter_of_unchanged before fun event hmem => (hsearch.idle event hmem).changed
  rw [filesAfter_append, hearlier, filesAfter_cons,
    Event.applyTo_of_unchanged before (Event.of_gained hgain).1]

/-- Only in the saving of the login a file is filled. -/
theorem mem_of_filling (hsearch : IsSearch earlier) (hgain : gain.gained? = some credentials)
    {event : Event} (hmem : event ∈ earlier ++ gain :: last) (hfilling : event.IsFilling) :
    event ∈ last := by
  rcases List.mem_append.1 hmem with hmem | hmem
  · exact absurd hfilling (hsearch.idle event hmem).filling
  rcases List.mem_cons.1 hmem with rfl | hmem
  · exact absurd hfilling (Event.of_gained hgain).2.1
  · exact hmem

/-- A login that is gained after the search for a saved one renews what is saved. -/
theorem isRenewal_of_gain (henv : nonempty? env.credentialsPath = none)
    (hsearch : IsSearch earlier) (hgain : gain.gained? = some credentials)
    (hsave : SaveCourse credentials last outcome) :
    IsRenewal env (earlier ++ gain :: last) credentials where
  personal := henv
  unusable := by
    refine List.forall_mem_append.2 ⟨hsearch.useless, List.forall_mem_cons.2 ⟨?_, ?_⟩⟩
    · simp [(Event.of_gained hgain).2.2.2.1]
    · exact fun event hmem login hloaded => by simp [(hsave.isSaving event hmem).2.2.1] at hloaded
  complete := by
    refine List.forall_mem_append.2 ⟨hsearch.complete, List.forall_mem_cons.2 ⟨?_, ?_⟩⟩
    · rintro rfl
      cases hgain
    · exact fun event hmem => (hsave.isSaving event hmem).2.2.2
  gained := ⟨gain, by simp, hgain⟩
  unique := by
    -- Neither the search nor the saving gains a login.
    refine List.forall_mem_append.2 ⟨?_, List.forall_mem_cons.2 ⟨?_, ?_⟩⟩
    · exact fun event hmem other hother => by simp [(hsearch.idle event hmem).gained] at hother
    · exact fun other hother => Option.some.inj (hother.symm.trans hgain)
    · exact fun event hmem other hother => by simp [(hsave.isSaving event hmem).1] at hother

end Gain

namespace CredentialCourse

variable {outcome : Except Fault Credentials}

/-- What the credentials rest on has happened. -/
theorem comesFrom {credentials : Credentials} (h : CredentialCourse env events outcome)
    (heq : outcome = .ok credentials) : ComesFrom env events credentials := by
  cases h with
  | failed => cases heq
  | found _ hfrom => exact Except.ok.inj heq ▸ hfrom
  | gained _ _ hgain hsave =>
    obtain rfl := hsave.eq_of_ok heq
    exact .gained (by simp) hgain

/-- There are credentials unless something failed or a file is missing. -/
theorem isExplained {fault : Fault} (h : CredentialCourse env events outcome)
    (heq : outcome = .error fault) : IsExplained env events fault := by
  cases h with
  | failed _ hexplained => exact Except.error.inj heq ▸ hexplained
  | found => cases heq
  | gained _ _ _ hsave =>
    -- The login was gained, so what failed is that it was saved.
    obtain ⟨event, hmem, hraises⟩ := hsave.exists_raises heq
    exact .inl ⟨event, by simp [hmem], hraises⟩

/-- No client is built before there are credentials. -/
theorem built_eq_none (h : CredentialCourse env events outcome) :
    ∀ event ∈ events, event.built? = none := by
  cases h with
  | failed hidle | found hidle => exact fun event hmem => (hidle event hmem).built
  | gained _ hsearch hgain hsave =>
    refine List.forall_mem_append.2 ⟨fun event hmem => (hsearch.idle event hmem).built, ?_⟩
    exact List.forall_mem_cons.2
      ⟨(Event.of_gained hgain).2.2.1, fun event hmem => (hsave.isSaving event hmem).2.1⟩

/-- A file is changed only after a login was gained. -/
theorem changed {earlier : List Event} {event : Event} {path : String}
    (h : CredentialCourse env events outcome) (hplace : earlier ++ [event] <+: events)
    (hevent : event.changed? = some path) :
    path = loginPath ∧ ∃ gain ∈ earlier, gain.gained? ≠ none := by
  cases h with
  | failed hidle | found hidle =>
    have hmem : event ∈ events := hplace.subset (by simp)
    simp [(hidle event hmem).changed] at hevent
  | @gained search last gain credentials _ _ hsearch hgain hsave =>
    -- What changes a file is neither in the search nor the gain, so it comes after the gain.
    rcases prefix_append_cases hplace with hfirst | ⟨later, rfl, hlast⟩
    · have hmem : event ∈ search := hfirst.subset (by simp)
      simp [(hsearch.idle event hmem).changed] at hevent
    cases later with
    | nil =>
      obtain ⟨rfl, -⟩ := List.cons_prefix_cons.1 hlast
      simp [(Event.of_gained hgain).1] at hevent
    | cons head later =>
      obtain ⟨rfl, hsaving⟩ := List.cons_prefix_cons.1 hlast
      have hmem : event ∈ last := hsaving.subset (by simp)
      exact ⟨hsave.changed event hmem path hevent, head, by simp, by simp [hgain]⟩

/-- Files are as before, or a login was gained. -/
theorem kept_or_renewal (h : CredentialCourse env events outcome) (before : FileTree) :
    filesAfter before events = before ∨ ∃ credentials, IsRenewal env events credentials := by
  cases h with
  | failed hidle | found hidle =>
    exact .inl (filesAfter_of_unchanged before fun event hmem => (hidle event hmem).changed)
  | gained henv hsearch hgain hsave => exact .inr ⟨_, isRenewal_of_gain henv hsearch hgain hsave⟩

/-- If there are credentials after a login was gained, they are that login, and it is saved. -/
theorem saves_of_gained {gain : Event} {credentials used : Credentials}
    (h : CredentialCourse env events outcome) (heq : outcome = .ok used) (hmem : gain ∈ events)
    (hgain : gain.gained? = some credentials) (before : FileTree) :
    used = credentials ∧ ∃ content, ⟨.serialize used, .ok content⟩ ∈ events ∧
      Saves content before (filesAfter before events) := by
  cases h with
  | failed => cases heq
  | found hidle => simp [(hidle gain hmem).gained] at hgain
  | gained henv hsearch hgain' hsave =>
    obtain rfl := (isRenewal_of_gain henv hsearch hgain' hsave).unique gain hmem _ hgain
    obtain rfl := hsave.eq_of_ok heq
    obtain ⟨content, htext, hsaves⟩ := hsave.saves_of_ok heq before
    rw [filesAfter_gain hsearch hgain']
    exact ⟨rfl, content, by simp [htext], hsaves⟩

/-- Where the text of a login is not to be had, the file is left empty. -/
theorem saves_of_noText {used : Credentials} {fault : Fault}
    (h : CredentialCourse env events outcome) (hmem : ⟨.serialize used, .error fault⟩ ∈ events)
    (before : FileTree) : Saves "" before (filesAfter before events) := by
  cases h with
  | failed hidle | found hidle => exact absurd trivial (hidle _ hmem).filling
  | gained _ hsearch hgain hsave =>
    rw [filesAfter_gain hsearch hgain]
    exact hsave.saves_of_noText (mem_of_filling hsearch hgain hmem trivial) before

/-- Where the text of a login cannot be written, the file is left with the beginning of it. -/
theorem saves_of_cut {path content : String} {fault : WriteFault}
    (h : CredentialCourse env events outcome)
    (hmem : ⟨.writeFile path content, .error fault⟩ ∈ events) (before : FileTree) :
    Saves (fault.beginning content) before (filesAfter before events) ∧
      ∃ gain ∈ events, ∃ credentials, gain.gained? = some credentials ∧
        ⟨.serialize credentials, .ok content⟩ ∈ events := by
  cases h with
  | failed hidle | found hidle => exact absurd trivial (hidle _ hmem).filling
  | @gained _ _ gain credentials _ _ hsearch hgain hsave =>
    rw [filesAfter_gain hsearch hgain]
    obtain ⟨hsaves, htext⟩ := hsave.saves_of_cut (mem_of_filling hsearch hgain hmem trivial) before
    exact ⟨hsaves, gain, by simp, credentials, hgain, by simp [htext]⟩

/-- Files are as before where anything fails but the filling of a file. -/
theorem kept_of_raises {event : Event} {fault : Fault} (h : CredentialCourse env events outcome)
    (hmem : event ∈ events) (hraises : event.Raises fault) (hfilling : ¬ event.IsFilling)
    (before : FileTree) : filesAfter before events = before := by
  cases h with
  | failed hidle | found hidle =>
    exact filesAfter_of_unchanged before fun event hmem => (hidle event hmem).changed
  | gained _ hsearch hgain hsave =>
    rw [filesAfter_gain hsearch hgain]
    rcases List.mem_append.1 hmem with hmem | hmem
    · exact absurd hraises (hsearch.succeeds event hmem fault)
    rcases List.mem_cons.1 hmem with rfl | hmem
    · exact absurd hraises ((Event.of_gained hgain).2.2.2.2 fault)
    · exact hsave.kept_of_raises hmem hraises hfilling before

end CredentialCourse

/-! ## The whole authorization -/

/-- What an authorization does to the files that are there before, and with which credentials it
builds clients. -/
structure IsGuarded (env : Environment) (before after : FileTree) (events : List Event)
    (outcome : Except Fault Slides.Clients) : Prop where
  /-- A file is changed only after a login was gained, and it is the one that logins are kept in. -/
  changed : ∀ earlier event path, earlier ++ [event] <+: events → event.changed? = some path →
    path = loginPath ∧ ∃ gain ∈ earlier, gain.gained? ≠ none
  /-- If a login is gained, the clients are built with it, and the file holds the text of those very
  credentials. -/
  saved : ∀ gain ∈ events, ∀ credentials, gain.gained? = some credentials →
    ∀ event ∈ events, ∀ used, event.built? = some used →
      used = credentials ∧
        ∃ content, ⟨.serialize used, .ok content⟩ ∈ events ∧ Saves content before after
  /-- If the text is not to be had, the file is left empty. -/
  emptied : ∀ credentials fault, ⟨.serialize credentials, .error fault⟩ ∈ events →
    Saves "" before after
  /-- If the text cannot be written, the file is left with a beginning of the text. -/
  cut : ∀ path content fault, ⟨.writeFile path content, .error fault⟩ ∈ events →
    Saves (fault.beginning content) before after ∧
      ∃ gain ∈ events, ∃ credentials, gain.gained? = some credentials ∧
        ⟨.serialize credentials, .ok content⟩ ∈ events
  /-- If no login is gained, the files are as before. -/
  kept : (∀ event ∈ events, event.gained? = none) → after = before
  serviceAccount : nonempty? env.credentialsPath ≠ none → after = before
  usable : ∀ event ∈ events, ∀ login, event.loaded? = some login → login.valid = true →
    after = before
  missing : ∀ fault, IsMissing env events fault → after = before
  /-- The files are as before if anything fails but the filling of the file that is open, and the
  building of a client. -/
  failed : ∀ event ∈ events, ∀ fault, event.Raises fault → ¬ event.IsFilling →
    event.built? = none → after = before
  /-- Whatever fails is the outcome. -/
  reported : ∀ event ∈ events, ∀ fault, event.Raises fault → outcome = .error fault
  /-- A client is built only if nothing failed before. -/
  careful : ∀ earlier event, earlier ++ [event] <+: events → event.built? ≠ none →
    ∀ step ∈ earlier, ∀ fault, ¬ step.Raises fault
  /-- All clients are built with the same credentials. -/
  same : ∀ event ∈ events, ∀ other ∈ events, ∀ credentials used,
    event.built? = some credentials → other.built? = some used → credentials = used
  /-- What the credentials rest on has happened. -/
  sourced : ∀ event ∈ events, ∀ credentials, event.built? = some credentials →
    ComesFrom env events credentials
  /-- There are clients unless something failed or a file is missing. -/
  explained : ∀ fault, outcome = .error fault → IsExplained env events fault
  /-- If there are clients, both were built. -/
  built : ∀ clients, outcome = .ok clients → ∃ credentials,
    clients = ⟨some credentials, some credentials⟩ ∧
      events.filterMap Event.built? = [credentials, credentials]

section Assembly

variable {first last : List Event} {result : Except Fault Credentials}
  {outcome : Except Fault Slides.Clients}

/-- An event that is not the building of a client happens before there are credentials. -/
theorem mem_of_not_built (hlast : BuildCourse result last outcome) {event : Event}
    (hmem : event ∈ first ++ last) (hbuilt : event.built? = none) : event ∈ first := by
  refine (List.mem_append.1 hmem).resolve_right fun hmem => ?_
  obtain ⟨-, -, credentials, hused, -⟩ := hlast.isBuilding event hmem
  simp [hused] at hbuilt

/-- Whatever is to be built is built with the credentials that there are. -/
theorem eq_of_built (hfirst : CredentialCourse env first result)
    (hlast : BuildCourse result last outcome) : ∀ event ∈ first ++ last, ∀ used,
      event.built? = some used → result = .ok used := by
  intro event hmem used hevent
  rcases List.mem_append.1 hmem with hmem | hmem
  · simp [hfirst.built_eq_none event hmem] at hevent
  · obtain ⟨-, -, credentials, hused, rfl⟩ := hlast.isBuilding event hmem
    exact congrArg _ (Option.some.inj (hused.symm.trans hevent))

/-- No file is changed while clients are built. -/
theorem filesAfter_append_builds (hlast : BuildCourse result last outcome) (before : FileTree) :
    filesAfter before (first ++ last) = filesAfter before first := by
  rw [filesAfter_append, filesAfter_of_unchanged]
  exact fun event hmem => (hlast.isBuilding event hmem).1

/-- The fault of a client that cannot be built is explained, and so is that of credentials that are
not to be had. -/
theorem BuildCourse.isExplained {fault : Fault} (hfirst : CredentialCourse env first result)
    (h : BuildCourse result last outcome) (heq : outcome = .error fault) :
    IsExplained env (first ++ last) fault := by
  cases h with
  | unauthorized =>
    obtain rfl := Except.error.inj heq
    exact (hfirst.isExplained rfl).mono (List.subset_append_left _ _)
  | noSlides credentials =>
    obtain rfl := Except.error.inj heq
    exact isExplained_of_call (.buildClient "slides" "v1" credentials) (by simp)
  | built credentials answer =>
    cases answer with
    | error cause =>
      obtain rfl : cause = fault := Except.error.inj heq
      exact isExplained_of_call (.buildClient "sheets" "v4" credentials) (by simp)
    | ok => cases heq

/-- A client is built only after credentials were got without a failure. -/
theorem not_raises_before_built (hcourse : (getCredentials env).Course first result)
    (hlast : BuildCourse result last outcome) {earlier : List Event} {event : Event}
    (hplace : earlier ++ [event] <+: first ++ last) (hbuilt : event.built? ≠ none) :
    ∀ step ∈ earlier, ∀ fault, ¬ step.Raises fault := by
  rcases prefix_append_cases hplace with hinside | ⟨later, rfl, hlater⟩
  · have hmem : event ∈ first := hinside.subset (by simp)
    exact absurd ((credentialCourse_of_course hcourse).built_eq_none event hmem) hbuilt
  · obtain ⟨-, -, credentials, -, rfl⟩ := hlast.isBuilding event (hlater.subset (by simp))
    refine List.forall_mem_append.2 ⟨?_, hlast.not_raises hlater⟩
    exact (failsBy_getCredentials env).not_raises_of_ok hcourse

/-- There are clients only if both were built. -/
theorem filterMap_built (hfirst : CredentialCourse env first result)
    (hlast : BuildCourse result last outcome) {clients : Slides.Clients}
    (heq : outcome = .ok clients) : ∃ credentials,
      clients = ⟨some credentials, some credentials⟩ ∧
        (first ++ last).filterMap Event.built? = [credentials, credentials] := by
  obtain ⟨credentials, rfl, rfl⟩ := hlast.eq_of_ok heq
  refine ⟨credentials, rfl, ?_⟩
  rw [List.filterMap_append, List.filterMap_eq_nil_iff.2 hfirst.built_eq_none]
  rfl

end Assembly

/-- On every course the saved login is guarded. -/
theorem isGuarded_of_course {outcome : Except Fault Slides.Clients}
    (h : (authorize env).Course events outcome) (before : FileTree) :
    IsGuarded env before (filesAfter before events) events outcome := by
  obtain ⟨result, first, last, rfl, hcourse, hlast⟩ := authorize_cases h
  have hfirst := credentialCourse_of_course hcourse
  have hused := eq_of_built hfirst hlast
  have hinside : ∀ event ∈ first ++ last, event.built? = none → event ∈ first :=
    fun _ hmem hbuilt => mem_of_not_built hlast hmem hbuilt
  have hfiles := hfirst.kept_or_renewal before
  rw [filesAfter_append_builds hlast]
  exact
    { changed := fun earlier event path hplace hevent => by
        rcases prefix_append_cases hplace with hfore | ⟨later, -, hlater⟩
        · exact hfirst.changed hfore hevent
        · simp [(hlast.isBuilding event (hlater.subset (by simp))).1] at hevent
      saved := fun gain hmem credentials hgain event hevent used hbuilt => by
        have hmem := hinside gain hmem (Event.of_gained hgain).2.2.1
        obtain ⟨heq, content, htext, hsaves⟩ :=
          hfirst.saves_of_gained (hused event hevent used hbuilt) hmem hgain before
        exact ⟨heq, content, List.mem_append_left _ htext, hsaves⟩
      emptied := fun credentials fault hmem =>
        hfirst.saves_of_noText (hinside _ hmem rfl) before
      cut := fun path content fault hmem => by
        obtain ⟨hsaves, gain, hgain, credentials, hgained, htext⟩ :=
          hfirst.saves_of_cut (hinside _ hmem rfl) before
        exact ⟨hsaves, gain, List.mem_append_left _ hgain, credentials, hgained,
          List.mem_append_left _ htext⟩
      -- Wherever the files are kept, it is because something excludes that a login is renewed.
      kept := fun hnone => by
        refine hfiles.resolve_right ?_
        rintro ⟨credentials, hrenewal⟩
        obtain ⟨gain, hmem, hgain⟩ := hrenewal.gained
        simp [hnone gain (List.mem_append_left _ hmem)] at hgain
      serviceAccount := fun hnamed => by
        refine hfiles.resolve_right ?_
        rintro ⟨credentials, hrenewal⟩
        exact hnamed hrenewal.personal
      usable := fun event hmem login hloaded hvalid => by
        refine hfiles.resolve_right ?_
        rintro ⟨credentials, hrenewal⟩
        rcases List.mem_append.1 hmem with hmem | hmem
        · simp [hrenewal.unusable event hmem login hloaded] at hvalid
        · simp [(hlast.isBuilding event hmem).2.1] at hloaded
      missing := fun fault hmissing => by
        refine hfiles.resolve_right ?_
        rintro ⟨credentials, hrenewal⟩
        cases hmissing with
        | serviceAccountKey henv => simp [hrenewal.personal] at henv
        | clientSecrets _ hmem => exact hrenewal.complete _ (hinside _ hmem rfl) rfl
      failed := fun event hmem fault hraises hfilling hbuilt =>
        hfirst.kept_of_raises (hinside event hmem hbuilt) hraises hfilling before
      reported := fun event hmem fault hraises =>
        (failsBy_authorize env).error_of_raises h hmem hraises
      careful := fun earlier event hplace hbuilt =>
        not_raises_before_built hcourse hlast hplace hbuilt
      same := fun event hmem other hother credentials used hbuilt hbuilt' =>
        Except.ok.inj ((hused event hmem credentials hbuilt).symm.trans
          (hused other hother used hbuilt'))
      sourced := fun event hmem credentials hbuilt => by
        have hfrom := hfirst.comesFrom (hused event hmem credentials hbuilt)
        exact hfrom.mono (List.subset_append_left _ _)
      explained := fun fault heq => hlast.isExplained hfirst heq
      built := fun clients heq => filterMap_built hfirst hlast heq }

/-- In every run against a script, the saved login is guarded. -/
theorem isGuarded_authorize (world : World) (env : Environment) :
    IsGuarded env world.files (world.play (authorize env)).2.files
      ((authorize env).events World.answer world) (world.play (authorize env)).1 := by
  rw [World.files_play]
  exact isGuarded_of_course (course_events World.answer (authorize env) world) world.files

/-- A login whose time is over and that can be prolonged, and a service that is not there. -/
def staleLogin : World :=
  { World.silent with
    replies
      | .loadLogin => [.ok { credentials := ⟨"stale"⟩, expired := true, refreshable := true }]
      | .refreshLogin => [.ok ⟨"fresh"⟩]
      | .buildClient => [.error (.reported .runtime "no such service")]
      | _ => []
    keptText credentials := credentials.name
    files := .ofPaths [loginPath] }

/-- The login is kept though no client comes of it. -/
example : (staleLogin.play (authorize {})).2.files.content? loginPath = some "fresh" := by
  decide +kernel

/-- The login that was kept is lost where the text of the new one is not to be had. -/
example :
    let refusal
      | .serialize _ => some (.reported .runtime "no text")
      | action => staleLogin.refusal action
    ({ staleLogin with refusal }.play (authorize {})).2.files.content? loginPath = some "" := by
  decide +kernel

end DeckPlan
