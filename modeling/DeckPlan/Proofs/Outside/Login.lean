import DeckPlan.Outside.Authorization
import DeckPlan.Proofs.Outside.Files

/-!
# How credentials are got

The events that count are those that gain a login, that change the file in which logins are kept or
fill it, and that build a client; all others are idle (`Event.IsIdle`).

* `SaveCourse` lists how the saving of a login can go. The file is emptied before it is known what
  to write, so a failure after that leaves it empty, or with the beginning of what was to be
  written.
* `CredentialCourse` lists what can happen until there are credentials or none
  (`credentialCourse_of_course`). Nothing but a login that was gained is ever saved.
-/

namespace DeckPlan

open Program

variable {env : Environment} {events : List Event}

/-! ## What fails -/

/-- The saved login is missing without a failure. -/
theorem failsBy_savedLogin {excused : Fault → Prop} : savedLogin?.FailsBy excused := by
  refine (failsBy_take _).bind fun found => ?_
  split
  · exact (failsBy_take _).bind fun _ => failsBy_done _
  · exact failsBy_done _

/-- A login is saved unless a step of it fails. -/
theorem failsBy_saveLogin {excused : Fault → Prop} (credentials : Credentials) :
    (saveLogin credentials).FailsBy excused :=
  (failsBy_take _).bind fun _ => (failsBy_take _).bind fun _ => (failsBy_take _).bind fun _ =>
    (failsBy_take _).bind fun _ => failsBy_done _

/-- The user is not asked to log in where the file for it is missing. -/
theorem failsBy_logIn : logIn.FailsBy fun fault => fault.kind = .fileNotFound := by
  refine (failsBy_take _).bind fun found => ?_
  split
  · exact (failsBy_take _).bind fun _ => failsBy_take _
  · exact failsBy_fail rfl

/-- It fails to get credentials by what fails in it, or because a file is missing. -/
theorem failsBy_getCredentials (env : Environment) :
    (getCredentials env).FailsBy fun fault => fault.kind = .fileNotFound := by
  unfold getCredentials
  split
  · refine (failsBy_take _).bind fun found => ?_
    split
    · refine (failsBy_take _).bind fun _ => ?_
      split
      · exact failsBy_done _
      · exact failsBy_take _
    · exact failsBy_fail rfl
  · refine failsBy_savedLogin.bind fun state => ?_
    split
    · exact failsBy_logIn.bind fun _ => failsBy_saveLogin _
    · split
      · exact failsBy_done _
      · split
        · exact (failsBy_take _).bind fun _ => failsBy_saveLogin _
        · exact failsBy_logIn.bind fun _ => failsBy_saveLogin _

/-! ## What counts of an event -/

namespace Event

/-- The credentials that were prolonged or made just now. -/
def gained? : Event → Option Credentials
  | ⟨.call (.refreshLogin _), .ok credentials⟩ => some credentials
  | ⟨.call (.logIn _), .ok credentials⟩ => some credentials
  | _ => none

/-- The saved login that was loaded. -/
def loaded? : Event → Option SavedLogin
  | ⟨.call (.loadLogin ..), .ok login⟩ => some login
  | _ => none

/-- The credentials that a client is to be built with, be it with success or not. -/
def built? : Event → Option Credentials
  | ⟨.call (.buildClient _ _ credentials), _⟩ => some credentials
  | _ => none

/-- The event is a step in which a file is filled that was opened before: its content is asked for
or written. -/
def IsFilling : Event → Prop
  | ⟨.serialize _, _⟩ | ⟨.writeFile .., _⟩ => True
  | _ => False

/-- No login is gained, no file is changed or filled and no client is built. -/
structure IsIdle (event : Event) : Prop where
  gained : event.gained? = none
  changed : event.changed? = none
  filling : ¬ event.IsFilling
  built : event.built? = none

/-- To look for a file is idle. -/
@[simp]
theorem isIdle_hasFile (path : String) (answer : Except Fault Bool) :
    IsIdle ⟨.hasFile path, answer⟩ :=
  ⟨rfl, rfl, id, rfl⟩

/-- A call is idle unless it gains a login or builds a client. -/
@[simp]
theorem isIdle_call {request : Call} {reply : Except Fault request.Reply} :
    IsIdle ⟨.call request, reply⟩ ↔
      gained? ⟨.call request, reply⟩ = none ∧ built? ⟨.call request, reply⟩ = none :=
  ⟨fun h => ⟨h.gained, h.built⟩, fun h => ⟨h.1, rfl, id, h.2⟩⟩

/-- Whatever gains a login does nothing else and does not fail. -/
theorem of_gained {event : Event} {credentials : Credentials}
    (h : event.gained? = some credentials) :
    event.changed? = none ∧ ¬ event.IsFilling ∧ event.built? = none ∧ event.loaded? = none ∧
      ∀ fault, ¬ event.Raises fault := by
  unfold gained? at h
  split at h
  · exact ⟨rfl, id, rfl, rfl, fun _ h => nomatch h⟩
  · exact ⟨rfl, id, rfl, rfl, fun _ h => nomatch h⟩
  · cases h

end Event

/-- A program of actions that are idle, whatever is answered, has idle events. -/
theorem isIdle_of_only {α : Type} {program : Program α} {outcome : Except Fault α}
    (h : program.Only fun action => ∀ answer, Event.IsIdle ⟨action, answer⟩)
    (hcourse : program.Course events outcome) : ∀ event ∈ events, event.IsIdle :=
  fun event hmem => h.forall_mem_course hcourse event hmem event.answer

/-! ## Until there are credentials -/

/-- Nothing happens that changes the saved login, no login that can be used is found, nothing is
missing for a new one, and nothing fails. -/
structure IsSearch (events : List Event) : Prop where
  idle : ∀ event ∈ events, event.IsIdle
  useless : ∀ event ∈ events, ∀ login, event.loaded? = some login → login.valid = false
  complete : ∀ event ∈ events, event ≠ ⟨.hasFile clientSecretsPath, .ok false⟩
  succeeds : ∀ event ∈ events, ∀ fault, ¬ event.Raises fault

/-- What the credentials rest on is among the events. -/
inductive ComesFrom (env : Environment) (events : List Event) (credentials : Credentials) : Prop
  | serviceAccount {path : String} : nonempty? env.credentialsPath = some path →
      nonempty? env.impersonatedUser = none →
      ⟨.call (.loadServiceAccount path scopes), .ok credentials⟩ ∈ events →
      ComesFrom env events credentials
  | impersonation {path email : String} {account : Credentials} :
      nonempty? env.credentialsPath = some path → nonempty? env.impersonatedUser = some email →
      ⟨.call (.loadServiceAccount path scopes), .ok account⟩ ∈ events →
      ⟨.call (.actFor account email), .ok credentials⟩ ∈ events →
      ComesFrom env events credentials
  | savedLogin {event : Event} {login : SavedLogin} : event ∈ events →
      event.loaded? = some login → login.valid = true → login.credentials = credentials →
      ComesFrom env events credentials
  | gained {gain : Event} : gain ∈ events → gain.gained? = some credentials →
      ComesFrom env events credentials

/-- The file that is needed was looked for and is not there. -/
inductive IsMissing (env : Environment) (events : List Event) : Fault → Prop
  | serviceAccountKey {path : String} : nonempty? env.credentialsPath = some path →
      ⟨.hasFile path, .ok false⟩ ∈ events → IsMissing env events (.noServiceAccountKey path)
  | clientSecrets : nonempty? env.credentialsPath = none →
      ⟨.hasFile clientSecretsPath, .ok false⟩ ∈ events →
      IsMissing env events (.noClientSecrets clientSecretsPath loginFolder)

/-- The fault is that of something that failed, or of a file that is missing. -/
def IsExplained (env : Environment) (events : List Event) (fault : Fault) : Prop :=
  (∃ event ∈ events, event.Raises fault) ∨ IsMissing env events fault

/-- The courses on which a login is saved, or a step of it fails. -/
inductive SaveCourse (credentials : Credentials) :
    List Event → Except Fault Credentials → Prop
  | noFolder (fault : Fault) :
      SaveCourse credentials [⟨.makeFolder loginFolder, .error fault⟩] (.error fault)
  | unopened (fault : Fault) :
      SaveCourse credentials
        [⟨.makeFolder loginFolder, .ok ()⟩, ⟨.openFile loginPath, .error fault⟩] (.error fault)
  | noText (fault : Fault) :
      SaveCourse credentials
        [⟨.makeFolder loginFolder, .ok ()⟩, ⟨.openFile loginPath, .ok ()⟩,
          ⟨.serialize credentials, .error fault⟩] (.error fault)
  | cut (content : String) (fault : WriteFault) :
      SaveCourse credentials
        [⟨.makeFolder loginFolder, .ok ()⟩, ⟨.openFile loginPath, .ok ()⟩,
          ⟨.serialize credentials, .ok content⟩, ⟨.writeFile loginPath content, .error fault⟩]
        (.error fault.fault)
  | saved (content : String) :
      SaveCourse credentials
        [⟨.makeFolder loginFolder, .ok ()⟩, ⟨.openFile loginPath, .ok ()⟩,
          ⟨.serialize credentials, .ok content⟩, ⟨.writeFile loginPath content, .ok ()⟩]
        (.ok credentials)

/-- The courses on which there are credentials at last, or none. -/
inductive CredentialCourse (env : Environment) : List Event → Except Fault Credentials → Prop
  | failed {events : List Event} {fault : Fault} : (∀ event ∈ events, event.IsIdle) →
      IsExplained env events fault → CredentialCourse env events (.error fault)
  /-- The credentials are there already. -/
  | found {events : List Event} {credentials : Credentials} : (∀ event ∈ events, event.IsIdle) →
      ComesFrom env events credentials → CredentialCourse env events (.ok credentials)
  /-- A login is gained and is to be saved. -/
  | gained {earlier last : List Event} {gain : Event} {credentials : Credentials}
      {outcome : Except Fault Credentials} : nonempty? env.credentialsPath = none →
      IsSearch earlier → gain.gained? = some credentials → SaveCourse credentials last outcome →
      CredentialCourse env (earlier ++ gain :: last) outcome

/-- What credentials rest on is among more events too. -/
theorem ComesFrom.mono {first : List Event} {credentials : Credentials}
    (h : ComesFrom env first credentials) (hsubset : first ⊆ events) :
    ComesFrom env events credentials := by
  cases h with
  | serviceAccount hpath huser hload => exact .serviceAccount hpath huser (hsubset hload)
  | impersonation hpath huser hload hact =>
    exact .impersonation hpath huser (hsubset hload) (hsubset hact)
  | savedLogin hmem hloaded hvalid heq => exact .savedLogin (hsubset hmem) hloaded hvalid heq
  | gained hmem hgain => exact .gained (hsubset hmem) hgain

/-- A fault is explained by more events too. -/
theorem IsExplained.mono {first : List Event} {fault : Fault} (h : IsExplained env first fault)
    (hsubset : first ⊆ events) : IsExplained env events fault := by
  rcases h with ⟨event, hmem, hraises⟩ | ⟨hpath, hmem⟩ | ⟨hpath, hmem⟩
  · exact .inl ⟨event, hsubset hmem, hraises⟩
  · exact .inr (.serviceAccountKey hpath (hsubset hmem))
  · exact .inr (.clientSecrets hpath (hsubset hmem))

/-- A call that fails explains its fault. -/
theorem isExplained_of_call (request : Call) {fault : Fault}
    (hmem : ⟨.call request, .error fault⟩ ∈ events) : IsExplained env events fault :=
  .inl ⟨_, hmem, rfl⟩

/-- The steps of a search put together are a search. -/
theorem IsSearch.append {first second : List Event} (hfirst : IsSearch first)
    (hsecond : IsSearch second) : IsSearch (first ++ second) where
  idle := List.forall_mem_append.2 ⟨hfirst.idle, hsecond.idle⟩
  useless := List.forall_mem_append.2 ⟨hfirst.useless, hsecond.useless⟩
  complete := List.forall_mem_append.2 ⟨hfirst.complete, hsecond.complete⟩
  succeeds := List.forall_mem_append.2 ⟨hfirst.succeeds, hsecond.succeeds⟩

/-- The key of a service account is loaded, for the user to act for if there is one. -/
theorem credentialCourse_of_serviceAccount {path : String} {outcome : Except Fault Credentials}
    (henv : nonempty? env.credentialsPath = some path)
    (h : (serviceAccount env path).Course events outcome) :
    CredentialCourse env events outcome := by
  rcases course_hasFile_bind.1 h with ⟨fault, rfl, rfl⟩ | ⟨isThere, rest, rfl, hrest⟩
  · exact .failed (by simp) (.inl ⟨_, List.mem_cons_self, rfl⟩)
  split at hrest
  · rcases course_call_bind.1 hrest with ⟨fault, rfl, rfl⟩ | ⟨account, rest, rfl, hloaded⟩
    · exact .failed (by simp [Event.gained?, Event.built?])
        (isExplained_of_call (.loadServiceAccount path scopes) (by simp))
    split at hloaded
    · next huser =>
      obtain ⟨rfl, rfl⟩ := hloaded
      exact .found (by simp [Event.gained?, Event.built?]) (.serviceAccount henv huser (by simp))
    -- The account acts for a user, and that may fail too.
    · next email huser =>
      obtain rfl := course_call.1 hloaded
      have hidle : ∀ event ∈ [⟨.hasFile path, .ok isThere⟩,
          ⟨.call (.loadServiceAccount path scopes), .ok account⟩,
          ⟨.call (.actFor account email), outcome⟩], Event.IsIdle event := by
        simp [Event.gained?, Event.built?]
      cases outcome with
      | error fault => exact .failed hidle (isExplained_of_call (.actFor account email) (by simp))
      | ok credentials =>
        exact .found hidle (.impersonation henv huser (.tail _ (.head _))
          (.tail _ (.tail _ (.head _))))
  · next hnot =>
    obtain ⟨rfl, rfl⟩ := hrest
    obtain rfl : isThere = false := Bool.eq_false_iff.2 hnot
    exact .failed (by simp) (.inr (.serviceAccountKey henv List.mem_cons_self))

/-- To look for a saved login takes no other actions than to look for its file and to load it. -/
theorem only_savedLogin {allowed : Action → Prop} (hfile : allowed (.hasFile loginPath))
    (hload : allowed (.call (.loadLogin loginPath scopes))) : savedLogin?.Only allowed := by
  refine Only.bind (only_take hfile) fun found => ?_
  split
  · exact Only.bind (only_take hload) fun _ => only_done _
  · exact only_done _

/-- Looking for a saved login changes nothing. -/
theorem isIdle_of_savedLogin {outcome : Except Fault (Option SavedLogin)}
    (h : savedLogin?.Course events outcome) : ∀ event ∈ events, event.IsIdle :=
  isIdle_of_only (only_savedLogin (by simp) (by simp [Event.gained?, Event.built?])) h

/-- The login that is found is the one that is loaded. -/
theorem loaded_iff {found : Option SavedLogin} (h : savedLogin?.Course events (.ok found))
    (login : SavedLogin) :
    (∃ event ∈ events, event.loaded? = some login) ↔ found = some login := by
  rcases course_hasFile_bind.1 h with ⟨fault, -, heq⟩ | ⟨isThere, rest, rfl, hrest⟩
  · cases heq
  split at hrest
  · rcases course_call_bind.1 hrest with ⟨fault, -, heq⟩ | ⟨loaded, rest, rfl, rfl, heq⟩
    · cases heq
    · cases heq
      simp [Event.loaded?]
  · obtain ⟨rfl, heq⟩ := hrest
    cases heq
    simp [Event.loaded?]

/-- What is found of a saved login is a search where the login cannot be used. -/
theorem isSearch_of_savedLogin {found : Option SavedLogin}
    (h : savedLogin?.Course events (.ok found))
    (huseless : ∀ login, found = some login → login.valid = false) : IsSearch events where
  idle := isIdle_of_savedLogin h
  useless event hmem login hloaded := huseless login ((loaded_iff h login).1 ⟨event, hmem, hloaded⟩)
  complete event hmem heq := by
    have honly : savedLogin?.Only (· ≠ .hasFile clientSecretsPath) :=
      only_savedLogin (by simp [loginPath, clientSecretsPath]) (by simp)
    exact honly.forall_mem_course h event hmem (congrArg Event.action heq)
  succeeds :=
    have hfails : savedLogin?.FailsBy fun _ => False := failsBy_savedLogin
    hfails.not_raises_of_ok h

/-- A user who is to log in does so at last, or nothing comes of it. -/
theorem logIn_cases {outcome : Except Fault Credentials}
    (henv : nonempty? env.credentialsPath = none) (h : logIn.Course events outcome) :
    (∃ fault, outcome = .error fault ∧ (∀ event ∈ events, event.IsIdle) ∧
        IsExplained env events fault) ∨
      ∃ credentials earlier gain, outcome = .ok credentials ∧ events = earlier ++ [gain] ∧
        IsSearch earlier ∧ gain.gained? = some credentials := by
  -- Each of the three steps may be the last one, and only the third gains a login.
  rcases course_hasFile_bind.1 h with ⟨fault, rfl, rfl⟩ | ⟨isThere, rest, rfl, hrest⟩
  · exact .inl ⟨fault, rfl, by simp, .inl ⟨_, List.mem_cons_self, rfl⟩⟩
  split at hrest
  · rcases course_call_bind.1 hrest with ⟨fault, rfl, rfl⟩ | ⟨⟨⟩, rest, rfl, hlogin⟩
    · exact .inl ⟨fault, rfl, by simp [Event.gained?, Event.built?],
        isExplained_of_call (.loadClientSecrets clientSecretsPath scopes) (by simp)⟩
    obtain rfl := course_call.1 hlogin
    cases outcome with
    | error fault =>
      exact .inl ⟨fault, rfl, by simp [Event.gained?, Event.built?],
        isExplained_of_call (.logIn 0) (by simp)⟩
    | ok credentials =>
      refine .inr ⟨credentials, [_, _], _, rfl, rfl, ?_, rfl⟩
      exact ⟨by simp [Event.gained?, Event.built?], by simp [Event.loaded?],
        by simpa using ‹isThere = true›, by simp [Event.Raises, Action.result]⟩
  · next hnot =>
    obtain ⟨rfl, rfl⟩ := hrest
    obtain rfl : isThere = false := Bool.eq_false_iff.2 hnot
    exact .inl ⟨_, rfl, by simp, .inr (.clientSecrets henv List.mem_cons_self)⟩

/-- What was gained is saved step by step, and nothing else happens. -/
theorem saveCourse_of_course {credentials : Credentials} {outcome : Except Fault Credentials}
    (h : (saveLogin credentials).Course events outcome) :
    SaveCourse credentials events outcome := by
  -- The first of the four steps that fails is the last one.
  obtain ⟨made, rest, rfl, hopen⟩ := h
  cases made with
  | error fault =>
    obtain ⟨rfl, rfl⟩ := hopen
    exact .noFolder fault
  | ok =>
  obtain ⟨opened, rest, rfl, htext⟩ := hopen
  cases opened with
  | error fault =>
    obtain ⟨rfl, rfl⟩ := htext
    exact .unopened fault
  | ok =>
  obtain ⟨text, rest, rfl, hwrite⟩ := htext
  cases text with
  | error fault =>
    obtain ⟨rfl, rfl⟩ := hwrite
    exact .noText fault
  | ok content =>
  obtain ⟨written, rest, rfl, hend⟩ := hwrite
  cases written with
  | error fault =>
    obtain ⟨rfl, rfl⟩ := hend
    exact .cut content fault
  | ok =>
    obtain ⟨rfl, rfl⟩ := hend
    exact .saved content

/-- A login that is made in place of one that cannot be used. -/
theorem credentialCourse_of_logIn {first last : List Event} {outcome : Except Fault Credentials}
    (henv : nonempty? env.credentialsPath = none) (hfirst : IsSearch first)
    (h : (logIn.bind saveLogin).Course last outcome) :
    CredentialCourse env (first ++ last) outcome := by
  rcases trace_bind.1 h with ⟨fault, hlogin, rfl⟩ | ⟨made, second, third, rfl, hlogin, hsave⟩
  · rcases logIn_cases henv hlogin with ⟨fault, heq, hlast, hexplained⟩ | ⟨_, _, _, heq, -⟩
    · cases heq
      have hidle := List.forall_mem_append.2 ⟨hfirst.idle, hlast⟩
      exact .failed hidle (hexplained.mono (List.subset_append_right _ _))
    · cases heq
  · rcases logIn_cases henv hlogin with
      ⟨fault, heq, -⟩ | ⟨credentials, earlier, gain, heq, rfl, hearlier, hgain⟩
    · cases heq
    cases heq
    -- The login that is made follows on both searches, for a saved one and for the secrets.
    have hcourse := CredentialCourse.gained henv (hfirst.append hearlier) hgain
      (saveCourse_of_course hsave)
    simpa using hcourse

/-- There are no other courses. -/
theorem credentialCourse_of_course {outcome : Except Fault Credentials}
    (h : (getCredentials env).Course events outcome) : CredentialCourse env events outcome := by
  rw [getCredentials] at h
  split at h
  · next henv => exact credentialCourse_of_serviceAccount henv h
  next henv =>
  rcases trace_bind.1 h with ⟨fault, hsaved, rfl⟩ | ⟨found, first, last, rfl, hsaved, hend⟩
  · have hfails : savedLogin?.FailsBy fun _ => False := failsBy_savedLogin
    exact .failed (isIdle_of_savedLogin hsaved) (.inl ((hfails.caused hsaved).resolve_left id))
  -- What follows depends on the saved login: there is none, it can be used, it can be prolonged, or
  -- it is of no use.
  cases found with
  | none =>
    exact credentialCourse_of_logIn henv (isSearch_of_savedLogin hsaved fun _ h => nomatch h) hend
  | some login =>
    dsimp only at hend
    split at hend
    · next hvalid =>
      obtain ⟨rfl, rfl⟩ := hend
      obtain ⟨event, hmem, hevent⟩ := (loaded_iff hsaved login).2 rfl
      rw [List.append_nil]
      exact .found (isIdle_of_savedLogin hsaved) (.savedLogin hmem hevent hvalid rfl)
    next hinvalid =>
    have hsearch : IsSearch first := isSearch_of_savedLogin hsaved fun _ heq =>
      Option.some.inj heq ▸ Bool.eq_false_iff.2 hinvalid
    split at hend
    · rcases course_call_bind.1 hend with ⟨fault, rfl, rfl⟩ | ⟨credentials, rest, rfl, hsave⟩
      · refine .failed ?_ (isExplained_of_call (.refreshLogin login.credentials) (by simp))
        exact List.forall_mem_append.2 ⟨hsearch.idle, by simp [Event.gained?, Event.built?]⟩
      · exact .gained henv hsearch rfl (saveCourse_of_course hsave)
    · exact credentialCourse_of_logIn henv hsearch hend

end DeckPlan
