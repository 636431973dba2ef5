import DeckPlan.Proofs.Outside.Course

/-!
# What becomes of files

A file that is written has its new content, and all other files keep theirs (`content?_write_self`,
`content?_write_of_ne`). A file is changed in two steps, which are events of their own: when it is
opened it becomes empty, and when it is written it gets its content, or the beginning of it that was
written before a failure. So the files that a run leaves behind follow from its events
(`World.files_play`).
-/

namespace DeckPlan

/-! ## One file -/

namespace FileTree

/-- What is dropped for one key is not missed under another one. -/
private theorem lookup_filter_ne {key other : List String} (h : other ≠ key)
    (entries : List (List String × String)) :
    (entries.filter fun entry => entry.1 != key).lookup other = entries.lookup other := by
  induction entries with
  | nil => rfl
  | cons entry rest ih =>
    obtain ⟨first, content⟩ := entry
    by_cases hkey : first = key
    · -- The entry is dropped, and the lookup passes it over.
      subst hkey
      simp [List.lookup_cons, beq_eq_false_iff_ne.2 h, ih]
    · simp [hkey, List.lookup_cons, ih]

variable (tree : FileTree) (path content : String)

/-- A file holds what was written to it. -/
@[simp]
theorem content?_write_self : (tree.write path content).content? path = some content := by
  simp [content?, write]

/-- Writing to a file leaves all other ones as they are. -/
theorem content?_write_of_ne {other : String} (h : pathParts other ≠ pathParts path) :
    (tree.write path content).content? other = tree.content? other := by
  have hpassed : (pathParts other == pathParts path) = false := beq_eq_false_iff_ne.2 h
  simp only [content?, write, List.lookup_cons, hpassed]
  exact lookup_filter_ne h tree.entries

end FileTree

/-! ## The files after a run -/

/-- The file that an event changes. Writing changes a file even if it fails. -/
def Event.changed? : Event → Option String
  | ⟨.openFile path, .ok ()⟩ | ⟨.writeFile path _, _⟩ => some path
  | _ => none

/-- The beginning of a content that got into a file before the writing failed. -/
def WriteFault.beginning (fault : WriteFault) (content : String) : String :=
  String.ofList (content.toList.take fault.written)

/-- The files after an event. -/
def Event.applyTo : Event → FileTree → FileTree
  | ⟨.openFile path, .ok ()⟩, files => files.write path ""
  | ⟨.writeFile path content, .ok ()⟩, files => files.write path content
  | ⟨.writeFile path content, .error fault⟩, files => files.write path (fault.beginning content)
  | _, files => files

/-- The files after some events. -/
def filesAfter (files : FileTree) (events : List Event) : FileTree :=
  events.foldl (fun files event => event.applyTo files) files

section Files

variable (files : FileTree)

@[simp]
theorem filesAfter_cons (event : Event) (rest : List Event) :
    filesAfter files (event :: rest) = filesAfter (event.applyTo files) rest := rfl

/-- What happens to the files happens in the order of the events. -/
@[simp]
theorem filesAfter_append (first second : List Event) :
    filesAfter files (first ++ second) = filesAfter (filesAfter files first) second :=
  List.foldl_append

/-- An event that changes no file leaves all of them as they are. -/
theorem Event.applyTo_of_unchanged {event : Event} (h : event.changed? = none) :
    event.applyTo files = files := by
  obtain ⟨action, answer⟩ := event
  cases action with
  | writeFile => cases h
  | openFile =>
    cases answer with
    | ok => cases h
    | error => rfl
  | _ => rfl

/-- Files are as before where none is changed. -/
theorem filesAfter_of_unchanged {events : List Event}
    (h : ∀ event ∈ events, event.changed? = none) : filesAfter files events = files := by
  induction events with
  | nil => rfl
  | cons event rest ih =>
    obtain ⟨hevent, hrest⟩ := List.forall_mem_cons.1 h
    rw [filesAfter_cons, Event.applyTo_of_unchanged files hevent, ih hrest]

end Files

/-- The files that a script is left with follow from the events. -/
theorem World.files_play {α : Type} (world : World) (program : Program α) :
    (world.play program).2.files =
      filesAfter world.files (program.events World.answer world) := by
  induction program generalizing world with
  | done | fail => rfl
  | act action next ih =>
    -- One answer changes the files as its event does.
    have hstep : (answer action world).2.files =
        Event.applyTo ⟨action, (answer action world).1⟩ world.files := by
      cases action with
      | print | openFile | writeFile =>
        simp only [answer]
        split <;> rfl
      | _ => rfl
    rw [play_act, ih, hstep]
    rfl

end DeckPlan
