import Mathlib.Data.List.Nodup
import Mathlib.Tactic.Push

/-!
# Runs of characters

A run of characters of one kind cannot be made longer at either end (`IsRun`). A character of
another kind parts a text into two, and each of them has its runs for itself
(`isRun_append_left_iff`, `isRun_append_right_iff`).

So a text that is cut at all characters of another kind falls into its runs, and into empty pieces.
`areRuns_splitOnP` says that the pieces that are long enough are the runs that are long enough, all
of them and in order, and `AreRuns.unique` that no other texts are.
-/

namespace DeckPlan.Text

/-- There is a character at the place, and it is of the kind. -/
def HoldsAt (kind : Char → Prop) (s : List Char) (i : Nat) : Prop :=
  ∃ c, s[i]? = some c ∧ kind c

/-- The characters from `first` up to but not including `stop` are a maximal run of characters of
the kind. -/
structure IsRun (kind : Char → Prop) (s : List Char) (first stop : Nat) : Prop where
  nonempty : first < stop
  holds : ∀ i, first ≤ i → i < stop → HoldsAt kind s i
  left : first = 0 ∨ ¬ HoldsAt kind s (first - 1)
  right : ¬ HoldsAt kind s stop

/-- The places are those of the maximal runs of at least `least` characters, in order. -/
structure ListsRuns (kind : Char → Prop) (least : Nat) (s : List Char)
    (runs : List (Nat × Nat)) : Prop where
  inOrder : runs.Pairwise fun run next => run.2 < next.1
  mem_iff : ∀ run, run ∈ runs ↔ IsRun kind s run.1 run.2 ∧ run.1 + least ≤ run.2

/-- The characters from the first place up to but not including the second. -/
def between (s : List Char) (run : Nat × Nat) : List Char :=
  (s.take run.2).drop run.1

/-- The pieces are the maximal runs of at least `least` characters, in order. -/
def AreRuns (kind : Char → Prop) (least : Nat) (s : List Char)
    (pieces : List (List Char)) : Prop :=
  ∃ runs, ListsRuns kind least s runs ∧ pieces = runs.map (between s)

/-- The place of a run when `n` more characters stand before it. -/
def moved (n : Nat) (run : Nat × Nat) : Nat × Nat :=
  (n + run.1, n + run.2)

variable {kind : Char → Prop} {least first stop i : Nat} {c : Char} {s front back : List Char}

/-! ## Places -/

theorem HoldsAt.lt_length (h : HoldsAt kind s i) : i < s.length := by
  obtain ⟨c, hget, -⟩ := h
  exact (List.getElem?_eq_some_iff.1 hget).1

theorem holdsAt_of_forall (h : ∀ c ∈ s, kind c) (hi : i < s.length) : HoldsAt kind s i :=
  ⟨s[i], List.getElem?_eq_getElem hi, h _ (List.getElem_mem hi)⟩

/-- At a character of another kind there is none of the kind. -/
theorem not_holdsAt_seam (h : ¬ kind c) : ¬ HoldsAt kind (front ++ c :: back) front.length := by
  rintro ⟨d, hget, hd⟩
  rw [List.getElem?_append_right (Nat.le_refl _), Nat.sub_self] at hget
  obtain rfl : c = d := by simpa using hget
  exact h hd

/-- Up to a character of another kind, the places are those of the text before it. -/
theorem holdsAt_append_left_iff (h : ¬ kind c) (hi : i ≤ front.length) :
    HoldsAt kind (front ++ c :: back) i ↔ HoldsAt kind front i := by
  rcases Nat.lt_or_eq_of_le hi with hi | rfl
  · rw [HoldsAt, HoldsAt, List.getElem?_append_left hi]
  · -- Where the character stands, the text before it has ended.
    exact iff_of_false (not_holdsAt_seam h) fun hfront => Nat.lt_irrefl _ hfront.lt_length

/-- Behind that character, the places are those of the text behind it. -/
theorem holdsAt_append_right_iff :
    HoldsAt kind (front ++ c :: back) (front.length + 1 + i) ↔ HoldsAt kind back i := by
  rw [HoldsAt, HoldsAt, List.getElem?_append_right (by omega),
    show front.length + 1 + i - front.length = i + 1 by omega, List.getElem?_cons_succ]

/-! ## Runs -/

/-- A run ends within its text. -/
theorem IsRun.stop_le (h : IsRun kind s first stop) : stop ≤ s.length := by
  have hnonempty := h.nonempty
  have hlast := (h.holds (stop - 1) (by omega) (by omega)).lt_length
  omega

/-- A run does not reach over a place without a character of the kind. -/
theorem IsRun.beside (h : IsRun kind s first stop) (hi : ¬ HoldsAt kind s i) :
    stop ≤ i ∨ i < first := by
  by_contra hover
  exact hi (h.holds i (by omega) (by omega))

/-- Whether there is a run depends on the places up to its end and on the one before it. -/
theorem isRun_iff_of_places {n : Nat} {s' : List Char} (hstart : n = 0 ∨ ¬ HoldsAt kind s (n - 1))
    (hplace : ∀ i ≤ stop, (HoldsAt kind s (n + i) ↔ HoldsAt kind s' i)) :
    IsRun kind s (n + first) (n + stop) ↔ IsRun kind s' first stop := by
  -- Only the start of a run at the first place depends on what stands before the places.
  have hleft (hle : first ≤ stop) :
      (n + first = 0 ∨ ¬ HoldsAt kind s (n + first - 1)) ↔
        (first = 0 ∨ ¬ HoldsAt kind s' (first - 1)) := by
    rcases Nat.eq_zero_or_pos first with rfl | hpos
    · exact iff_of_true hstart (.inl rfl)
    · rw [Nat.add_sub_assoc hpos, hplace (first - 1) (by omega)]
      exact or_congr_left (by omega)
  constructor
  · rintro ⟨hnonempty, hholds, hstarts, hright⟩
    have hlt : first < stop := Nat.lt_of_add_lt_add_left hnonempty
    refine ⟨hlt, fun i hfirst hi => ?_, (hleft (Nat.le_of_lt hlt)).1 hstarts, ?_⟩
    · exact (hplace i (Nat.le_of_lt hi)).1 (hholds (n + i) (by omega) (by omega))
    · rwa [← hplace stop (Nat.le_refl stop)]
  · rintro ⟨hnonempty, hholds, hstarts, hright⟩
    refine ⟨by omega, fun i hfirst hi => ?_, (hleft (Nat.le_of_lt hnonempty)).2 hstarts, ?_⟩
    · obtain ⟨j, rfl⟩ := Nat.exists_eq_add_of_le (show n ≤ i by omega)
      exact (hplace j (by omega)).2 (hholds j (by omega) (by omega))
    · rwa [hplace stop (Nat.le_refl stop)]

/-- What stands behind a character of another kind does not change the runs before it. -/
theorem isRun_append_left_iff (h : ¬ kind c) (hstop : stop ≤ front.length) :
    IsRun kind (front ++ c :: back) first stop ↔ IsRun kind front first stop := by
  have hplace : ∀ i ≤ stop,
      (HoldsAt kind (front ++ c :: back) (0 + i) ↔ HoldsAt kind front i) := fun i hi => by
    rw [Nat.zero_add, holdsAt_append_left_iff h (Nat.le_trans hi hstop)]
  simpa only [Nat.zero_add] using isRun_iff_of_places (.inl rfl) hplace

/-- What stands before a character of another kind only moves the runs behind it. -/
theorem isRun_append_right_iff (h : ¬ kind c) :
    IsRun kind (front ++ c :: back) (front.length + 1 + first) (front.length + 1 + stop) ↔
      IsRun kind back first stop :=
  isRun_iff_of_places (.inr (not_holdsAt_seam h)) fun _ _ => holdsAt_append_right_iff

/-- A run stands before a character of another kind or behind it. -/
theorem isRun_append_iff (h : ¬ kind c) (run : Nat × Nat) :
    IsRun kind (front ++ c :: back) run.1 run.2 ↔ IsRun kind front run.1 run.2 ∨
      ∃ later, IsRun kind back later.1 later.2 ∧ moved (front.length + 1) later = run := by
  constructor
  · intro hrun
    rcases hrun.beside (not_holdsAt_seam h) with hstop | hfirst
    · exact .inl ((isRun_append_left_iff h hstop).1 hrun)
    · obtain ⟨first, stop⟩ := run
      have hnonempty : first < stop := hrun.nonempty
      obtain ⟨first, rfl⟩ := Nat.exists_eq_add_of_le (Nat.succ_le_of_lt hfirst)
      obtain ⟨stop, rfl⟩ := Nat.exists_eq_add_of_le
        (Nat.succ_le_of_lt (Nat.lt_trans hfirst hnonempty))
      exact .inr ⟨(first, stop), (isRun_append_right_iff h).1 hrun, rfl⟩
  · rintro (hrun | ⟨later, hrun, rfl⟩)
    · exact (isRun_append_left_iff h hrun.stop_le).2 hrun
    · exact (isRun_append_right_iff h).2 hrun

/-- A text of characters of the kind is one run, or it is empty. -/
theorem isRun_iff_of_forall (h : ∀ c ∈ s, kind c) :
    IsRun kind s first stop ↔ s ≠ [] ∧ first = 0 ∧ stop = s.length := by
  constructor
  · intro hrun
    have hnonempty := hrun.nonempty
    have hstop := hrun.stop_le
    refine ⟨List.ne_nil_of_length_pos (by omega), ?_, ?_⟩
    · exact hrun.left.resolve_right fun hleft => hleft (holdsAt_of_forall h (by omega))
    · by_contra hne
      exact hrun.right (holdsAt_of_forall h (by omega))
  · rintro ⟨hne, rfl, rfl⟩
    exact ⟨List.length_pos_iff.2 hne, fun i _ hi => holdsAt_of_forall h hi, .inl rfl,
      fun hright => Nat.lt_irrefl _ hright.lt_length⟩

/-! ## Lists of runs -/

/-- There is only one list of the runs. -/
theorem ListsRuns.unique {runs runs' : List (Nat × Nat)} (h : ListsRuns kind least s runs)
    (h' : ListsRuns kind least s runs') : runs = runs' := by
  have hnodup {runs : List (Nat × Nat)} (h : ListsRuns kind least s runs) : runs.Nodup := by
    refine h.inOrder.imp_of_mem fun {run next} hrun _ hlt => ?_
    rintro rfl
    exact Nat.lt_asymm hlt ((h.mem_iff run).1 hrun).1.nonempty
  have hperm : runs.Perm runs' :=
    (List.perm_ext_iff_of_nodup (hnodup h) (hnodup h')).2 fun run =>
      (h.mem_iff run).trans (h'.mem_iff run).symm
  -- Of two runs one stands before the other.
  refine hperm.eq_of_pairwise (fun run next hrun hnext hlt hgt => ?_) h.inOrder h'.inOrder
  have hfirst := ((h.mem_iff run).1 hrun).1.nonempty
  have hsecond := ((h'.mem_iff next).1 hnext).1.nonempty
  omega

/-- A character that belongs to no run parts the runs of a text. -/
theorem ListsRuns.append {runs runs' : List (Nat × Nat)} (hfront : ListsRuns kind least front runs)
    (h : ¬ kind c) (hback : ListsRuns kind least back runs') :
    ListsRuns kind least (front ++ c :: back)
      (runs ++ runs'.map (moved (front.length + 1))) where
  inOrder := by
    refine List.pairwise_append.2 ⟨hfront.inOrder, ?_, fun run hrun next hnext => ?_⟩
    · exact List.pairwise_map.2 (hback.inOrder.imp fun hlt => Nat.add_lt_add_left hlt _)
    · -- A run in front stops at the break, and one behind it is moved past it.
      obtain ⟨later, -, rfl⟩ := List.mem_map.1 hnext
      have hstop := ((hfront.mem_iff run).1 hrun).1.stop_le
      simp only [moved]
      omega
  mem_iff run := by
    rw [List.mem_append, List.mem_map, hfront.mem_iff, isRun_append_iff h, or_and_right]
    -- To move a run does not change how long it is.
    refine or_congr_right ⟨?_, ?_⟩
    · rintro ⟨later, hlater, rfl⟩
      obtain ⟨hrun, hleast⟩ := (hback.mem_iff later).1 hlater
      refine ⟨⟨later, hrun, rfl⟩, ?_⟩
      simp only [moved]
      omega
    · rintro ⟨⟨later, hrun, rfl⟩, hleast⟩
      refine ⟨later, (hback.mem_iff later).2 ⟨hrun, ?_⟩, rfl⟩
      simp only [moved] at hleast
      omega

/-! ## Pieces -/

theorem between_append_left {run : Nat × Nat} (h : run.2 ≤ front.length) :
    between (front ++ back) run = between front run := by
  rw [between, between, List.take_append_of_le_length h]

theorem between_append_right (run : Nat × Nat) :
    between (front ++ c :: back) (moved (front.length + 1) run) = between back run := by
  have hlength : front.length + 1 = (front ++ [c]).length := by simp
  simp only [between, moved]
  rw [List.append_cons, hlength, List.take_length_add_append, List.drop_length_add_append]

/-- A text has its runs in one way only. -/
theorem AreRuns.unique {pieces pieces' : List (List Char)} (h : AreRuns kind least s pieces)
    (h' : AreRuns kind least s pieces') : pieces = pieces' := by
  obtain ⟨runs, hruns, rfl⟩ := h
  obtain ⟨runs', hruns', rfl⟩ := h'
  rw [hruns.unique hruns']

/-- The runs before a character of another kind and those behind it are all runs. -/
theorem AreRuns.append {pieces pieces' : List (List Char)}
    (hfront : AreRuns kind least front pieces) (h : ¬ kind c)
    (hback : AreRuns kind least back pieces') :
    AreRuns kind least (front ++ c :: back) (pieces ++ pieces') := by
  obtain ⟨runs, hruns, rfl⟩ := hfront
  obtain ⟨runs', hruns', rfl⟩ := hback
  refine ⟨_, hruns.append h hruns', ?_⟩
  rw [List.map_append, List.map_map]
  congr 1
  · exact List.map_congr_left fun run hrun =>
      (between_append_left ((hruns.mem_iff run).1 hrun).1.stop_le).symm
  · exact List.map_congr_left fun run _ => (between_append_right run).symm

/-- A text of one kind is one run, if it is long enough. -/
theorem areRuns_of_forall (hleast : 0 < least) (h : ∀ c ∈ s, kind c) :
    AreRuns kind least s ([s].filter fun piece => least ≤ piece.length) := by
  by_cases hlong : least ≤ s.length
  · refine ⟨[(0, s.length)], ⟨List.pairwise_singleton _ _, fun run => ?_⟩, by simp [hlong, between]⟩
    rw [List.mem_singleton, isRun_iff_of_forall h, Prod.ext_iff]
    have hne : s ≠ [] := List.ne_nil_of_length_pos (by omega)
    constructor
    · rintro ⟨hfirst, hstop⟩
      exact ⟨⟨hne, hfirst, hstop⟩, by simp only [hfirst, hstop]; omega⟩
    · exact fun hrun => hrun.1.2
  · refine ⟨[], ⟨.nil, fun run => iff_of_false List.not_mem_nil ?_⟩, by simp [hlong]⟩
    rintro ⟨hrun, hleast⟩
    obtain ⟨-, hfirst, hstop⟩ := (isRun_iff_of_forall h).1 hrun
    omega

/-- A text that is cut at all characters of another kind has its runs for pieces, as far as these
are long enough. -/
theorem areRuns_splitOnP {cut : Char → Bool} (hleast : 0 < least)
    (hkind : ∀ c, cut c = false ↔ kind c) (s : List Char) :
    AreRuns kind least s ((s.splitOnP cut).filter fun piece => least ≤ piece.length) := by
  by_cases h : ∀ c ∈ s, cut c = false
  · rw [List.splitOnP_eq_singleton h]
    exact areRuns_of_forall hleast fun c hc => (hkind c).1 (h c hc)
  · push Not at h
    obtain ⟨c, hc, hcut⟩ := h
    obtain ⟨front, back, rfl⟩ := List.append_of_mem hc
    rw [List.splitOnP_append_cons front back (by simpa using hcut), List.filter_append]
    exact (areRuns_splitOnP hleast hkind front).append (mt (hkind c).2 hcut)
      (areRuns_splitOnP hleast hkind back)
termination_by s.length

end DeckPlan.Text
