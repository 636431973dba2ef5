import DeckPlan.Guard.Inputs
import Mathlib.Algebra.GroupWithZero.Nat
import Mathlib.Algebra.Order.BigOperators.Group.List
import Mathlib.Algebra.Order.Group.Nat
import Mathlib.Data.List.SplitBy

/-!
# What looks like gibberish

A text is taken for gibberish by three counts. Two are counts of its characters: the letters and the
vowels. The third is made in one pass with a counter that starts anew whenever the character changes
(`repeats`).

* `runs` are the maximal runs of equal characters of a text (`areRuns_runs`), and `excess` is the
  number of characters that stand behind the third of their run,
* `repeats_eq_excess` says that the pass counts the excess of the runs, by one run more
  (`repeats_run_append`),
* `isLikelyGibberish_iff` says which texts are taken for gibberish.
-/

namespace DeckPlan.Guard

/-! ## Runs -/

/-- The maximal runs of equal characters, in order. -/
def runs (s : List Char) : List (List Char) :=
  s.splitBy (· == ·)

/-- The parts are what a text is made of, each of them is one character repeated, and two parts next
to each other are of different characters. -/
structure AreRuns (parts : List (List Char)) (s : List Char) : Prop where
  flatten_eq : parts.flatten = s
  eq_replicate : ∀ part ∈ parts, ∃ c n, part = List.replicate (n + 1) c
  parted : parts.IsChain fun part next => part.getLast? ≠ next.head?

/-- The number of characters that stand behind the third of their run. -/
def excess (parts : List (List Char)) : Nat :=
  (parts.map fun part => part.length - 3).sum

/-- Each part adds what it has beyond three characters. -/
@[simp]
theorem excess_cons (part : List Char) (parts : List (List Char)) :
    excess (part :: parts) = part.length - 3 + excess parts :=
  List.sum_cons

/-- A text has runs, and they are found by splitting it. -/
theorem areRuns_runs (s : List Char) : AreRuns (runs s) s where
  flatten_eq := List.flatten_splitBy _ s
  eq_replicate part hpart := by
    have hequal : part.IsChain (· = ·) :=
      (List.isChain_of_mem_splitBy hpart).imp fun c d h => eq_of_beq h
    obtain ⟨c, rest, rfl⟩ := List.exists_cons_of_ne_nil (List.ne_nil_of_mem_splitBy hpart)
    exact ⟨c, rest.length, List.isChain_eq_iff_eq_replicate.1 hequal c rfl⟩
  parted := by
    refine (List.isChain_getLast_head_splitBy _ s).imp fun part next h => ?_
    obtain ⟨hpart, hnext, hdiffer⟩ := h
    rw [List.getLast?_eq_some_getLast hpart, List.head?_eq_some_head hnext]
    simpa using hdiffer

/-! ## The pass -/

/-- Another character starts a new run, whatever was counted before. -/
theorem repeats_of_head?_ne {last : Option Char} {rest : List Char} (run : Nat)
    (h : rest.head? ≠ last) : repeats last run rest = repeats none 0 rest := by
  cases rest with
  | nil => rfl
  | cons c rest =>
    have hother : some c ≠ last := h
    rw [repeats, if_neg hother, repeats, if_neg (by simp)]

/-- The pass through `m` more characters of a run in which it has counted `run` characters so far.
Each of them is counted if three or more stand before it. -/
theorem repeats_replicate_append (c : Char) (run m : Nat) (rest : List Char) :
    repeats (some c) run (List.replicate m c ++ rest) + (run - 3) =
      run + m - 3 + repeats (some c) (run + m) rest := by
  induction m generalizing run with
  | zero => exact Nat.add_comm _ _
  | succ m ih =>
    have hlater := ih (run + 1)
    rw [List.replicate_succ, List.cons_append, repeats, if_pos rfl, ← Nat.add_assoc,
      Nat.add_right_comm run m 1]
    -- The next character is the fourth one or a later one, or it does not count.
    split <;> omega

/-- A whole run counts for the characters behind its third. -/
theorem repeats_run_append {c : Char} {n : Nat} {rest : List Char} (h : rest.head? ≠ some c) :
    repeats none 0 (List.replicate (n + 1) c ++ rest) = n + 1 - 3 + repeats none 0 rest := by
  have hfirst : repeats none 0 (List.replicate (n + 1) c ++ rest) =
      repeats (some c) 1 (List.replicate n c ++ rest) := by
    rw [List.replicate_succ, List.cons_append, repeats, if_neg (by simp)]
  have hrun := repeats_replicate_append c 1 n rest
  rw [repeats_of_head?_ne _ h] at hrun
  rw [hfirst]
  omega

/-- The pass counts the excess of the runs. -/
theorem repeats_eq_excess {parts : List (List Char)} {s : List Char} (h : AreRuns parts s) :
    repeats none 0 s = excess parts := by
  obtain ⟨rfl, hreplicate, hparted⟩ := h
  induction parts with
  | nil => rfl
  | cons part parts ih =>
    obtain ⟨⟨c, n, rfl⟩, hlater⟩ := List.forall_mem_cons.1 hreplicate
    -- What follows the run starts with the next run, so with another character.
    have hhead : parts.flatten.head? ≠ some c := by
      cases parts with
      | nil => simp
      | cons next parts =>
        obtain ⟨d, m, rfl⟩ := hlater next List.mem_cons_self
        have hdiffer := (List.isChain_cons_cons.1 hparted).1
        rw [List.getLast?_replicate, if_neg n.succ_ne_zero] at hdiffer
        simpa [List.replicate_succ] using hdiffer.symm
    rw [List.flatten_cons, repeats_run_append hhead, ih hlater hparted.tail, excess_cons,
      List.length_replicate]

/-! ## One long run or two -/

/-- There are no more parts of at least four characters than there is excess. -/
theorem countP_le_excess (parts : List (List Char)) :
    (parts.countP fun part => 4 ≤ part.length) ≤ excess parts := by
  induction parts with
  | nil => exact Nat.zero_le _
  | cons part parts ih =>
    simp only [List.countP_cons, excess_cons, decide_eq_true_iff]
    split <;> omega

/-- Runs of no more than four characters have one too many or none. -/
theorem excess_eq_countP {parts : List (List Char)} (h : ∀ part ∈ parts, part.length ≤ 4) :
    excess parts = parts.countP fun part => 4 ≤ part.length := by
  induction parts with
  | nil => rfl
  | cons part parts ih =>
    obtain ⟨hpart, hlater⟩ := List.forall_mem_cons.1 h
    simp only [excess_cons, List.countP_cons, ih hlater, decide_eq_true_iff]
    split <;> omega

/-- Two characters are too many in one run of five, or in two runs of four. -/
theorem two_le_excess_iff (parts : List (List Char)) :
    2 ≤ excess parts ↔
      (∃ part ∈ parts, 5 ≤ part.length) ∨ 2 ≤ parts.countP fun part => 4 ≤ part.length := by
  constructor
  · intro h
    by_cases hlong : ∃ part ∈ parts, 5 ≤ part.length
    · exact .inl hlong
    · -- Without a run of five, every run of four or more has exactly one too many.
      push Not at hlong
      rw [excess_eq_countP fun part hpart => Nat.le_of_lt_succ (hlong part hpart)] at h
      exact .inr h
  · rintro (⟨part, hpart, hlong⟩ | hcount)
    · have hle : part.length - 3 ≤ excess parts :=
        List.single_le_sum (fun _ _ => Nat.zero_le _) _ (List.mem_map_of_mem hpart)
      omega
    · exact hcount.trans (countP_le_excess parts)

/-! ## The judgement -/

/-- The lower-case form of the character is one of the vowels. -/
def IsVowel (c : Char) : Prop :=
  ∃ vowel ∈ "aeiouy".toList, Text.lower [c] = [vowel]

instance (c : Char) : Decidable (IsVowel c) :=
  decidable_of_iff ("aeiouy".toList.any fun vowel => Text.lower [c] == [vowel])
    (by simp [IsVowel])

theorem isVowel_iff {c : Char} : isVowel c = true ↔ IsVowel c := by
  have hlist : isVowel c = true ↔ ∃ vowel ∈ "aeiouy".toList, Text.lowerChar c = [vowel] := by
    simp [isVowel]
  rw [hlist, IsVowel]
  by_cases hsigma : c = 'Σ'
  · -- The capital sigma is the one character whose form depends on its place.
    have hchar : Text.lowerChar 'Σ' = ['σ'] := by decide +kernel
    have hlower : Text.lower ['Σ'] = ['σ'] := by decide +kernel
    rw [hsigma, hchar, hlower]
  · have hlower : Text.lower [c] = Text.lowerChar c := by
      rw [Text.lower, Text.lowerAfter, if_neg hsigma, Text.lowerAfter, List.append_nil]
    rw [hlower]

/-- The number of letters in a text. -/
def letters (s : String) : Nat :=
  s.toList.countP Text.isLetter

/-- The number of vowels in a text. -/
def vowels (s : String) : Nat :=
  s.toList.countP fun c => IsVowel c

/-- A text that is not empty is taken for gibberish if it has fewer than three letters, fewer than
one vowel for five letters, or at least two characters too many in its runs: in one run of five or
in two runs of four. -/
theorem isLikelyGibberish_iff (s : String) :
    (isLikelyGibberish s = true ↔
      s ≠ "" ∧ (letters s < 3 ∨ 5 * vowels s < letters s ∨ 2 ≤ excess (runs s.toList))) ∧
    (2 ≤ excess (runs s.toList) ↔ (∃ run ∈ runs s.toList, 5 ≤ run.length) ∨
      2 ≤ (runs s.toList).countP fun run => 4 ≤ run.length) := by
  have hvowels : s.toList.countP isVowel = vowels s :=
    List.countP_congr fun c _ => by rw [isVowel_iff, decide_eq_true_iff]
  refine ⟨?_, two_le_excess_iff _⟩
  rw [isLikelyGibberish, hvowels, ← letters, repeats_eq_excess (areRuns_runs s.toList),
    Nat.mul_comm 5]
  simp [or_assoc]

/-- Two runs of four are too many wherever they stand, and one is not. -/
example : isLikelyGibberish "aaaa or eeee" = true ∧ isLikelyGibberish "aaaa or eee" = false := by
  decide +kernel

end DeckPlan.Guard
