import DeckPlan.Text.Blank

/-!
# Texts without blanks at their ends

Trimming takes characters away (`trim_sublist`) and leaves a text alone that neither starts nor ends
with a blank (`trimOff_eq_self`), so trimming a second time changes nothing (`trim_trim`). A part of
a text with wanted characters at both of its ends stays whole (`trimOff_append`).
-/

namespace DeckPlan.Text

variable {unwanted : Char → Bool} {s : List Char}

/-- Trimming takes characters out and puts none in. -/
theorem trimOff_sublist (unwanted : Char → Bool) (s : List Char) :
    (trimOff unwanted s).Sublist s := by
  have hback := (List.dropWhile_suffix (l := (s.dropWhile unwanted).reverse) unwanted).sublist
  rw [trimOff]
  exact (List.reverse_sublist.1 (by rwa [List.reverse_reverse])).trans (List.dropWhile_sublist _)

theorem trim_sublist (s : List Char) : (trim s).Sublist s :=
  trimOff_sublist isBlank s

/-- A text that starts with something else loses nothing. -/
theorem dropWhile_eq_self (h : ∀ c, s.head? = some c → unwanted c = false) :
    s.dropWhile unwanted = s := by
  cases s with
  | nil => rfl
  | cons c rest => rw [List.dropWhile_cons_of_neg (by simp [h c rfl])]

/-- A text with wanted characters at both ends stays as it is. -/
theorem trimOff_eq_self (hhead : ∀ c, s.head? = some c → unwanted c = false)
    (hlast : ∀ c, s.getLast? = some c → unwanted c = false) : trimOff unwanted s = s := by
  rw [trimOff, dropWhile_eq_self hhead, dropWhile_eq_self, List.reverse_reverse]
  intro c hc
  exact hlast c (by rwa [List.head?_reverse] at hc)

/-- Trimming a second time changes nothing. -/
theorem trim_trim (s : List Char) : trim (trim s) = trim s :=
  trimOff_eq_self (fun _ => head?_trimOff) (fun _ => getLast?_trimOff)

/-- What is taken off the front ends before the first wanted character. -/
theorem dropWhile_append_of_head? {before : List Char} {c : Char} (hhead : s.head? = some c)
    (hc : unwanted c = false) :
    (before ++ s).dropWhile unwanted = before.dropWhile unwanted ++ s := by
  have hself : s.dropWhile unwanted = s := by
    apply dropWhile_eq_self
    intro d hd
    rw [hhead] at hd
    exact Option.some.inj hd ▸ hc
  rw [List.dropWhile_append, hself]
  split
  · next hnothing => rw [List.isEmpty_iff.1 hnothing, List.nil_append]
  · rfl

/-- A part with wanted characters at both ends is kept, and each side of it is trimmed apart. -/
theorem trimOff_append {before after : List Char} {first last : Char}
    (hhead : s.head? = some first) (hfirst : unwanted first = false)
    (hlast : s.getLast? = some last) (hend : unwanted last = false) :
    trimOff unwanted (before ++ s ++ after) =
      before.dropWhile unwanted ++ s ++ (after.reverse.dropWhile unwanted).reverse := by
  have hstart : (s ++ after).head? = some first := by rw [List.head?_append, hhead, Option.some_or]
  have hback : (before.dropWhile unwanted ++ s).reverse.head? = some last := by
    rw [List.head?_reverse, List.getLast?_append, hlast, Option.some_or]
  rw [trimOff, List.append_assoc, dropWhile_append_of_head? hstart hfirst, ← List.append_assoc,
    List.reverse_append, dropWhile_append_of_head? hback hend, List.reverse_append,
    List.reverse_reverse]

end DeckPlan.Text
