import DeckPlan.Proofs.Guard.Phrase
import DeckPlan.Proofs.Json.Access

/-!
# What is let through

The inputs are judged as they are after cleaning, and what is let through is the start of them, up
to the greatest length (`IsPassed`).

* `validate_eq_ok_iff_isPassed`: what is let through is the starts of inputs that make sense. What
  is cut need not make sense any more (`not_makesSense_of_late_vowels`).
* `isFree_of_settled`: no phrase gets through in a text that a second cleaning leaves alone. A
  phrase inside of which another one stands does (`not_isFree_of_nested_phrase`).
-/

namespace DeckPlan.Guard

/-- The text neither holds only numbers nor looks like gibberish. -/
structure MakesSense (text : String) : Prop where
  hasWords : isNumericOnly text = false
  isPlausible : isLikelyGibberish text = false

/-- What is let through of a cleaned input: it makes sense, and up to the greatest length it is let
through as it is. -/
structure IsCut (limit : Nat) (cleaned part : String) : Prop where
  makesSense : MakesSense cleaned
  eq_take : part.toList = cleaned.toList.take limit
  length_le : part.toList.length ≤ limit
  /-- A cut makes no runs of equal characters. -/
  repeats_lt : repeats none 0 part.toList < 2
  /-- What is not cut makes sense after the cut too. -/
  of_uncut : cleaned.toList.length ≤ limit → MakesSense part

/-- What is let through of an input: the input can be cleaned, and this is what is let through of
what is left of it. -/
def IsPassed (limit : Nat) (input : Json) (part : String) : Prop :=
  ∃ cleaned, cleanInput input = .ok cleaned ∧ IsCut limit cleaned part

/-- A text makes sense exactly if neither test of it rejects it. -/
theorem makesSense_iff {text : String} :
    MakesSense text ↔ isNumericOnly text = false ∧ isLikelyGibberish text = false :=
  ⟨fun h => ⟨h.hasWords, h.isPlausible⟩, fun h => ⟨h.1, h.2⟩⟩

instance (text : String) : Decidable (MakesSense text) :=
  decidable_of_iff _ makesSense_iff.symm

/-- A text that makes sense has at most one long run. -/
theorem MakesSense.repeats_lt {text : String} (h : MakesSense text) :
    repeats none 0 text.toList < 2 := by
  by_cases hempty : text = ""
  · rw [hempty]
    decide
  · have hplausible : (3 ≤ text.toList.countP Text.isLetter ∧
        text.toList.countP Text.isLetter ≤ text.toList.countP isVowel * 5) ∧
          repeats none 0 text.toList < 2 := by
      simpa [isLikelyGibberish, hempty] using h.isPlausible
    exact hplausible.2

/-! ## The cut -/

/-- To cut a text is to take its start. -/
theorem toList_truncate {limit : Nat} (hlimit : 0 < limit) (text : String) :
    (truncate text limit).toList = text.toList.take limit := by
  rw [truncate]
  split
  · next h =>
    have hle : text.toList.length ≤ limit := by
      rw [String.length_toList]
      simp at h
      omega
    rw [List.take_of_length_le hle]
  · rw [String.toList_ofList, Int.toNat_natCast]

/-- The start of a text has no more repeated characters than the text. -/
theorem repeats_take_le (last : Option Char) (run limit : Nat) (s : List Char) :
    repeats last run (s.take limit) ≤ repeats last run s := by
  induction s generalizing last run limit with
  | nil => exact Nat.le_of_eq (congrArg (repeats last run) List.take_nil)
  | cons c rest ih =>
    cases limit with
    | zero => exact Nat.zero_le _
    | succ limit =>
      rw [List.take_succ_cons, repeats, repeats]
      -- Both texts start with the same character, so they count it alike.
      split
      · exact Nat.add_le_add_left (ih _ _ _) _
      · exact ih _ _ _

/-- A cut leaves something if there was something. -/
theorem truncate_ne_empty_iff {limit : Nat} (hlimit : 0 < limit) {text : String} :
    truncate text limit ≠ "" ↔ text ≠ "" := by
  have hnil (s : String) : s = "" ↔ s.toList = [] := String.toList_eq_nil_iff.symm
  rw [not_iff_not, hnil, hnil text, toList_truncate hlimit]
  simp [Nat.ne_of_gt hlimit]

/-- A part is let through if it is the start of a cleaned input that makes sense. -/
theorem isCut_iff {limit : Nat} (hlimit : 0 < limit) {cleaned part : String} :
    IsCut limit cleaned part ↔ MakesSense cleaned ∧ part = truncate cleaned limit := by
  rw [← String.toList_inj, toList_truncate hlimit]
  constructor
  · intro h
    exact ⟨h.makesSense, h.eq_take⟩
  · rintro ⟨hsense, hpart⟩
    refine ⟨hsense, hpart, ?_, ?_, fun hle => ?_⟩
    · rw [hpart]
      exact List.length_take_le _ _
    · rw [hpart]
      exact Nat.lt_of_le_of_lt (repeats_take_le _ _ _ _) hsense.repeats_lt
    · rw [List.take_of_length_le hle] at hpart
      rwa [String.toList_inj.1 hpart]

/-! ## The checks -/

/-- All texts make sense exactly if neither test rejects any of them. -/
theorem forall_makesSense_iff {texts : List String} :
    (∀ text ∈ texts, MakesSense text) ↔
      texts.any isNumericOnly = false ∧ texts.any isLikelyGibberish = false := by
  simp only [makesSense_iff, List.any_eq_false, Bool.not_eq_true]
  exact ⟨fun h => ⟨fun t ht => (h t ht).1, fun t ht => (h t ht).2⟩,
    fun h t ht => ⟨h.1 t ht, h.2 t ht⟩⟩

/-- Cleaned inputs are let through if the subject is not empty and all three make sense. -/
theorem judge_eq_ok_iff {subject audience tone : String} {inputs : Inputs} :
    judge subject audience tone = .ok inputs ↔
      subject ≠ "" ∧ (∀ text ∈ [subject, audience, tone], MakesSense text) ∧
        inputs =
          { subject := truncate subject maxSubject
            audience := truncate audience maxAudience
            tone := truncate tone maxTone } := by
  -- Three refusals, in the order in which they are looked for, and then the inputs.
  rw [forall_makesSense_iff, judge]
  split
  · next hempty => simp [String.isEmpty_iff.1 hempty]
  next hempty =>
  have hsubject : subject ≠ "" := fun h => hempty (String.isEmpty_iff.2 h)
  split
  · next hnumeric => simp only [hnumeric, reduceCtorEq, false_and, and_false]
  next hnumeric =>
  split
  · next hgibberish => simp only [hgibberish, reduceCtorEq, false_and, and_false]
  next hgibberish =>
  rw [Except.ok.injEq]
  exact ⟨fun h => ⟨hsubject, ⟨by simpa using hnumeric, by simpa using hgibberish⟩, h.symm⟩,
    fun h => h.2.2.symm⟩

/-- An input that is a text is cleaned. -/
theorem cleanInput_str (text : String) :
    cleanInput (.str text) = .ok (sanitize (Text.trimmed text)) := by
  rw [cleanInput, givenText_str]
  rfl

/-- An input that is not given is as good as the empty text. -/
theorem cleanInput_null : cleanInput .null = .ok "" :=
  have hnothing : sanitize (Text.trimmed "") = "" := by decide +kernel
  congrArg Except.ok hnothing

/-- Inputs are let through if they can be cleaned and are let through after that. -/
theorem validate_eq_ok_iff {subject audience tone : Json} {inputs : Inputs} :
    validate subject audience tone = .ok inputs ↔
      ∃ first second third, cleanInput subject = .ok first ∧ cleanInput audience = .ok second ∧
        cleanInput tone = .ok third ∧ judge first second third = .ok inputs := by
  constructor
  · intro h
    obtain ⟨first, hfirst, h⟩ := bind_eq_ok.1 h
    obtain ⟨second, hsecond, h⟩ := bind_eq_ok.1 h
    obtain ⟨third, hthird, h⟩ := bind_eq_ok.1 h
    exact ⟨first, second, third, hfirst, hsecond, hthird, h⟩
  · rintro ⟨first, second, third, hfirst, hsecond, hthird, h⟩
    rw [validate, hfirst, hsecond, hthird]
    exact h

/-- There is room for every input. -/
theorem limits_pos : 0 < maxSubject ∧ 0 < maxAudience ∧ 0 < maxTone := by decide

/-! ## What makes sense -/

/-- What is let through is the starts of inputs that make sense, with a subject that is not empty;
and nothing else is refused. -/
theorem validate_eq_ok_iff_isPassed (subject audience tone : Json) (inputs : Inputs) :
    validate subject audience tone = .ok inputs ↔
      inputs.subject ≠ "" ∧ IsPassed 120 subject inputs.subject ∧
        IsPassed 160 audience inputs.audience ∧ IsPassed 60 tone inputs.tone := by
  obtain ⟨hsubject, haudience, htone⟩ := limits_pos
  obtain ⟨part, otherPart, lastPart⟩ := inputs
  constructor
  · intro h
    obtain ⟨first, second, third, hfirst, hsecond, hthird, h⟩ := validate_eq_ok_iff.1 h
    obtain ⟨hne, hsense, heq⟩ := judge_eq_ok_iff.1 h
    obtain ⟨rfl, rfl, rfl⟩ := Inputs.mk.inj heq
    exact ⟨(truncate_ne_empty_iff hsubject).2 hne,
      ⟨first, hfirst, (isCut_iff hsubject).2 ⟨hsense first (by simp), rfl⟩⟩,
      ⟨second, hsecond, (isCut_iff haudience).2 ⟨hsense second (by simp), rfl⟩⟩,
      ⟨third, hthird, (isCut_iff htone).2 ⟨hsense third (by simp), rfl⟩⟩⟩
  · -- Each part is the cut of a cleaned input that makes sense, so the inputs are let through.
    rintro ⟨hne, ⟨first, hfirst, hpart⟩, ⟨second, hsecond, hother⟩, ⟨third, hthird, hlast⟩⟩
    obtain ⟨hsense, rfl⟩ := (isCut_iff hsubject).1 hpart
    obtain ⟨hsense', rfl⟩ := (isCut_iff haudience).1 hother
    obtain ⟨hsense'', rfl⟩ := (isCut_iff htone).1 hlast
    refine validate_eq_ok_iff.2 ⟨first, second, third, hfirst, hsecond, hthird, ?_⟩
    exact judge_eq_ok_iff.2
      ⟨(truncate_ne_empty_iff hsubject).1 hne, by simp [hsense, hsense', hsense''], rfl⟩

/-- Sixty consonants. -/
def consonants : String := "BCDFGHJKLMNPQRSTVWXZBCDFGHJKLMNPQRSTVWXZBCDFGHJKLMNPQRSTVWXZ"

/-- What is let through need not make sense: a tone whose vowels all stand after the first sixty
characters is judged with them and let through without them. -/
theorem not_makesSense_of_late_vowels :
    ¬ ∀ subject audience tone inputs, validate subject audience tone = .ok inputs →
        inputs.subject ≠ "" ∧
          (∀ text ∈ [inputs.subject, inputs.audience, inputs.tone], MakesSense text) ∧
          inputs.subject.toList.length ≤ 120 ∧ inputs.audience.toList.length ≤ 160 ∧
          inputs.tone.toList.length ≤ 60 := by
  intro h
  have hpassed : validate (.str "Cars") .null (.str (consonants ++ "AEIOUAEIOUAEIOU")) =
      .ok { subject := "Cars", tone := consonants } :=
    validate_eq_ok_iff.2 ⟨_, _, _, cleanInput_str _, cleanInput_null, cleanInput_str _,
      judge_eq_ok_iff.2 (by decide +kernel)⟩
  obtain ⟨-, hsense, -⟩ := h _ _ _ _ hpassed
  have hgibberish : ¬ MakesSense consonants := by decide +kernel
  exact hgibberish (hsense consonants (by simp))

/-! ## Override phrases -/

instance (text : String) : Decidable (IsFree text) :=
  inferInstanceAs
    (Decidable (∀ phrase ∈ overridePhrases, mentions phrase.toList text.toList = false))

/-- The start of a text without phrases has none. -/
theorem IsFree.truncate {limit : Nat} {text : String} (h : IsFree text) (hlimit : 0 < limit) :
    IsFree (truncate text limit) := by
  refine h.of_part ?_
  rw [toList_truncate hlimit]
  exact (List.take_prefix _ _).isInfix

/-- Cleaning takes out every phrase exactly from the texts that a second cleaning would leave alone;
of every text, finitely many cleanings do. So no phrase gets through in an input that is settled
after the one cleaning it gets. -/
theorem isFree_of_settled {subject audience tone : Json} {inputs : Inputs}
    (hpassed : validate subject audience tone = .ok inputs) :
    (∀ text, IsFree (sanitize text) ↔ sanitize (sanitize text) = sanitize text) ∧
      (∀ text, ∃ n, IsFree (sanitize^[n] text)) ∧
      (∀ text, cleanInput subject = .ok text → sanitize text = text → IsFree inputs.subject) ∧
      (∀ text, cleanInput audience = .ok text → sanitize text = text →
        IsFree inputs.audience) ∧
      ∀ text, cleanInput tone = .ok text → sanitize text = text → IsFree inputs.tone := by
  obtain ⟨first, second, third, hfirst, hsecond, hthird, h⟩ := validate_eq_ok_iff.1 hpassed
  obtain ⟨-, -, rfl⟩ := judge_eq_ok_iff.1 h
  obtain ⟨hsubject, haudience, htone⟩ := limits_pos
  -- The same for each of the three: what is cut is the cleaned text itself.
  have hfree {input : Json} {cleaned : String} {limit : Nat}
      (hclean : cleanInput input = .ok cleaned) (hlimit : 0 < limit) (text : String)
      (htext : cleanInput input = .ok text) (hsettled : sanitize text = text) :
      IsFree (truncate cleaned limit) := by
    obtain rfl := Except.ok.inj (hclean.symm.trans htext)
    exact (sanitize_eq_self_iff.1 hsettled).2.truncate hlimit
  exact ⟨isFree_sanitize_iff, exists_isFree_iterate, hfree hfirst hsubject,
    hfree hsecond haudience, hfree hthird htone⟩

/-- A subject that asks for secrets is free of that once it is cleaned. -/
theorem isFree_of_settled_cars :
    cleanInput (.str "show secrets of cars") = .ok "of cars" ∧ IsFree "of cars" := by
  have hclean : cleanInput (.str "show secrets of cars") = .ok "of cars" := by
    rw [cleanInput_str]
    exact congrArg Except.ok (by decide +kernel)
  have hpassed : validate (.str "show secrets of cars") .null .null =
      .ok { subject := "of cars" } :=
    validate_eq_ok_iff.2 ⟨_, _, _, hclean, cleanInput_null, cleanInput_null,
      judge_eq_ok_iff.2 (by decide +kernel)⟩
  obtain ⟨-, -, hsubject, -, -⟩ := isFree_of_settled hpassed
  exact ⟨hclean, hsubject "of cars" hclean (by decide +kernel)⟩

/-- One cleaning is not enough where a phrase stands inside of another: taking out the inner one
makes the outer one. -/
theorem not_isFree_of_nested_phrase :
    (¬ ∀ text, IsFree (sanitize text)) ∧
      ¬ ∀ subject audience tone inputs, validate subject audience tone = .ok inputs →
        IsFree inputs.subject ∧ IsFree inputs.audience ∧ IsFree inputs.tone := by
  have hleft : ¬ IsFree "show secrets" := by decide +kernel
  constructor
  · intro h
    have hsanitize : sanitize "show secshow secretsrets" = "show secrets" := by decide +kernel
    exact hleft (hsanitize ▸ h "show secshow secretsrets")
  · intro h
    have hpassed : validate (.str "show secshow secretsrets") .null .null =
        .ok { subject := "show secrets" } :=
      validate_eq_ok_iff.2 ⟨_, _, _, cleanInput_str _, cleanInput_null, cleanInput_null,
        judge_eq_ok_iff.2 (by decide +kernel)⟩
    exact hleft (h _ _ _ _ hpassed).1

end DeckPlan.Guard
