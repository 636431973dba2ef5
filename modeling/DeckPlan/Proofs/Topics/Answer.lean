import DeckPlan.Proofs.Text.Occurrence
import DeckPlan.Proofs.Text.Trim
import DeckPlan.Topics.Answer

/-!
# Finding the JSON text in an answer

A JSON text is a container, an array or an object, from its opening bracket to its closing one. In
an answer there may be words around it, and a block of code around all of that.
`isReadAs_of_wrapped` says that whatever the text holds, brackets, fences and line breaks included,
it is found again as long as no bracket opens before it and none of its kind closes after it.

* `unfenced_block`: the inside of a block of code goes from its first line break to its last fence,
* `payload_eq`: of what is left, the payload goes from the first bracket that opens to the last one
  that closes,
* `isReading_readTopics`: an answer is read as what is found in it.
-/

namespace DeckPlan

/-! ## Containers -/

namespace Json.Container

/-- The bracket in front. -/
def opening : Container → Char
  | array => '['
  | object => '\x7b'

/-- The bracket at the end. -/
def closing : Container → Char
  | array => ']'
  | object => '\x7d'

/-- The text starts and ends with the brackets of the container. -/
structure Encloses (container : Container) (text : String) : Prop where
  first : text.toList.head? = some container.opening
  last : text.toList.getLast? = some container.closing

variable (container : Container)

theorem isOpening_opening : Topics.isOpening container.opening = true := by
  cases container <;> decide

theorem isBlank_opening : Text.isBlank container.opening = false := by
  cases container <;> decide

theorem isBlank_closing : Text.isBlank container.closing = false := by
  cases container <;> decide

end Json.Container

namespace Topics

open Json (Container)

/-! ## The payload of an answer -/

section Payload

variable {container : Container} {answer before text after : List Char}

/-- An answer is read from the first bracket that opens. -/
theorem fromOpening_append {c : Char} (hfirst : text.head? = some c) (hopens : isOpening c = true)
    (hbefore : ∀ d ∈ before, isOpening d = false) :
    fromOpening (before ++ text ++ after) = text ++ after := by
  have hstart : (text ++ after).head? = some c := by
    rw [List.head?_append, hfirst, Option.some_or]
  have hskip : before.dropWhile (fun d => !isOpening d) = [] := by
    rw [List.dropWhile_eq_nil_iff]
    intro d hd
    simp [hbefore d hd]
  rw [fromOpening, List.append_assoc, Text.dropWhile_append_of_head? hstart (by simp [hopens]),
    hskip, List.nil_append]
  -- There is something left: the text itself.
  split
  · next hnil =>
    rw [hnil] at hstart
    cases hstart
  · rfl

/-- There is nothing to trim off a text with brackets at its ends. -/
theorem trim_eq_self (hfirst : text.head? = some container.opening)
    (hlast : text.getLast? = some container.closing) : Text.trim text = text := by
  apply Text.trimOff_eq_self
  · intro c hc
    rw [hfirst] at hc
    exact Option.some.inj hc ▸ container.isBlank_opening
  · intro c hc
    rw [hlast] at hc
    exact Option.some.inj hc ▸ container.isBlank_closing

/-- An answer is read up to the last bracket that closes. -/
theorem upToLast_append (hfirst : text.head? = some container.opening)
    (hlast : text.getLast? = some container.closing) (hafter : container.closing ∉ after) :
    upToLast container.closing (text ++ after) = text := by
  have hsplit : text.dropLast ++ [container.closing] = text :=
    List.dropLast_append_getLast? _ hlast
  have hthrough : Text.throughLast container.closing (text ++ after) = text := by
    calc Text.throughLast container.closing (text ++ after)
        = Text.throughLast container.closing (text.dropLast ++ container.closing :: after) := by
          rw [List.append_cons, hsplit]
      _ = text.dropLast ++ [container.closing] := Text.throughLast_append hafter
      _ = text := hsplit
  rw [upToLast, hthrough]
  split
  · cases hfirst
  · exact trim_eq_self hfirst hlast

theorem payload_of_opening {rest : List Char}
    (h : fromOpening (unfenced (Text.trim answer)) = container.opening :: rest) :
    payload answer = upToLast container.closing (container.opening :: rest) := by
  rw [payload, h]
  cases container <;> rfl

/-- Trimming takes away only what stands around a text with brackets at its ends. -/
theorem exists_trim_eq (hfirst : text.head? = some container.opening)
    (hlast : text.getLast? = some container.closing) :
    ∃ front back, front ⊆ before ∧ back ⊆ after ∧
      Text.trim (before ++ text ++ after) = front ++ text ++ back := by
  refine ⟨before.dropWhile Text.isBlank, (after.reverse.dropWhile Text.isBlank).reverse, ?_, ?_, ?_⟩
  · exact (List.dropWhile_sublist _).subset
  · intro c hc
    exact List.mem_reverse.1 ((List.dropWhile_sublist _).subset (List.mem_reverse.1 hc))
  · exact Text.trimOff_append hfirst container.isBlank_opening hlast container.isBlank_closing

/-- The payload goes from the first bracket that opens to the last one that closes. -/
theorem payload_eq (hfirst : text.head? = some container.opening)
    (hlast : text.getLast? = some container.closing)
    (hbefore : ∀ c ∈ before, isOpening c = false) (hafter : container.closing ∉ after)
    (hanswer : unfenced (Text.trim answer) = Text.trim (before ++ text ++ after)) :
    payload answer = text := by
  obtain ⟨front, back, hfront, hback, htrim⟩ : ∃ front back, front ⊆ before ∧ back ⊆ after ∧
      Text.trim (before ++ text ++ after) = front ++ text ++ back := exists_trim_eq hfirst hlast
  have hfrom : fromOpening (unfenced (Text.trim answer)) = text ++ back := by
    rw [hanswer, htrim]
    exact fromOpening_append hfirst container.isOpening_opening fun c hc => hbefore c (hfront hc)
  obtain ⟨rest, hrest⟩ := List.head?_eq_some_iff.1 hfirst
  have hopening : text ++ back = container.opening :: (rest ++ back) := by
    rw [hrest, List.cons_append]
  rw [payload_of_opening (hfrom.trans hopening), ← hopening]
  exact upToLast_append hfirst hlast fun hmem => hafter (hback hmem)

/-! ## Blocks of code -/

/-- An answer without a fence is taken as it is. -/
theorem unfenced_of_unmarked (h : ¬ fence <+: answer) : unfenced answer = answer := by
  rw [unfenced, if_neg]
  rwa [List.isPrefixOf_iff_prefix]

/-- The inside of a block of code goes from the first line break to the last fence. -/
theorem unfenced_block {info body tail : List Char} (hinfo : '\n' ∉ info)
    (htail : Char.ofNat 0x60 ∉ tail) :
    unfenced (fence ++ info ++ '\n' :: (body ++ fence ++ tail)) = Text.trim body := by
  have hstart : fence.isPrefixOf (fence ++ info ++ '\n' :: (body ++ fence ++ tail)) = true := by
    rw [List.isPrefixOf_iff_prefix, List.append_assoc]
    exact List.prefix_append _ _
  have hline : '\n' ∉ fence ++ info := by
    rw [List.mem_append, not_or]
    exact ⟨by decide, hinfo⟩
  have hbreak : Text.cut? ['\n'] (fence ++ info ++ '\n' :: (body ++ fence ++ tail)) =
      some (fence ++ info, body ++ fence ++ tail) := by
    rw [List.append_cons]
    exact Text.cut?_append rfl hline
  have hfence : Text.cutLast? fence (body ++ fence ++ tail) = some (body, tail) :=
    Text.cutLast?_append rfl htail
  rw [unfenced, if_pos hstart, hbreak]
  simp only [Option.map_some, Option.getD_some, hfence]

/-- Blanks around a block of code do not count. -/
theorem unfenced_trim_block {blanks info body tail : List Char}
    (hblanks : ∀ c ∈ blanks, Text.isBlank c = true) (hinfo : '\n' ∉ info)
    (htail : Char.ofNat 0x60 ∉ tail) :
    unfenced (Text.trim (blanks ++ (fence ++ info ++ '\n' :: (body ++ fence)) ++ tail)) =
      Text.trim body := by
  have hfirst : (fence ++ info ++ '\n' :: (body ++ fence)).head? = some (Char.ofNat 0x60) := rfl
  have hlast : (fence ++ info ++ '\n' :: (body ++ fence)).getLast? = some (Char.ofNat 0x60) := by
    rw [List.append_cons, ← List.append_assoc, List.getLast?_append]
    rfl
  have hblank : Text.isBlank (Char.ofNat 0x60) = false := by decide
  have hskip : blanks.dropWhile Text.isBlank = [] := List.dropWhile_eq_nil_iff.2 hblanks
  have hrest : Char.ofNat 0x60 ∉ (tail.reverse.dropWhile Text.isBlank).reverse := by
    intro hmem
    have hmem' := (List.dropWhile_sublist _).subset (List.mem_reverse.1 hmem)
    exact htail (List.mem_reverse.1 hmem')
  rw [Text.trim, Text.trimOff_append hfirst hblank hlast hblank, hskip, List.nil_append,
    ← unfenced_block hinfo hrest]
  simp only [List.append_assoc, List.cons_append]

end Payload

/-! ## Reading -/

/-- What a JSON text gives as topics: those of an array of objects, or a failure that tells what is
wrong with the text. -/
inductive IsReading (text : String) : Except Fault (List Fields) → Prop
  | topics {topics : List Fields} :
      Json.read text = .ok (.arr (topics.map .obj)) → IsReading text (.ok topics)
  | unreadable {problem : Json.ReadProblem} :
      Json.read text = .error problem → IsReading text (.error (.unreadable text problem))
  | notTopics {value : Json} :
      Json.read text = .ok value → (∀ topics : List Fields, value ≠ .arr (topics.map .obj)) →
        IsReading text (.error .notTopics)

theorem fields?_eq_some {value : Json} {fields : Fields} :
    fields? value = some fields ↔ value = .obj fields := by
  cases value <;> simp [fields?]

/-- A list holds topics if all its items are objects. -/
theorem mapM_fields?_eq_some {items : List Json} {topics : List Fields} :
    items.mapM fields? = some topics ↔ items = topics.map .obj := by
  induction items generalizing topics with
  | nil => cases topics <;> simp
  | cons item items ih =>
    cases topics with
    | nil => simp [Option.bind_eq_some_iff]
    | cons topic topics => simp [Option.bind_eq_some_iff, fields?_eq_some, ih]

/-- An answer is read as the JSON text that is found in it. -/
theorem isReading_readTopics (answer : String) :
    IsReading (extractJson answer) (readTopics answer) := by
  -- The text is not to be read while the equation of the definition is looked for.
  delta readTopics
  dsimp only
  split
  · next problem hread => exact .unreadable hread
  · next items hread =>
    split
    · next topics htopics =>
      rw [mapM_fields?_eq_some.1 htopics] at hread
      exact .topics hread
    · next hnone =>
      refine .notTopics hread fun topics heq => ?_
      rw [mapM_fields?_eq_some.2 (Json.arr.inj heq)] at hnone
      cases hnone
  · next value hno hread => exact .notTopics hread fun topics heq => hno _ heq

/-- The JSON text that is found in the answer is the given one, and the answer is read as that text
is. -/
structure IsReadAs (answer text : String) : Prop where
  extractJson_eq : extractJson answer = text
  readTopics_eq : readTopics answer = readTopics text
  isReading : IsReading text (readTopics answer)

/-- Answers with the same payload are read alike. -/
theorem readTopics_congr {first second : String} (h : extractJson first = extractJson second) :
    readTopics first = readTopics second := by
  delta readTopics
  rw [h]

theorem extractJson_eq {answer text : String} (h : payload answer.toList = text.toList) :
    extractJson answer = text := by
  rw [extractJson, h, String.ofList_toList]

/-! ## Wrapped texts -/

section Wrapped

variable {container : Container} {text before after : String}

/-- Words around a text do not hide it if they do not start a block of code. -/
theorem payload_of_words (htext : container.Encloses text)
    (hbefore : ∀ c ∈ before.toList, isOpening c = false)
    (hafter : container.closing ∉ after.toList)
    (hfence : ¬ fence <+: Text.trim (before ++ text ++ after).toList) :
    payload (before ++ text ++ after).toList = text.toList := by
  apply payload_eq htext.first htext.last hbefore hafter
  rw [unfenced_of_unmarked hfence, String.toList_append, String.toList_append]

/-- A block of code with a text in it, words around the text, and blanks around the block. -/
def blockOf (blanks info inside tail : String) : String :=
  blanks ++ String.ofList fence ++ info ++ "\n" ++ inside ++ String.ofList fence ++ tail

/-- A text is found inside of a block of code as it is without the block. -/
theorem payload_of_block {blanks info tail : String} (htext : container.Encloses text)
    (hbefore : ∀ c ∈ before.toList, isOpening c = false)
    (hafter : container.closing ∉ after.toList)
    (hblanks : Text.isBlankText blanks = true) (hinfo : '\n' ∉ info.toList)
    (htail : Char.ofNat 0x60 ∉ tail.toList) :
    payload (blockOf blanks info (before ++ text ++ after) tail).toList = text.toList := by
  have hblock : (blockOf blanks info (before ++ text ++ after) tail).toList =
      blanks.toList ++ (fence ++ info.toList ++ '\n' ::
        ((before.toList ++ text.toList ++ after.toList) ++ fence)) ++ tail.toList := by
    simp [blockOf]
  apply payload_eq htext.first htext.last hbefore hafter
  rw [hblock]
  exact unfenced_trim_block (by simpa [Text.isBlankText] using hblanks) hinfo htail

/-- A text with brackets at its ends is an answer too: one with nothing around it. -/
theorem extractJson_of_encloses (htext : container.Encloses text) : extractJson text = text := by
  apply extractJson_eq
  have hfence : ¬ fence <+: Text.trim ("" ++ text ++ "").toList := by
    rw [String.empty_append, String.append_empty, trim_eq_self htext.first htext.last]
    rintro ⟨rest, hrest⟩
    have hfirst := htext.first
    rw [← hrest] at hfirst
    -- A fence starts with a character that is no bracket.
    have hbracket : Char.ofNat 0x60 = container.opening := Option.some.inj hfirst
    revert hbracket
    cases container <;> decide
  simpa using payload_of_words htext (by simp) (by simp) hfence

/-- A text that is found in an answer is what the answer is read as. -/
theorem isReadAs_of_payload {answer : String} (htext : container.Encloses text)
    (h : payload answer.toList = text.toList) : IsReadAs answer text := by
  have hanswer : extractJson answer = text := extractJson_eq h
  exact ⟨hanswer, readTopics_congr (hanswer.trans (extractJson_of_encloses htext).symm),
    hanswer ▸ isReading_readTopics answer⟩

end Wrapped

/-- Whatever stands in a text with brackets at its ends, the text is found in an answer with words
around it, and also if all of that is the inside of a block of code. -/
theorem isReadAs_of_wrapped (container : Container) (before text after : String)
    (htext : container.Encloses text)
    (hsquare : '[' ∉ before.toList) (hcurly : '\x7b' ∉ before.toList)
    (hafter : container.closing ∉ after.toList) :
    (¬ fence <+: Text.trim (before ++ text ++ after).toList →
        IsReadAs (before ++ text ++ after) text) ∧
      ∀ blanks info tail : String, Text.isBlankText blanks = true → '\n' ∉ info.toList →
        Char.ofNat 0x60 ∉ tail.toList →
          IsReadAs (blockOf blanks info (before ++ text ++ after) tail) text := by
  have hbefore : ∀ c ∈ before.toList, isOpening c = false := by
    intro c hc
    have hne : c ≠ '[' ∧ c ≠ '\x7b' := ⟨fun heq => hsquare (heq ▸ hc), fun heq => hcurly (heq ▸ hc)⟩
    simpa [isOpening] using hne
  constructor
  · intro hfence
    exact isReadAs_of_payload htext (payload_of_words htext hbefore hafter hfence)
  · intro blanks info tail hblanks hinfo htail
    exact isReadAs_of_payload htext
      (payload_of_block htext hbefore hafter hblanks hinfo htail)

/-- Topics with a fence and brackets in a summary. -/
def trickyTopics : String :=
  "[\x7b\"topic\": \"a ] b\", \"summary\": \"```\\n[\"\x7d]"

/-- The topics are found among words, in a block of code and in both. -/
theorem isReadAs_of_trickyTopics :
    IsReadAs ("Here you are:\n" ++ trickyTopics ++ " Good luck \x7d") trickyTopics ∧
      IsReadAs (blockOf " \n" "json" ("``" ++ trickyTopics ++ "`") "\n") trickyTopics := by
  have htext : Container.array.Encloses trickyTopics := ⟨by decide, by decide⟩
  constructor
  · exact (isReadAs_of_wrapped .array _ _ _ htext (by decide) (by decide) (by decide)).1 (by decide)
  · exact (isReadAs_of_wrapped .array _ _ _ htext (by decide) (by decide) (by decide)).2 _ _ _
      (by decide) (by decide) (by decide)

end Topics

end DeckPlan
