import DeckPlan.Image.Score
import DeckPlan.Proofs.Text.Case
import DeckPlan.Proofs.Text.Occurrence
import DeckPlan.Proofs.Text.Run

/-!
# Which terms count

The terms of a query are the runs of at least two characters that can stand in a term
(`areTerms_terms`), and no other texts are (`AreTerms.unique`). They are also the words that are
left when every sign that separates has made room for a space (`terms_eq_words`).

The texts of an image are searched in one, with spaces between. A term holds no blank
(`space_notMem_of_mem_terms`) and lower-case forms do not reach across a space (`lowered_joined`),
so a term counts if one of the texts mentions it (`termScore_eq`). `IsTermwise` collects this.
-/

namespace DeckPlan.Image

/-- The character can stand in a term: it is neither blank nor a sign that separates terms. -/
def IsTermChar (c : Char) : Prop :=
  Text.isBlank c = false ∧ c ∉ separators

/-- The texts are the maximal runs of at least two characters that can stand in a term, in the
lower-case query and in order. -/
def AreTerms (query : String) (found : List String) : Prop :=
  Text.AreRuns IsTermChar 2 (Text.lower query.toList) (found.map String.toList)

/-- The text with a space in place of every sign that separates terms. -/
def spaced (s : List Char) : List Char :=
  s.map fun c => if separators.contains c then ' ' else c

/-- What stands between the blanks of a text. -/
def words (s : List Char) : List (List Char) :=
  (s.splitOnP Text.isBlank).filter fun word => !word.isEmpty

/-- The text has the term in its lower-case form. -/
def Mentions (term text : String) : Prop :=
  term.toList <:+: Text.lower text.toList

instance (term text : String) : Decidable (Mentions term text) :=
  decidable_of_iff _ Text.occursIn_iff

/-- Where the terms of a query stand in it, and which of them count for an image: each term and each
text of the image on its own. -/
structure IsTermwise (query title snippet link : String) : Prop where
  /-- The terms, and no other texts, are the runs of at least two characters. -/
  eq_terms_iff : ∀ found, found = terms query ↔ AreTerms query found
  /-- The terms are the words of at least two characters when spaces replace the signs. -/
  eq_words : terms query = ((words (spaced (Text.lower query.toList))).filter
    fun word => 2 ≤ word.length).map String.ofList
  /-- The lower-case form of the joined texts is that of each text, joined. -/
  lowered : Text.lowered (" ".intercalate [title, snippet, link]) =
    " ".intercalate [Text.lowered title, Text.lowered snippet, Text.lowered link]
  /-- A term occurs in the joined texts if one of them mentions it, and in no other case. -/
  occursIn_iff : ∀ term ∈ terms query, Text.occursIn term.toList
      (Text.lowered (" ".intercalate [title, snippet, link])).toList = true ↔
    Mentions term title ∨ Mentions term snippet ∨ Mentions term link
  /-- Of any terms of the query, those count that one of the texts mentions. -/
  termScore_eq : ∀ found ⊆ terms query, termScore title snippet link found =
    found.countP fun term => Mentions term title ∨ Mentions term snippet ∨ Mentions term link

/-! ## Terms -/

/-- The characters that do not separate terms are those of terms. -/
theorem isSeparator_eq_false_iff {c : Char} : isSeparator c = false ↔ IsTermChar c := by
  simp [isSeparator, IsTermChar]

/-- The terms of a query are its maximal runs of term characters that are long enough. -/
theorem areTerms_terms (query : String) : AreTerms query (terms query) := by
  have hpieces : (terms query).map String.toList =
      ((Text.lower query.toList).splitOnP isSeparator).filter fun piece => 2 ≤ piece.length := by
    simp [terms]
  rw [AreTerms, hpieces]
  exact Text.areRuns_splitOnP Nat.two_pos (fun _ => isSeparator_eq_false_iff) _

/-- A query has its terms in one way only. -/
theorem AreTerms.unique {query : String} {found found' : List String} (h : AreTerms query found)
    (h' : AreTerms query found') : found = found' :=
  List.map_injective_iff.2 (fun _ _ heq => String.toList_inj.1 heq) (Text.AreRuns.unique h h')

/-- A term holds no separator. -/
theorem not_isSeparator_of_mem_terms {query term : String} (h : term ∈ terms query) :
    ∀ c ∈ term.toList, isSeparator c = false := by
  obtain ⟨piece, hpiece, rfl⟩ := List.mem_map.1 h
  rw [String.toList_ofList]
  exact Text.not_of_mem_splitOnP (List.mem_of_mem_filter hpiece)

/-- No term holds a space. -/
theorem space_notMem_of_mem_terms {query term : String} (h : term ∈ terms query) :
    ' ' ∉ term.toList := by
  intro hspace
  have hseparator : isSeparator ' ' = false := not_isSeparator_of_mem_terms h _ hspace
  exact absurd hseparator (by decide)

/-! ## Words -/

/-- The pieces do not change when every sign that separates makes room for a space. -/
theorem splitOnP_spaced (s : List Char) :
    (spaced s).splitOnP Text.isBlank = s.splitOnP isSeparator := by
  have hcut : (fun c => Text.isBlank (if separators.contains c then ' ' else c)) = isSeparator := by
    funext c
    rw [isSeparator]
    split
    · next hsign => rw [hsign, Bool.or_true]; decide
    · next hsign =>
      rw [Bool.not_eq_true] at hsign
      rw [hsign, Bool.or_false]
  rw [spaced, Text.splitOnP_map, hcut]
  -- A piece holds no sign, so it stays as it is.
  refine (List.map_congr_left fun piece hpiece => ?_).trans (List.map_id _)
  refine (List.map_congr_left fun c hc => ?_).trans (List.map_id _)
  obtain ⟨-, hsign⟩ := isSeparator_eq_false_iff.1 (Text.not_of_mem_splitOnP hpiece c hc)
  simp [hsign]

/-- Terms are the words after separators have become spaces. -/
theorem terms_eq_words (query : String) :
    terms query = ((words (spaced (Text.lower query.toList))).filter
      fun word => 2 ≤ word.length).map String.ofList := by
  rw [terms, words, splitOnP_spaced, List.filter_filter]
  -- A piece of two characters is not empty.
  refine congrArg _ (List.filter_congr fun word _ => ?_)
  cases word <;> simp

/-! ## Counting -/

theorem toList_joined (title snippet link : String) :
    (" ".intercalate [title, snippet, link]).toList =
      title.toList ++ ' ' :: (snippet.toList ++ ' ' :: link.toList) := by
  simp

/-- The lower-case forms of joined texts do not depend on each other. -/
theorem lowered_joined (title snippet link : String) :
    Text.lowered (" ".intercalate [title, snippet, link]) =
      " ".intercalate [Text.lowered title, Text.lowered snippet, Text.lowered link] := by
  rw [← String.toList_inj, Text.toList_lowered, toList_joined, toList_joined,
    Text.lower_append_space, Text.lower_append_space]
  simp only [Text.toList_lowered]

/-- A term without a space is found in joined texts if it is found in one of them. -/
theorem occursIn_joined_iff {term : String} (h : ' ' ∉ term.toList) (title snippet link : String) :
    Text.occursIn term.toList
        (Text.lowered (" ".intercalate [title, snippet, link])).toList = true ↔
      ∃ text ∈ [title, snippet, link], Mentions term text := by
  rw [lowered_joined, toList_joined, Text.occursIn_iff, Text.infix_append_cons_iff h,
    Text.infix_append_cons_iff h]
  simp [Mentions]

/-- The address of an image is encrypted if its small letters start with the name of the protocol.
-/
theorem isHttps_iff {url : String} :
    isHttps url = true ↔ "https://".toList <+: Text.lower url.toList := by
  rw [isHttps, List.isPrefixOf_iff_prefix]

/-- Of terms without a space, those count that one of the texts mentions. -/
theorem termScore_eq_countP {found : List String} (h : ∀ term ∈ found, ' ' ∉ term.toList)
    (title snippet link : String) :
    termScore title snippet link found =
      found.countP fun term => ∃ text ∈ [title, snippet, link], Mentions term text := by
  rw [termScore]
  refine List.countP_congr fun term hterm => ?_
  rw [occursIn_joined_iff (h term hterm), decide_eq_true_iff]

/-- The terms that count are those that one of the texts mentions. -/
theorem termScore_eq (query title snippet link : String) :
    termScore title snippet link (terms query) =
      (terms query).countP fun term => ∃ text ∈ [title, snippet, link], Mentions term text :=
  termScore_eq_countP (fun _ => space_notMem_of_mem_terms) title snippet link

/-- The terms of every query are its runs of at least two characters that can stand in a term, and
whatever the texts of an image are, a term counts if one of them mentions it, and only then. -/
theorem isTermwise_terms (query title snippet link : String) :
    IsTermwise query title snippet link where
  eq_terms_iff found := by
    constructor
    · rintro rfl
      exact areTerms_terms query
    · exact fun hfound => hfound.unique (areTerms_terms query)
  eq_words := terms_eq_words query
  lowered := lowered_joined title snippet link
  occursIn_iff term hterm := by
    rw [occursIn_joined_iff (space_notMem_of_mem_terms hterm)]
    simp
  termScore_eq found hfound := by
    rw [termScore_eq_countP fun term hterm => space_notMem_of_mem_terms (hfound hterm)]
    simp

/-- A sigma ends its word also before another text, and two texts do not make one term together. -/
example : termScore "ΟΔΟΣ" "ΑΒ" "" (terms "(οδος)") = 1 ∧
    termScore "car" "bon" "" (terms "carbon") = 0 := by
  decide +kernel

end DeckPlan.Image
