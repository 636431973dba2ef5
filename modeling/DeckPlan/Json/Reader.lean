import DeckPlan.Json.Basic
import DeckPlan.Text.Quoted

/-!
# Reading JSON texts

`Json.read` reads the one value of a text. Beside the standard grammar the words `NaN`,
`Infinity` and `-Infinity` are numbers. A number with a fraction or an exponent is a
floating-point number and any other is a whole number of at most `maxDigits` digits. At most
`maxDepth` arrays and objects stand inside of each other.

Every step returns what is left of the text with a proof that it is shorter (`Rest`), which is
why reading ends. An error carries what was left of the text where it was found, so its place in
the text can be computed (`Location.of`).
-/

namespace DeckPlan

namespace Json

/-- Why a text is not JSON. -/
inductive SyntaxProblem where
  | expectedValue
  | expectedKey
  | expectedColon
  | expectedComma
  | unterminatedString
  | controlCharacter
  | invalidEscape
  | invalidUnicodeEscape
  | extraData
  | byteOrderMark
  deriving DecidableEq, Repr

/-- The values that hold other values. -/
inductive Container where
  | array
  | object
  deriving DecidableEq, Repr

/-- What a container is called in messages. -/
def Container.name : Container → String
  | array => "array"
  | object => "object"

/-- Why a text cannot be read. -/
inductive ReadProblem where
  /-- The text is not JSON; `left` characters are left where that shows. -/
  | malformed (problem : SyntaxProblem) (left : Nat)
  /-- A whole number has too many digits. -/
  | tooManyDigits (count : Nat)
  /-- A container stands inside of too many others. -/
  | tooDeep (innermost : Container)
  deriving DecidableEq, Repr

/-- A place in a text: characters before it, line and column. -/
structure Location where
  /-- The number of characters before the place. -/
  position : Nat
  /-- The number of the line, from one on. -/
  line : Nat
  /-- The number of the character in its line, from one on. -/
  column : Nat
  deriving DecidableEq, Repr

/-- The place in `text` with `left` characters after it. -/
def Location.of (text : List Char) (left : Nat) : Location :=
  let before := text.take (text.length - left)
  { position := before.length
    line := before.count '\n' + 1
    column := (before.reverse.takeWhile (· != '\n')).length + 1 }

/-- The greatest number of digits of a whole number. -/
def maxDigits : Nat := 4300

/-- The greatest number of arrays and objects that stand inside of each other. -/
def maxDepth : Nat := 990

/-- What is left of `s` after at least one character. -/
abbrev Rest (s : List Char) := { r : List Char // r.length < s.length }

/-- The blank characters between tokens. -/
def isSpace (c : Char) : Bool :=
  c = ' ' || c = '\t' || c = '\n' || c = '\r'

/-- The text without the blank characters at its start. -/
def skipSpace (s : List Char) : List Char :=
  s.dropWhile isSpace

/-- Skipping blanks leaves no more text than there was. -/
theorem length_skipSpace_le (s : List Char) : (skipSpace s).length ≤ s.length :=
  (List.dropWhile_sublist _).length_le

/-- What is left behind a first character and more is shorter. -/
theorem length_dropWhile_lt (p : Char → Bool) (c : Char) (s : List Char) :
    (s.dropWhile p).length < (c :: s).length :=
  Nat.lt_succ_of_le (List.dropWhile_sublist p).length_le

/-- The value of a hexadecimal digit. -/
def hexValue? (c : Char) : Option Nat :=
  if '0' ≤ c ∧ c ≤ '9' then some (c.toNat - 0x30)
  else if 'a' ≤ c ∧ c ≤ 'f' then some (c.toNat - 0x61 + 10)
  else if 'A' ≤ c ∧ c ≤ 'F' then some (c.toNat - 0x41 + 10)
  else none

/-! ## Strings -/

/-- The code unit written by four hexadecimal digits. The text must go on after them. -/
def codeUnit? (s : List Char) : Option (Nat × Rest s) :=
  match s with
  | a :: b :: c :: d :: e :: r => do
    let a ← hexValue? a
    let b ← hexValue? b
    let c ← hexValue? c
    let d ← hexValue? d
    return (((a * 16 + b) * 16 + c) * 16 + d, ⟨e :: r, by simp⟩)
  | _ => none

/-- Whether a code unit is the first half of a pair. -/
def isHighSurrogate (unit : Nat) : Bool :=
  0xD800 ≤ unit && unit ≤ 0xDBFF

/-- Whether a code unit is the second half of a pair. -/
def isLowSurrogate (unit : Nat) : Bool :=
  0xDC00 ≤ unit && unit ≤ 0xDFFF

/-- The character of a code unit, or the code of half a pair, which is no character. -/
def unitChar (unit : Nat) : Char :=
  if isHighSurrogate unit || isLowSurrogate unit then Text.ofHalf unit else Char.ofNat unit

/-- The character of a pair of code units. -/
def pairChar (high low : Nat) : Char :=
  Char.ofNat (0x10000 + (high - 0xD800) * 0x400 + (low - 0xDC00))

/-- Reads what follows `\u`: one code unit, or two that are a pair. -/
def unicodeEscape? (s : List Char) : Option (Char × Rest s) := do
  let (unit, r) ← codeUnit? s
  match h : r.val with
  | '\\' :: 'u' :: t =>
    match codeUnit? t with
    | some (low, ⟨rest, hrest⟩) =>
      if isHighSurrogate unit && isLowSurrogate low then
        have := r.property
        return (pairChar unit low, ⟨rest, by simp [h] at this; omega⟩)
      -- An escape that is not the second half is read by itself, as the next character.
      else return (unitChar unit, r)
    | none => return (unitChar unit, r)
  | _ => return (unitChar unit, r)

/-- The character that a letter after a backslash stands for. -/
def simpleEscape? (c : Char) : Option Char :=
  if c = Text.doubleQuote || c = '\\' || c = '/' then some c
  else if c = 'b' then some (Char.ofNat 0x08)
  else if c = 'f' then some (Char.ofNat 0x0C)
  else if c = 'n' then some '\n'
  else if c = 'r' then some '\r'
  else if c = 't' then some '\t'
  else none

/-- Reads what follows a backslash in the string whose first quote is that of `opening`. -/
def readEscape (opening s : List Char) : Except ReadProblem (Char × Rest s) :=
  match s with
  | [] => .error (.malformed .unterminatedString opening.length)
  | c :: t =>
    if c = 'u' then
      match unicodeEscape? t with
      | some (char, ⟨r, hr⟩) => .ok (char, ⟨r, by simp; omega⟩)
      | none => .error (.malformed .invalidUnicodeEscape (t.length + 1))
    else
      match simpleEscape? c with
      | some char => .ok (char, ⟨t, by simp⟩)
      | none => .error (.malformed .invalidEscape (t.length + 2))

/-- Reads the rest of the string whose first quote is that of `opening`. -/
def readString (opening s : List Char) : Except ReadProblem (List Char × Rest s) :=
  match s with
  | [] => .error (.malformed .unterminatedString opening.length)
  | c :: t =>
    if c = Text.doubleQuote then .ok ([], ⟨t, by simp⟩)
    else if c = '\\' then
      match readEscape opening t with
      | .error e => .error e
      | .ok (char, ⟨r, hr⟩) =>
        match readString opening r with
        | .error e => .error e
        | .ok (more, ⟨r', hr'⟩) => .ok (char :: more, ⟨r', by simp; omega⟩)
    else if c.toNat < 0x20 then .error (.malformed .controlCharacter (t.length + 1))
    else
      match readString opening t with
      | .error e => .error e
      | .ok (more, ⟨r, hr⟩) => .ok (c :: more, ⟨r, by simp; omega⟩)
termination_by s.length
decreasing_by all_goals simp; try omega

/-! ## Numbers -/

/-- Whether a character is one of the ten digits of numbers. -/
def isNumeral (c : Char) : Bool :=
  '0' ≤ c && c ≤ '9'

/-- The number written by a row of digits. -/
def numeralValue (digits : List Char) : Nat :=
  digits.foldl (fun n c => 10 * n + (c.toNat - 0x30)) 0

/-- The digits at the start of a text, if there are any, and what follows them. -/
def digits? (s : List Char) : Option (List Char × Rest s) :=
  match s with
  | [] => none
  | c :: t =>
    if isNumeral c then
      some (c :: t.takeWhile isNumeral, ⟨t.dropWhile isNumeral, length_dropWhile_lt isNumeral c t⟩)
    else none

/-- The whole part of a number: a zero, or digits that do not begin with a zero. -/
def wholeDigits? (s : List Char) : Option (List Char × Rest s) :=
  match s with
  | '0' :: t => some (['0'], ⟨t, by simp⟩)
  | s => digits? s

/-- The digits of a fraction, which follow a point. -/
def fractionDigits? (s : List Char) : Option (List Char × Rest s) :=
  match s with
  | '.' :: t => (digits? t).map fun (digits, ⟨r, hr⟩) => (digits, ⟨r, by simp; omega⟩)
  | _ => none

/-- The exponent of a number. -/
def exponent? (s : List Char) : Option (Int × Rest s) :=
  match s with
  | mark :: t =>
    if mark = 'e' || mark = 'E' then
      match t with
      | '+' :: u =>
        (digits? u).map fun (digits, ⟨r, hr⟩) => (numeralValue digits, ⟨r, by simp; omega⟩)
      | '-' :: u =>
        (digits? u).map fun (digits, ⟨r, hr⟩) => (-numeralValue digits, ⟨r, by simp; omega⟩)
      | t => (digits? t).map fun (digits, ⟨r, hr⟩) => (numeralValue digits, ⟨r, by simp; omega⟩)
    else none
  | [] => none

/-- Reads the longest number without a sign at the start of a text. -/
def readUnsigned? (negative : Bool) (s : List Char) :
    Option (Except ReadProblem Json × Rest s) := do
  let (whole, ⟨r, hr⟩) ← wholeDigits? s
  match fractionDigits? r, exponent? r with
  | some (fraction, ⟨r', hr'⟩), _ =>
    let digits := numeralValue (whole ++ fraction)
    let places : Int := fraction.length
    -- The exponent counts from the last digit, so the places after the point come off it.
    match exponent? r' with
    | some (e, ⟨r'', hr''⟩) =>
      return (.ok (.float (.ofDecimal negative digits (e - places))), ⟨r'', by omega⟩)
    | none => return (.ok (.float (.ofDecimal negative digits (-places))), ⟨r', by omega⟩)
  | none, some (e, ⟨r', hr'⟩) =>
    return (.ok (.float (.ofDecimal negative (numeralValue whole) e)), ⟨r', by omega⟩)
  | none, none =>
    -- Only a number without point and exponent is read exactly, and only its digits are counted.
    if whole.length > maxDigits then return (.error (.tooManyDigits whole.length), ⟨r, hr⟩)
    else
      let value : Int := numeralValue whole
      return (.ok (.int (if negative then -value else value)), ⟨r, hr⟩)

/-- Reads the longest number at the start of a text. -/
def readNumber? (s : List Char) : Option (Except ReadProblem Json × Rest s) :=
  match s with
  | '-' :: t => (readUnsigned? true t).map fun (value, ⟨r, hr⟩) => (value, ⟨r, by simp; omega⟩)
  | s => readUnsigned? false s

/-! ## Values -/

/-- The words that stand for a value. -/
def literals : List (List Char × Json) :=
  [("null".toList, .null), ("true".toList, .bool true), ("false".toList, .bool false),
   ("NaN".toList, .float .nan), ("Infinity".toList, .float (.infinity false)),
   ("-Infinity".toList, .float (.infinity true))]

/-- The word at the start of a text that stands for a value. -/
def literal? (s : List Char) : Option (Json × List Char) :=
  literals.findSome? fun (word, value) => (word.isPrefixOf? s).map fun r => (value, r)

/-- Reads a value without members at the start of a text. -/
def readLeaf (s : List Char) : Except ReadProblem (Json × Rest s) :=
  match literal? s with
  | some (value, r) =>
    -- A word is never empty. That is asked here, and not proved, to see that less is left.
    if h : r.length < s.length then .ok (value, ⟨r, h⟩)
    else .error (.malformed .expectedValue s.length)
  | none =>
    match readNumber? s with
    | some (.ok value, r) => .ok (value, r)
    | some (.error e, _) => .error e
    | none => .error (.malformed .expectedValue s.length)

mutual

/-- Reads the value at the start of a text, where `depth` containers may stand inside of each
other. -/
def readValue (depth : Nat) (s : List Char) : Except ReadProblem (Json × Rest s) :=
  match s with
  | [] => .error (.malformed .expectedValue 0)
  | c :: t =>
    if c = Text.doubleQuote then
      match readString (c :: t) t with
      | .error e => .error e
      | .ok (chars, ⟨r, hr⟩) => .ok (.str (String.ofList chars), ⟨r, by simp; omega⟩)
    else if c = '[' then
      match depth with
      | 0 => .error (.tooDeep .array)
      | depth + 1 =>
        have := length_skipSpace_le t
        match h : skipSpace t with
        | ']' :: r => .ok (.arr [], ⟨r, by simp [h] at this ⊢; omega⟩)
        | u =>
          match readItems depth u with
          | .error e => .error e
          | .ok (items, ⟨r, hr⟩) => .ok (.arr items, ⟨r, by simp [← h] at hr ⊢; omega⟩)
    else if c = '\x7b' then
      match depth with
      | 0 => .error (.tooDeep .object)
      | depth + 1 =>
        have := length_skipSpace_le t
        match h : skipSpace t with
        | '\x7d' :: r => .ok (.obj [], ⟨r, by simp [h] at this ⊢; omega⟩)
        | u =>
          match readMembers depth u with
          | .error e => .error e
          | .ok (members, ⟨r, hr⟩) =>
            .ok (.obj (Fields.ofMembers members), ⟨r, by simp [← h] at hr ⊢; omega⟩)
    else readLeaf (c :: t)
termination_by 2 * s.length
decreasing_by all_goals simp_all; omega

/-- Reads the items of an array, from the first one to the closing bracket. -/
def readItems (depth : Nat) (s : List Char) : Except ReadProblem (List Json × Rest s) :=
  match readValue depth s with
  | .error e => .error e
  | .ok (item, ⟨r, hr⟩) =>
    have := length_skipSpace_le r
    match h : skipSpace r with
    | ']' :: r' => .ok ([item], ⟨r', by simp [h] at this; omega⟩)
    | ',' :: t =>
      -- After a comma an item has to come: no bracket closes here.
      have := length_skipSpace_le t
      match readItems depth (skipSpace t) with
      | .error e => .error e
      | .ok (items, ⟨r', hr'⟩) => .ok (item :: items, ⟨r', by simp_all; omega⟩)
    | u => .error (.malformed .expectedComma u.length)
termination_by 2 * s.length + 1
decreasing_by all_goals simp_all; try omega

/-- Reads the members of an object, from the first one to the closing brace. -/
def readMembers (depth : Nat) (s : List Char) :
    Except ReadProblem (List (String × Json) × Rest s) :=
  match s with
  | [] => .error (.malformed .expectedKey 0)
  | c :: t =>
    if c = Text.doubleQuote then
      match readString (c :: t) t with
      | .error e => .error e
      | .ok (key, ⟨r, hr⟩) =>
        have := length_skipSpace_le r
        match h : skipSpace r with
        | ':' :: u =>
          have := length_skipSpace_le u
          match readValue depth (skipSpace u) with
          | .error e => .error e
          | .ok (value, ⟨v, hv⟩) =>
            have := length_skipSpace_le v
            match h' : skipSpace v with
            | '\x7d' :: r' =>
              .ok ([(String.ofList key, value)], ⟨r', by simp_all; omega⟩)
            | ',' :: w =>
              have := length_skipSpace_le w
              match readMembers depth (skipSpace w) with
              | .error e => .error e
              | .ok (members, ⟨r', hr'⟩) =>
                .ok ((String.ofList key, value) :: members, ⟨r', by simp_all; omega⟩)
            | x => .error (.malformed .expectedComma x.length)
        | u => .error (.malformed .expectedColon u.length)
    else .error (.malformed .expectedKey (t.length + 1))
termination_by 2 * s.length + 1
decreasing_by all_goals simp_all; try omega

end

/-- Reads a text that holds one value. -/
def read (text : String) : Except ReadProblem Json :=
  let s := text.toList
  if s.head? = some (Char.ofNat 0xFEFF) then .error (.malformed .byteOrderMark s.length)
  else
    match readValue maxDepth (skipSpace s) with
    | .error e => .error e
    | .ok (value, ⟨r, _⟩) =>
      match skipSpace r with
      | [] => .ok value
      | u => .error (.malformed .extraData u.length)

/-- What a problem is called in messages. -/
def SyntaxProblem.text : SyntaxProblem → String
  | .expectedValue => "Expecting value"
  | .expectedKey => "Expecting property name enclosed in double quotes"
  | .expectedColon => "Expecting ':' delimiter"
  | .expectedComma => "Expecting ',' delimiter"
  | .unterminatedString => "Unterminated string starting at"
  | .controlCharacter => "Invalid control character at"
  | .invalidEscape => "Invalid \\escape"
  | .invalidUnicodeEscape => "Invalid \\uXXXX escape"
  | .extraData => "Extra data"
  | .byteOrderMark => "Unexpected UTF-8 BOM (decode using utf-8-sig)"

/-- The message for a text that cannot be read. -/
def ReadProblem.message (text : String) : ReadProblem → String
  | .malformed problem left =>
    let place := Location.of text.toList left
    problem.text ++ ": line " ++ toString place.line ++ " column " ++ toString place.column ++
      " (char " ++ toString place.position ++ ")"
  | .tooManyDigits count =>
    "Exceeds the limit (" ++ toString maxDigits ++ " digits) for integer string conversion: " ++
      "value has " ++ toString count ++ " digits; use sys.set_int_max_str_digits() to increase " ++
      "the limit"
  | .tooDeep innermost =>
    "maximum recursion depth exceeded while decoding a JSON " ++ innermost.name ++
      " from a unicode string"

end Json

end DeckPlan
