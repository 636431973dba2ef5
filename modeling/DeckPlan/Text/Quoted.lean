import DeckPlan.Text.Half
import DeckPlan.Text.Printable

/-!
# Quoted text

A text between quotes, as messages show it. The quotes are single, unless the text holds a
single quote and no double one. The chosen quote and the backslash are written behind a
backslash, tab, line feed and carriage return as `\t`, `\n` and `\r`, and every other character
without a visible form as `\x`, `\u` or `\U` and two, four or eight lower-case hexadecimal digits.
Half of a pair is written as the half that it is, behind `\u`.
-/

namespace DeckPlan.Text

/-- The last `width` hexadecimal digits of a number, lower case, the highest first. -/
def hexDigits : Nat → Nat → List Char
  | 0, _ => []
  | width + 1, n => hexDigits width (n / 16) ++ [Nat.digitChar (n % 16)]

/-- The single quote. -/
def singleQuote : Char :=
  Char.ofNat 0x27

/-- The double quote. -/
def doubleQuote : Char :=
  Char.ofNat 0x22

/-- The escape of a character without a visible form. -/
def codeEscape (c : Char) : List Char :=
  match half? c with
  | some unit => '\\' :: 'u' :: hexDigits 4 unit
  | none =>
    if c.toNat < 0x100 then '\\' :: 'x' :: hexDigits 2 c.toNat
    else if c.toNat < 0x10000 then '\\' :: 'u' :: hexDigits 4 c.toNat
    else '\\' :: 'U' :: hexDigits 8 c.toNat

/-- How a character is written between the quotes `quote`. -/
def quotedChar (quote c : Char) : List Char :=
  if c = quote || c = '\\' then ['\\', c]
  else if c = '\n' then ['\\', 'n']
  else if c = '\r' then ['\\', 'r']
  else if c = '\t' then ['\\', 't']
  else if isPrintable c then [c]
  else codeEscape c

/-- The quote that surrounds a text. -/
def quoteFor (s : List Char) : Char :=
  if s.contains singleQuote && !s.contains doubleQuote then doubleQuote else singleQuote

/-- The text between quotes. -/
def quote (s : List Char) : List Char :=
  quoteFor s :: s.flatMap (quotedChar (quoteFor s)) ++ [quoteFor s]

/-- A string between quotes. -/
def quoted (s : String) : String :=
  String.ofList (quote s.toList)

/-- A text that has an encoding: halves of pairs are written as escapes. -/
def withoutHalves (s : String) : String :=
  String.ofList (s.toList.flatMap fun c => if (half? c).isSome then codeEscape c else [c])

end DeckPlan.Text
