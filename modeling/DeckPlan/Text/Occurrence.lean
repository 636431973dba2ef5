/-!
# Occurrences of one text in another

* `cut? needle s` splits `s` around the first occurrence of `needle`, and `cutLast?` around the
  last one; `needle` is dropped.
* `occursIn needle s` says whether there is one.
* `throughLast c s` keeps `s` up to and including its last `c`.
-/

namespace DeckPlan.Text

/-- What precedes and what follows the first occurrence of `needle`. -/
def cut? (needle : List Char) (s : List Char) : Option (List Char × List Char) :=
  match needle.isPrefixOf? s with
  | some rest => some ([], rest)
  | none =>
    match s with
    | [] => none
    | c :: tail => (cut? needle tail).map fun (before, after) => (c :: before, after)

/-- What precedes and what follows the last occurrence of `needle`. -/
def cutLast? (needle s : List Char) : Option (List Char × List Char) :=
  (cut? needle.reverse s.reverse).map fun (after, before) => (before.reverse, after.reverse)

/-- Whether `needle` occurs in the text. -/
def occursIn (needle : List Char) (s : List Char) : Bool :=
  needle.isPrefixOf s ||
    match s with
    | [] => false
    | _ :: tail => occursIn needle tail

/-- The text up to and including its last `c`; nothing if there is no `c`. -/
def throughLast (c : Char) (s : List Char) : List Char :=
  (s.reverse.dropWhile fun d => d != c).reverse

end DeckPlan.Text
