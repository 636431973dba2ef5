import DeckPlan.Image.Score
import DeckPlan.Json.Access
import DeckPlan.Outside.Program

/-!
# Image search

`search` asks a custom search engine for images and yields the link of the one with the best
score, of equal ones the first (`firstBest?`). An encrypted link and a type that says it is an
image count one point each on top of the terms.
-/

namespace DeckPlan.Image

/-- The address of the search service. -/
def searchUrl : String := "https://customsearch.googleapis.com/customsearch/v1"

/-- How long to wait for the search service, in seconds. -/
def searchTimeout : Nat := 10

/-- The usual number of results. -/
def defaultResults : Int := 5

/-- Which images are looked for; an empty filter does not apply. -/
structure Filters where
  size : String := ""
  type : String := ""
  colorType : String := ""
  dominantColor : String := ""
  rights : String := ""
  safe : String := ""
  deriving DecidableEq, Repr

/-- What is needed to ask the search service. -/
structure SearchAccess where
  /-- The key for the service. -/
  key : String
  /-- The search engine. -/
  engine : String
  deriving DecidableEq, Repr

/-- The filters that apply, as parameters of the request. -/
def Filters.parameters (filters : Filters) : List (String × String) :=
  [("safe", filters.safe), ("imgSize", filters.size), ("imgType", filters.type),
    ("imgColorType", filters.colorType), ("imgDominantColor", filters.dominantColor),
    ("rights", filters.rights)].filter fun parameter => !parameter.2.isEmpty

/-- A number of results that the service accepts. -/
def clampResults (count : Int) : Int :=
  if count ≤ 0 || count > 10 then defaultResults else count

/-- A number of results that the service accepts, unless there is none to compare with the
bounds. -/
def resultCount (count : Option Int) : Except Fault Int :=
  match count with
  | some count => .ok (clampResults count)
  | none => .error (.notComparable .null "<=")

/-- The parameters of the request for `count` results. -/
def searchParameters (access : SearchAccess) (query : String) (filters : Filters) (count : Int) :
    List (String × String) :=
  [("key", access.key), ("cx", access.engine), ("q", query), ("num", toString count),
    ("searchType", "image")] ++ filters.parameters

/-- Fails if a web server answered with the status of an error. -/
def checkStatus (url : String) (reply : WebReply) : Except Fault Unit :=
  if 400 ≤ reply.status ∧ reply.status < 600 then
    .error (.webStatus reply.status reply.reason url)
  else .ok ()

/-- The text that has to stand at a place of a list of texts to be joined. -/
def joinable (index : Nat) : Json → Except Fault String
  | .str text => .ok text
  | other => .error (.notJoinable index other.shape)

/-- The score of a result and its link. -/
def scoreItem (terms : List String) (item : Json) : Except Fault (Nat × String) := do
  let link ← item.field "link" (.str "")
  let title ← item.field "title" (.str "")
  let snippet ← item.field "snippet" (.str "")
  -- The three texts are joined in this order, so the first that is no text is the one that fails.
  let title ← joinable 0 title
  let snippet ← joinable 1 snippet
  let link ← joinable 2 link
  let type ← (← item.field "mime" (.str "")).text "startswith"
  return (termScore title snippet link terms + (if isHttps link then 1 else 0) +
    (if "image/".toList.isPrefixOf type.toList then 1 else 0), link)

/-- The better of two results, the first if they are equally good. -/
def better (best next : Nat × String) : Nat × String :=
  if best.1 < next.1 then next else best

/-- The first of the best results. -/
def firstBest? : List (Nat × String) → Option (Nat × String)
  | [] => none
  | first :: rest => some (rest.foldl better first)

/-- The link of the best image in the body of a reply. -/
def bestLink (query body : String) : Except Fault String := do
  let reply ← (Json.read body).mapError (.unreadable body)
  let found ← reply.field "items" .null
  if !found.isGiven then throw .noResults
  let scored ← (← found.items).mapM (scoreItem (terms query))
  match firstBest? scored with
  | some (_, link) => return link
  | none => throw .noResults

/-- The link of the image that fits a query best. -/
def search (access : SearchAccess) (query : String) (filters : Filters)
    (count : Option Int) : Program String := do
  if Text.isBlankText access.key || Text.isBlankText access.engine then .fail .noSearchKey
  else if Text.isBlankText query then .fail .emptyQuery
  else
    let count ← Program.ofExcept (resultCount count)
    let reply : WebReply ← Program.call
      (.webGet searchUrl (searchParameters access query filters count) searchTimeout)
    Program.ofExcept do
      checkStatus searchUrl reply
      bestLink query reply.body

end DeckPlan.Image
