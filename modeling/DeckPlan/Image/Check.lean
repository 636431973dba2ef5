import DeckPlan.Image.Score
import DeckPlan.Json.Access
import DeckPlan.Outside.Program

/-!
# Usable images

A slide can show an image if its address is one of an encrypted connection and the server behind
it says that an image is there. `usableUrl` asks the server and falls back to a default image,
which may be any value that stands for one.
-/

namespace DeckPlan.Image

/-- How long to wait for the headers of an image, in seconds. -/
def headTimeout : Nat := 5

/-- The value of a header, whose name counts in any letter case; of repeated headers the last. -/
def header? (reply : WebReply) (name : String) : Option String :=
  (reply.headers.reverse.find? fun header =>
    Text.lowered header.1 = Text.lowered name).map Prod.snd

/-- Whether a server's answer allows that an image is there: the status is 200, and the type of
the content is that of an image or not told. -/
def isImageReply (reply : WebReply) : Bool :=
  let type := Text.lowered ((header? reply "Content-Type").getD "")
  reply.status = 200 && (type.isEmpty || "image/".toList.isPrefixOf type.toList)

/-- The address of an image that a slide can show: the given one, or else the default. An address
that is given must be a text. -/
def usableUrl (url fallback : Json) : Program Json := do
  let url ← Program.ofExcept (url.givenText "lower")
  if isHttps url then
    let outcome ← (Program.call (.webHead url headTimeout)).attempt
    match outcome with
    | .ok reply => return if isImageReply reply then .str url else fallback
    | .error fault => if fault.isWebFault then return fallback else .fail fault
  else return fallback

end DeckPlan.Image
