/-!
# Environment

The settings that a run takes from its environment. An empty setting counts as a missing one.
-/

namespace DeckPlan

/-- The settings from the environment. -/
structure Environment where
  /-- The key for the Gemini models. -/
  googleApiKey : Option String := none
  /-- The key for the Gemini models, if there is no other. -/
  geminiApiKey : Option String := none
  /-- The key for the OpenAI models. -/
  openaiApiKey : Option String := none
  /-- Where the key of a service account lies. -/
  credentialsPath : Option String := none
  /-- For whom the service account acts. -/
  impersonatedUser : Option String := none
  /-- The key for the image search. -/
  searchKey : Option String := none
  /-- The search engine for images. -/
  searchEngine : Option String := none
  /-- The image for topics without a usable one. -/
  defaultImageUrl : Option String := none
  deriving DecidableEq, Repr

/-- A setting that is not empty. -/
def nonempty? (setting : Option String) : Option String :=
  setting.filter fun text => !text.isEmpty

end DeckPlan
