/-!
# Credentials

What the clients of the slides and sheets services are built with. Credentials are made outside, of
the key of a service account or by a login of the user. The program only hands them on, and a login
also says about itself whether it can be used.
-/

namespace DeckPlan

/-- What a client proves its rights with. -/
structure Credentials where
  /-- What tells these credentials from others. -/
  name : String
  deriving DecidableEq, Repr

/-- A login that was saved earlier. -/
structure SavedLogin where
  credentials : Credentials
  /-- The login can be used. -/
  valid : Bool := false
  /-- The time of the login is over. -/
  expired : Bool := false
  /-- The login can be prolonged. -/
  refreshable : Bool := false
  deriving DecidableEq, Repr

end DeckPlan
