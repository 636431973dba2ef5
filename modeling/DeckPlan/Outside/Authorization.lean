import DeckPlan.Json.Writer
import DeckPlan.Outside.Environment
import DeckPlan.Outside.Program
import DeckPlan.Slides.Deck

/-!
# Authorization

`authorize` gets credentials and builds the clients of the slides and sheets services with them.
The key of a service account comes first, if the environment names one. Otherwise a saved login is
used, prolonged if its time is over, or else the user logs in; a login that was prolonged or made
is saved before it is used.
-/

namespace DeckPlan

/-- The rights that are asked for. -/
def scopes : List String :=
  ["https://www.googleapis.com/auth/presentations",
   "https://www.googleapis.com/auth/spreadsheets"]

/-- Where logins are kept. -/
def loginFolder : String := "auth"

/-- Where a login is saved. -/
def loginPath : String := "auth/token.json"

/-- What a login needs to know of the program. -/
def clientSecretsPath : String := "auth/credentials.json"

/-- The credentials of a service account. -/
def serviceAccount (env : Environment) (path : String) : Program Credentials := do
  if ← Program.hasFile path then
    let account ← Program.call (.loadServiceAccount path scopes)
    match nonempty? env.impersonatedUser with
    | none => return account
    | some email => Program.call (.actFor account email)
  else .fail (.noServiceAccountKey path)

/-- Keeps a login for later runs. The file is emptied before it is known what to write. -/
def saveLogin (credentials : Credentials) : Program Credentials := do
  Program.makeFolder loginFolder
  Program.openFile loginPath
  let content ← Program.serialize credentials
  Program.writeFile loginPath content
  return credentials

/-- The saved login, if there is one. -/
def savedLogin? : Program (Option SavedLogin) := do
  if ← Program.hasFile loginPath then
    let login : SavedLogin ← Program.call (.loadLogin loginPath scopes)
    return some login
  else return none

/-- Has the user log in. -/
def logIn : Program Credentials := do
  if ← Program.hasFile clientSecretsPath then
    Program.call (.loadClientSecrets clientSecretsPath scopes)
    Program.call (.logIn 0)
  else .fail (.noClientSecrets clientSecretsPath loginFolder)

/-- The credentials of the user: the saved login, or one that is prolonged or made and saved. -/
def userLogin : Program Credentials := do
  match ← savedLogin? with
  | none => saveLogin (← logIn)
  | some login =>
    if login.valid then return login.credentials
    else if login.expired && login.refreshable then
      saveLogin (← Program.call (.refreshLogin login.credentials))
    else saveLogin (← logIn)

/-- The credentials that the environment and the saved files lead to. -/
def getCredentials (env : Environment) : Program Credentials :=
  match nonempty? env.credentialsPath with
  | some path => serviceAccount env path
  | none => userLogin

/-- Builds the clients of the two services. -/
def authorize (env : Environment) : Program Slides.Clients := do
  let credentials ← getCredentials env
  Program.call (.buildClient "slides" "v1" credentials)
  Program.call (.buildClient "sheets" "v4" credentials)
  return { slides := some credentials, sheets := some credentials }

end DeckPlan
