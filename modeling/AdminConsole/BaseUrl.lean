import AdminConsole.Text

/-!
# Base URLs

The address under which the backend is reached, as it is configured. It is cleaned up and checked
for a scheme and something behind it before it is used.
-/

namespace AdminConsole

inductive ConfigError where
  | emptyBaseUrl
  | invalidBaseUrl (url : String)
  | clientBuild (details : String)
deriving DecidableEq, Repr

def ConfigError.message : ConfigError → String
  | .emptyBaseUrl => "API base URL is empty"
  | .invalidBaseUrl url => "invalid API base URL '" ++ url ++ "'"
  | .clientBuild details => "failed to build HTTP client: " ++ details

namespace BaseUrl

def dropSlashes (cs : List Char) : List Char := Text.dropEndWhile (· = '/') cs

/-- What follows the scheme, which must be written in lower case. -/
def afterScheme? (cs : List Char) : Option (List Char) :=
  (Text.dropHead? "http://".toList cs).or (Text.dropHead? "https://".toList cs)

def isAcceptable (cs : List Char) : Bool :=
  match afterScheme? cs with
  | some (c :: _) => c ≠ '/'
  | _ => false

/-- Drops white space around and slashes at the end, then checks what is left. -/
def normalize (raw : String) : Except ConfigError String :=
  let trimmed := dropSlashes (Text.trim raw.toList)
  if trimmed = [] then .error .emptyBaseUrl
  else if isAcceptable trimmed then .ok (String.ofList trimmed)
  else .error (.invalidBaseUrl (String.ofList trimmed))

def apiPath : String := "/api"

def ofOrigin (origin : String) : Except ConfigError String :=
  normalize (String.ofList (dropSlashes (Text.trim origin.toList)) ++ apiPath)

end BaseUrl

end AdminConsole
