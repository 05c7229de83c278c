import AdminConsole.BaseUrl
import AdminConsole.Environment

/-!
# Starting the server

The settings that the server is started with, and what can go wrong before and while the console is
served.
-/

namespace AdminConsole

structure ServerConfig where
  backend : Option String
deriving DecidableEq, Repr

namespace ServerConfig

def backendSetting : String := "api_upstream"

/-- A setting that is nested cannot be taken for a text. -/
def ofEnvironment? (environment : List (String × String)) : Option ServerConfig :=
  match Setting.find backendSetting environment with
  | .absent => some ⟨none⟩
  | .given text => some ⟨some text⟩
  | .nested => none

/-- The normalized address, or none where it is absent or blank. -/
def backendUrl (c : ServerConfig) : Except ConfigError (Option String) :=
  match c.backend with
  | none => .ok none
  | some raw =>
    if Text.trim raw.toList = [] then .ok none else (BaseUrl.normalize raw).map some

end ServerConfig

inductive StartupError where
  | config (details : String)
  | siteConfig (details : String)
  | bind (address : String) (details : String)
  | serve (details : String)
deriving DecidableEq, Repr

def StartupError.message : StartupError → String
  | .config details => "invalid configuration: " ++ details
  | .siteConfig details => "failed to load site configuration: " ++ details
  | .bind address details => "failed to bind to '" ++ address ++ "': " ++ details
  | .serve details => "server error: " ++ details

end AdminConsole
