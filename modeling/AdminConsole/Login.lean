import AdminConsole.Backend
import AdminConsole.Percent

/-!
# Local login

The form for login, password and second factor, what its submission comes to, and the banner for an
error that a provider reports in the address of the login page.
-/

namespace AdminConsole

inductive LoginOutcome where
  | authenticated (token : SessionToken)
  | factorRequired (factors : List String)
deriving DecidableEq, Repr

inductive LoginError where
  | invalidCredentials
  | tooManyAttempts
  | other (details : String)
deriving DecidableEq, Repr

def LoginError.message : LoginError → String
  | .invalidCredentials => "Invalid credentials"
  | .tooManyAttempts => "too many attempts. Try again later"
  | .other details => "Error: " ++ details

/-- A demand for a second factor comes before a token. -/
def LoginOutcome.of : Except ApiError LoginResponse → Except LoginError LoginOutcome
  | .ok response =>
    if response.mfaRequired then .ok (.factorRequired response.factors)
    else if response.token.isEmpty then .error (.other "no session token was returned")
    else .ok (.authenticated response.token)
  | .error e =>
    match e.status? with
    | some 401 => .error .invalidCredentials
    | some 429 => .error .tooManyAttempts
    | _ => .error (.other e.message)

def LoginRequest.submit (request : LoginRequest) : Leg (Except LoginError LoginOutcome) :=
  .ask (.login request) LoginOutcome.of

structure LoginForm where
  login : String
  password : String
  /-- The factors asked for; none until a second factor is required. -/
  factors : List String
  factor : FactorResponse
deriving DecidableEq, Repr

namespace LoginForm

def empty : LoginForm := ⟨"", "", [], .blank⟩

def setLogin (f : LoginForm) (value : String) : LoginForm := { f with login := value }

def setPassword (f : LoginForm) (value : String) : LoginForm := { f with password := value }

def setCode (f : LoginForm) (value : String) : LoginForm :=
  { f with factor := { f.factor with code := value } }

def selectFactor (f : LoginForm) (name : String) : LoginForm :=
  { f with factor := { f.factor with name := name } }

def needsFactor (f : LoginForm) : Bool := !f.factors.isEmpty

/-- Asks for one of the factors. The first is selected and an earlier code is dropped. -/
def requireFactors (f : LoginForm) (factors : List String) : LoginForm :=
  { f with factors := factors, factor := ⟨factors.head?.getD "", ""⟩ }

def request (f : LoginForm) : LoginRequest := ⟨f.login, f.password, f.factor⟩

/-- Takes an outcome in, and gives the token it carries. -/
def apply (f : LoginForm) : LoginOutcome → Option SessionToken × LoginForm
  | .authenticated token => (some token, f)
  | .factorRequired factors => (none, f.requireFactors factors)

end LoginForm

def providerBanner? (query : String) : Option String :=
  (Query.find? "error" query).map fun error =>
    match Query.find? "error_description" query with
    | some description => "An error occured: " ++ error ++ ": " ++ description
    | none => "An error occured: " ++ error

end AdminConsole
