import AdminConsole.Backend
import AdminConsole.ProviderId
import AdminConsole.Percent

/-!
# Federation

The two legs of a login through a provider. The first looks up where to send the browser; the
second hands the values that the provider sent back to the backend, which gives a token for them.
Either asks the backend at most once, and the first asks nothing unless the address is well formed.
-/

namespace AdminConsole

inductive FederationKind where
  | oidc
  | saml
deriving DecidableEq, Repr

inductive FederationError where
  | unsupportedMethod (method : String)
  | invalidProviderId (kind : FederationKind)
  | suspended
  | noLicense
  | invalidCredentials
  | exchange (details : String)
  | emptyRedirect
  | redirect (details : String)
deriving DecidableEq, Repr

namespace FederationKind

def text : FederationKind → String
  | .oidc => "oidc"
  | .saml => "saml"

def label : FederationKind → String
  | .oidc => "OIDC"
  | .saml => "SAML"

def ofText (method : String) : Except FederationError FederationKind :=
  if method = "oidc" then .ok .oidc
  else if method = "saml" then .ok .saml
  else .error (.unsupportedMethod method)

theorem ofText_text (k : FederationKind) : ofText k.text = .ok k := by
  cases k <;> simp [ofText, text]

end FederationKind

namespace FederationError

def message : FederationError → String
  | .unsupportedMethod method => "Unsupported login method '" ++ method ++ "'"
  | .invalidProviderId kind => "Invalid " ++ kind.label ++ " method id (expected UUID)"
  | .suspended => "user is suspended"
  | .noLicense => "user can't be added, because user license limit has been reached"
  | .invalidCredentials => "Invalid credentials"
  | .exchange details => "Error: " ++ details
  | .emptyRedirect => "redirectURI is empty"
  | .redirect details => details

def isExchangeFailure : FederationError → Bool
  | .suspended | .noLicense | .invalidCredentials | .exchange _ => true
  | .unsupportedMethod _ | .invalidProviderId _ | .emptyRedirect | .redirect _ => false

end FederationError

/-! ## To the provider -/

structure RedirectTarget where
  kind : FederationKind
  id : ProviderId
deriving DecidableEq, Repr

namespace RedirectTarget

/-- The method is judged before the id. -/
def ofSegments (method id : String) : Except FederationError RedirectTarget :=
  match FederationKind.ofText method with
  | .error e => .error e
  | .ok kind =>
    match ProviderId.ofText id with
    | .error _ => .error (.invalidProviderId kind)
    | .ok id => .ok ⟨kind, id⟩

end RedirectTarget

def Provider.redirectAddress : Except ApiError Provider → Except FederationError String
  | .error e => .error (.redirect e.message)
  | .ok provider =>
    match provider.redirectUri with
    | some uri => if uri.isEmpty then .error .emptyRedirect else .ok uri
    | none => .error .emptyRedirect

def resolveRedirect (method id : String) : Leg (Except FederationError String) :=
  match RedirectTarget.ofSegments method id with
  | .error e => .decided (.error e)
  | .ok target =>
    .ask (.providerRedirect target.kind.text target.id.text) Provider.redirectAddress

/-! ## Back from the provider -/

structure CallbackRequest where
  method : String
  id : String
  body : TokenExchangeRequest
deriving DecidableEq, Repr

namespace CallbackRequest

/-- Takes `code` and `state` from the query, each from the first pair of its name and empty if there
is none. The path is sent back as it is. -/
def ofLocation (method id path query : String) : CallbackRequest where
  method := method
  id := id
  body :=
    { code := (Query.find? "code" query).getD ""
      state := (Query.find? "state" query).getD ""
      redirectUri := path }

/-- The token that a good answer carries. `suspended` is judged before `noLicense`. -/
def tokenOf (response : LoginResponse) : Except FederationError SessionToken :=
  if response.suspended then .error .suspended
  else if response.noLicense then .error .noLicense
  else if response.token.isEmpty then .error (.exchange "no session token was returned")
  else .ok response.token

def outcome : Except ApiError LoginResponse → Except FederationError SessionToken
  | .ok response => tokenOf response
  | .error e =>
    if e.status? = some 401 then .error .invalidCredentials else .error (.exchange e.message)

def complete (c : CallbackRequest) : Leg (Except FederationError SessionToken) :=
  .ask (.exchangeCode c.method c.id c.body) outcome

end CallbackRequest

end AdminConsole
