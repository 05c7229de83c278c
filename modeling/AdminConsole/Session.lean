import AdminConsole.Backend
import AdminConsole.Identity
import AdminConsole.Route

/-!
# Sessions

A session holds the visitor's identity and whether the backend has accepted its token. A check has
two halves: `beginCheck` settles on the token to check, and `settle` applies the outcome for that
token. An outcome for a token that is no longer the current one changes nothing. `revalidate?` takes
the place of the first half when the application is already on screen and shall stay there.
-/

namespace AdminConsole

/-- How far the identity check has come. Starting one, replacing the token and ending the session
lead back to `resolving`. -/
inductive Phase where
  | resolving
  | failed (message : String)
  | settled
deriving DecidableEq, Repr

inductive Branch where
  | resolving
  | error (message : String)
  | authenticated
  | callbackHandoff (method id : String)
  | redirectHandoff (method id : String)
  | unauthenticated
deriving DecidableEq, Repr

/-- A running or failed check hides everything else, and the application hides the routes. -/
def Branch.of (route : Route) (phase : Phase) (authenticated : Bool) : Branch :=
  match phase with
  | .resolving => .resolving
  | .failed message => .error message
  | .settled =>
    if authenticated then .authenticated
    else
      match route with
      | .callback method id => .callbackHandoff method id
      | .login method id => .redirectHandoff method id
      | .normal => .unauthenticated

inductive SessionError where
  | persistFailed (details : String)
  | clearFailed (details : String)
deriving DecidableEq, Repr

def SessionError.message : SessionError → String
  | .persistFailed details => "failed to persist session token: " ++ details
  | .clearFailed details => "failed to clear session token: " ++ details

structure Session (σ : Type) where
  store : σ
  identity : Identity
  authenticated : Bool
  phase : Phase
deriving DecidableEq, Repr

namespace Session

variable {σ : Type} [TokenStore σ]

def start (store : σ) : Session σ := ⟨store, .anonymous, false, .resolving⟩

omit [TokenStore σ] in
def token (s : Session σ) : SessionToken := s.identity.token

def loadToken (s : Session σ) : Session σ :=
  if s.token.isEmpty then
    match TokenStore.get s.store tokenName with
    | some text =>
      if text.isEmpty then s else { s with identity := s.identity.withToken ⟨text⟩ }
    | none => s
  else s

def beginCheck (s : Session σ) : Session σ := { s.loadToken with phase := .resolving }

/-- Starts a check behind the application. There is none to start while another branch is shown. -/
def revalidate? (s : Session σ) : Option (Session σ) :=
  if s.phase = .settled ∧ s.authenticated then some s.loadToken else none

/-- Applies the status of a check whose answer is merged already. -/
def judge (s : Session σ) (check : IdentityCheck) : Except SessionError Unit × Session σ :=
  if check.isAuthorized then
    -- An accepted token is in the store already.
    if s.authenticated then (.ok (), { s with phase := .settled })
    else
      match TokenStore.set s.store tokenName s.token.text with
      | .error e => (.error (.persistFailed e.message), { s with phase := .failed e.message })
      | .ok store =>
        (.ok (), { s with store := store, authenticated := true, phase := .settled })
  else if check.isServerError then
    let message := (ApiError.status check.status "").message
    (.ok (), { s with authenticated := false, phase := .failed message })
  else (.ok (), { s with authenticated := false, phase := .settled })

/-- Applies the outcome of a check made with `token`; the flag says whether it was applied. The
token is written to the store when the session becomes authenticated, and only then. -/
def settle (s : Session σ) (token : SessionToken) (outcome : Except ApiError IdentityCheck) :
    Except SessionError Bool × Session σ :=
  if token ≠ s.token then (.ok false, s)
  else
    match outcome with
    | .error e => (.ok true, { s with authenticated := false, phase := .failed e.message })
    | .ok check =>
      -- What an answer says of the visitor counts whatever its status.
      let (result, s) := judge { s with identity := s.identity.merge check.info } check
      (result.map fun _ => true, s)

omit [TokenStore σ] in
def adoptToken (s : Session σ) (token : SessionToken) : Session σ :=
  { s with identity := s.identity.withToken token, phase := .resolving }

/-- Ends the session. The stored token is cleared if the store allows it; the session in memory is
gone in any case. -/
def logout (s : Session σ) : Except SessionError Unit × Session σ :=
  -- In memory first: this half cannot fail.
  let s := { s with identity := .anonymous, authenticated := false, phase := .resolving }
  match TokenStore.set s.store tokenName "" with
  | .error e => (.error (.clearFailed e.message), s)
  | .ok store => (.ok (), { s with store := store })

omit [TokenStore σ] in
def branch (s : Session σ) (route : Route) : Branch := .of route s.phase s.authenticated

def resolve (s : Session σ) : Leg (Except SessionError Unit × Session σ) :=
  let begun := s.beginCheck
  .ask (.userInfo begun.token) fun outcome =>
    let (result, s) := begun.settle begun.token outcome
    (result.map fun _ => (), s)

end Session

end AdminConsole
