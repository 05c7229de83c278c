import AdminConsole.Console.Browser
import AdminConsole.Console.Screen
import AdminConsole.Federation

/-!
# The state of the console

A session in a browser, the screen that follows from it and from the address, and the requests that
are under way. Whatever an answer is about carries the number of the screen that asked.
-/

namespace AdminConsole

/-- What an answer is about. Numbers tell which screen asked. -/
inductive News where
  | checked (token : SessionToken) (outcome : Except ApiError IdentityCheck)
  | methods (mount : Nat) (methods : Except String AuthMethods)
  | wayOut (mount : Nat) (address : Except FederationError String)
  | provider (mount : Nat) (address : Except FederationError String)
  | exchanged (mount : Nat) (token : Except FederationError SessionToken)
  | login (mount : Nat) (outcome : Except LoginError LoginOutcome)
  | status (mount : Nat) (status : Except ApiError UpgradeStatus)
  | ordered (mount : Nat) (result : Except ApiError Unit)

structure Pending where
  request : Http.Request
  news : Http.Answer → News

structure Console where
  path : String
  query : String
  session : Session Browser
  identity : Identity
  branch : Branch
  screen : Screen
  key : SessionToken
  checking : Refetch
  mounts : Nat
  pending : List Pending
  sent : List Http.Request
  /-- Answers that were there without a request: a client that cannot be had, a token that cannot be
  sent, an address that is refused. -/
  ready : List News

namespace Console

def browser (c : Console) : Browser := c.session.store

def setBrowser (c : Console) (b : Browser) : Console :=
  { c with session := { c.session with store := b } }

/-! ## Asking -/

def post (c : Console) (news : News) : Console := { c with ready := c.ready ++ [news] }

def ask (c : Console) (leg : Leg News) (unavailable : BrowserError → News) : Console :=
  match c.browser.apiClient, leg with
  | .error e, _ => c.post (unavailable e)
  | .ok _, .decided news => c.post news
  | .ok client, .ask call decide =>
    match client.request? call with
    | none => c.post (decide (call.ofAnswer (.error .building)))
    | some request =>
      { c with
        pending := c.pending ++ [⟨request, fun answer => decide (call.ofAnswer answer)⟩]
        sent := c.sent ++ [request] }

def noTransport {α : Type} (e : BrowserError) : Except ApiError α := .error (.transport e.message)

def sendCheck (c : Console) (token : SessionToken) : Console :=
  c.ask (.ask (.userInfo token) (.checked token)) fun e => .checked token (noTransport e)

def setKey (c : Console) (token : SessionToken) : Console :=
  let (now, checking) := c.checking.request
  let c := { c with key := token, checking := checking }
  if now then c.sendCheck token else c

def revalidate (c : Console) : Console :=
  match c.session.revalidate? with
  | some session => { c with session := session }.setKey session.token
  | none => c

def sendStatus (c : Console) (mount : Nat) : Console :=
  c.ask (.ask (.upgradeStatus c.identity.token) (.status mount)) fun e =>
    .status mount (noTransport e)

end Console

end AdminConsole
