import AdminConsole.Console.Display

/-!
# Answers arriving

What each kind of news does. News for a screen that has gone are dropped, but for the way to a
provider the visitor asked for.
-/

namespace AdminConsole.Console

def adopt (c : Console) (token : SessionToken) : Console :=
  let session := (c.session.adoptToken token).beginCheck
  ({ c with session := session }.publish.setKey session.token).refresh

def goTo (c : Console) (uri : String) : Except BrowserError Console :=
  (c.browser.goTo uri).map c.setBrowser

/-- What comes on screen asks before the check that is due again does. -/
def onChecked (c : Console) (token : SessionToken) (outcome : Except ApiError IdentityCheck) :
    Console :=
  let (again, checking) := c.checking.answered
  -- The token of the check that is due is settled before anything on screen can change it.
  let due := c.key
  let (_, session) := c.session.settle token outcome
  let c := ({ c with session := session, checking := checking }.publish).refresh
  if again then c.sendCheck due else c

def onStatus (c : Console) (mount : Nat) (status : Except ApiError UpgradeStatus) : Console :=
  match c.screen with
  | .application .upgrade (.upgrade here page) =>
    if here = mount then
      let (again, reading) := page.reading.answered
      let canTime := (c.browser.fault? .interval).isNone
      let page := { page with reading := reading }.observe canTime status
      let c := { c with screen := .application .upgrade (.upgrade mount page) }
      if again then c.sendStatus mount else c
    else c
  | _ => c

def onOrdered (c : Console) (mount : Nat) (result : Except ApiError Unit) : Console :=
  match c.screen with
  | .application .upgrade (.upgrade here page) =>
    if here = mount then
      let canTime := (c.browser.fault? .interval).isNone
      { c with screen := .application .upgrade (.upgrade mount (page.ordered canTime result)) }
    else c
  | _ => c

def onLoginPage (c : Console) (mount : Nat) (change : LoginPage → LoginPage) : Console :=
  match c.screen with
  | .login here page => if here = mount then { c with screen := .login mount (change page) } else c
  | _ => c

def onProvider (c : Console) (mount : Nat) (address : Except FederationError String) : Console :=
  let refused (e : FederationError) : Console :=
    c.onLoginPage mount fun page =>
      { page with redirectError := some ("Could not redirect at this time: " ++ e.message) }
  match address with
  | .error e => refused e
  | .ok uri =>
    match c.goTo uri with
    | .ok c => c
    | .error e => refused (.redirect e.message)

def onLogin (c : Console) (mount : Nat) (outcome : Except LoginError LoginOutcome) : Console :=
  match c.screen with
  | .login here page =>
    if here = mount then
      match outcome with
      | .error e => { c with screen := .login mount { page with formError := some e.message } }
      | .ok outcome =>
        let (token, form) := page.form.apply outcome
        let c := { c with screen := .login mount { page with form := form } }
        match token with
        | some token => c.adopt token
        | none => c
    else c
  | _ => c

def onExchanged (c : Console) (mount : Nat) (token : Except FederationError SessionToken) :
    Console :=
  match c.screen with
  | .callback here _ =>
    if here = mount then
      match token with
      | .ok token => c.adopt token
      | .error e =>
        { c with screen := .callback mount (some ("Could not obtain token: " ++ e.message)) }
    else c
  | _ => c

/-- A way out that the browser does not follow leaves the screen empty. -/
def onWayOut (c : Console) (mount : Nat) (address : Except FederationError String) : Console :=
  match c.screen with
  | .redirect here _ =>
    if here = mount then
      match address with
      | .ok uri => (c.goTo uri).toOption.getD c
      | .error e =>
        let message := "Could not redirect at this time: " ++ e.message
        { c with screen := .redirect mount (some message) }
    else c
  | _ => c

def receive (c : Console) : News → Console
  | .checked token outcome => c.onChecked token outcome
  | .methods mount methods => c.onLoginPage mount fun page => { page with methods := some methods }
  | .wayOut mount address => c.onWayOut mount address
  | .provider mount address => c.onProvider mount address
  | .exchanged mount token => c.onExchanged mount token
  | .login mount outcome => c.onLogin mount outcome
  | .status mount status => c.onStatus mount status
  | .ordered mount result => c.onOrdered mount result

def receiveReady : Nat → Console → Console
  | 0, c => c
  | rounds + 1, c =>
    match c.ready with
    | [] => c
    | news :: later => receiveReady rounds ({ c with ready := later }.receive news)

/-- Receives all news that are there already. They are failures, which ask at most for one more
check, so a few rounds are enough for any step. -/
def settle (c : Console) : Console := receiveReady 16 c

end AdminConsole.Console
