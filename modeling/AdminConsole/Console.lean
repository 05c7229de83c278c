import AdminConsole.Console.News

/-!
# The console

The console in a page of the browser, as it reacts to the visitor, to the timer and to answers of
the backend.
-/

namespace AdminConsole.Console

def load (b : Browser) (path query : String) : Console :=
  let session := (Session.start b).beginCheck
  let c : Console :=
    { path := path, query := query, session := session, identity := session.identity
      branch := .resolving, screen := .nothing, key := session.token, checking := .idle
      mounts := 0, pending := [], sent := [], ready := [] }
  (c.setKey session.token).settle

/-- Goes to another address of the console. Another path, not another query alone, has the session
checked again. -/
def navigate (c : Console) (path query : String) : Console :=
  let moved := path ≠ c.path
  let c := { c with path := path, query := query }
  (if moved then c.revalidate else c).refresh.settle

def focus (c : Console) : Console := c.revalidate.settle

/-- An answer arrives for the request at that place among those under way. -/
def respond (c : Console) (place : Nat) (answer : Http.Request → Http.Answer) : Option Console :=
  c.pending[place]?.map fun p =>
    ({ c with pending := c.pending.eraseIdx place }.receive (p.news (answer p.request))).settle

def timers (c : Console) : List Nat :=
  match c.screen with
  | .application .upgrade (.upgrade _ page) => if page.timer then [upgradeCheckInterval] else []
  | _ => []

def tick (c : Console) : Console :=
  match c.screen with
  | .application .upgrade (.upgrade mount page) =>
    if page.timer then
      let canTime := (c.browser.fault? .interval).isNone
      let (again, tracker) := page.tracker.tick
      let page := page.track canTime tracker
      if again then
        let (now, reading) := page.reading.request
        let page := { page with reading := reading }
        let c := { c with screen := .application .upgrade (.upgrade mount page) }
        (if now then c.sendStatus mount else c).settle
      else { c with screen := .application .upgrade (.upgrade mount page) }
    else c
  | _ => c

def view (c : Console) : View := c.screen.view c.identity

def act (c : Console) (action : Action) (value : String) : Console :=
  match c.screen with
  | .login mount page =>
    let edit (form : LoginForm) : Console := { c with screen := .login mount { page with form } }
    match action with
    | .editLogin => edit (page.form.setLogin value)
    | .editPassword => edit (page.form.setPassword value)
    | .editCode => edit (page.form.setCode value)
    | .pickFactor => edit (page.form.selectFactor value)
    | .chooseProvider id =>
      ({ c with screen := .login mount { page with redirectError := none } }.ask
        ((resolveRedirect FederationKind.oidc.text id).map (.provider mount))
        fun e => .provider mount (.error (.redirect e.message))).settle
    | .submitLogin =>
      ({ c with screen := .login mount { page with formError := none } }.ask
        (page.form.request.submit.map (.login mount))
        fun e => .login mount (.error (.other e.message))).settle
    | .startUpgrade => c
  | .application .upgrade (.upgrade mount _) =>
    match action with
    | .startUpgrade =>
      (c.ask (.ask (.startUpgrade c.identity.token) (.ordered mount)) fun e =>
        .ordered mount (noTransport e)).settle
    | _ => c
  | _ => c

end AdminConsole.Console
