import AdminConsole.Console.State

/-!
# What comes on screen

The screen follows from the branch of the session and, inside the application, from the address. A
screen that has to know something asks for it when it opens.
-/

namespace AdminConsole.Console

def nextMount (c : Console) : Nat × Console := (c.mounts, { c with mounts := c.mounts + 1 })

/-- Ends the session. Nothing is on screen until the browser has loaded the console anew. -/
def logOut (c : Console) : Console :=
  let (_, session) := c.session.logout
  let c := { c with
    session := session, identity := session.identity, branch := .resolving, screen := .nothing }
  c.setBrowser c.browser.reloadAtRoot

def openUpgrade (c : Console) : Console :=
  match Role.check .admin c.identity.role with
  | .error _ => { c with screen := .application .upgrade .forbidden }
  | .ok () =>
    let (mount, c) := c.nextMount
    { c with screen := .application .upgrade (.upgrade mount .opened) }.sendStatus mount

/-- A page of the application. A federation address leads home, which counts as navigation. -/
def openPlace (c : Console) : Place → Console
  | .home => { c with screen := .application .home .home }
  | .profile => { c with screen := .application .profile .profile }
  | .unknown => { c with screen := .application .unknown .notFound }
  | .upgrade => c.openUpgrade
  | .logout => c.logOut
  | .federation =>
    { c with path := "/", query := "", screen := .application .home .home }.revalidate

def openCallback (c : Console) (method id : String) : Console :=
  let (mount, c) := c.nextMount
  let request := CallbackRequest.ofLocation method id c.path c.query
  { c with screen := .callback mount none }.ask (request.complete.map (.exchanged mount))
    fun e => .exchanged mount (.error (.exchange e.message))

def openRedirect (c : Console) (method id : String) : Console :=
  let (mount, c) := c.nextMount
  match RedirectTarget.ofSegments method id with
  | .error e => { c with screen := .redirect mount (some e.message) }
  | .ok _ =>
    { c with screen := .redirect mount none }.ask ((resolveRedirect method id).map (.wayOut mount))
      fun e => .wayOut mount (.error (.redirect e.message))

def openLogin (c : Console) : Console :=
  let (mount, c) := c.nextMount
  let told (methods : Except ApiError AuthMethods) : News :=
    .methods mount (methods.mapError (·.message))
  { c with screen := .login mount (.opened c.query) }.ask (.ask .authMethods told)
    fun e => .methods mount (.error e.message)

def openBranch (c : Console) (branch : Branch) : Console :=
  let c := { c with branch := branch }
  match branch with
  | .resolving => { c with screen := .nothing }
  | .error message => { c with screen := .failure message }
  | .authenticated => c.openPlace (.ofPath c.path)
  | .callbackHandoff method id => c.openCallback method id
  | .redirectHandoff method id => c.openRedirect method id
  | .unauthenticated => c.openLogin

/-- Brings the screen up to date with the session and the address. A branch that is on screen
already stays, and so does a page of the application. -/
def refresh (c : Console) : Console :=
  let branch := c.session.branch (.ofPath c.path)
  if branch ≠ c.branch then c.openBranch branch
  else
    match c.screen with
    | .application place _ =>
      let wanted := Place.ofPath c.path
      if wanted ≠ place then c.openPlace wanted else c
    | _ => c

def publish (c : Console) : Console :=
  let changed := c.session.identity ≠ c.identity
  let c := { c with identity := c.session.identity }
  match c.screen with
  | .application .upgrade _ =>
    if changed ∧ c.session.branch (.ofPath c.path) = c.branch then c.openUpgrade else c
  | _ => c

end AdminConsole.Console
