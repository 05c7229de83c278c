import AdminConsole.ApiClient
import AdminConsole.Cookie
import AdminConsole.Token

/-!
# The browser

What the console uses of the browser it runs in: the cookies, the address it was loaded from, other
pages to go to, history and timers. Each facility may fail. What the console does to the browser is
kept in the order in which it happens.
-/

namespace AdminConsole

inductive Facility where
  | document
  | cookieRead
  | cookieWrite
  | origin
  | href
  | history
  | replace
  | reload
  | interval
  | client
deriving DecidableEq, Repr

inductive BrowserError where
  /-- There is no browser, as when a page is rendered on the server. -/
  | noWindow
  | apiClient (details : String)
  | navigation (details : String)
deriving DecidableEq, Repr

def BrowserError.message : BrowserError → String
  | .noWindow => "no browser window"
  | .apiClient details => "API client unavailable: " ++ details
  | .navigation details => "navigation failed: " ++ details

inductive Effect where
  | setCookie (assignment : String)
  | replaceHistory (path : String) (title : String)
  | reload
  | goTo (uri : String)
deriving DecidableEq, Repr

structure Browser where
  jar : String
  origin : String
  faults : List (Facility × String)
  effects : List Effect
deriving DecidableEq, Repr

namespace Browser

def fault? (b : Browser) (f : Facility) : Option String := b.faults.lookup f

def setFault (b : Browser) (f : Facility) (text : Option String) : Browser :=
  let others := b.faults.filter (·.1 ≠ f)
  { b with faults := (text.map (f, ·)).toList ++ others }

def thrown (text : String) : String := "JsValue(" ++ text ++ ")"

def emit (b : Browser) (e : Effect) : Browser := { b with effects := b.effects ++ [e] }

/-! ## The cookie jar as a token store -/

def getCookie (b : Browser) (name : String) : Option String :=
  if (b.fault? .document).isSome ∨ (b.fault? .cookieRead).isSome then none
  else Cookie.find? b.jar name

def setCookie (b : Browser) (name value : String) : Except StoreError Browser :=
  match b.fault? .document, b.fault? .cookieWrite with
  | some _, _ => .error (.unavailable "document is not an HTML document")
  | none, some text => .error (.writeFailed name (thrown text))
  | none, none =>
    let assignment := Cookie.assignment name value
    .ok ({ b with jar := Cookie.assign b.jar assignment }.emit (.setCookie assignment))

instance : TokenStore Browser where
  get := getCookie
  set := setCookie

/-! ## The backend and other places -/

def apiClient (b : Browser) : Except BrowserError ApiClient :=
  match b.fault? .origin with
  | some text => .error (.navigation (thrown text))
  | none =>
    match ApiClient.ofOrigin b.origin (b.fault? .client) with
    | .error e => .error (.apiClient e.message)
    | .ok client => .ok client

def goTo (b : Browser) (uri : String) : Except BrowserError Browser :=
  match b.fault? .href with
  | some text => .error (.navigation (thrown text))
  | none => .ok (b.emit (.goTo uri))

def title : String := "VPN Server"

/-- Replaces the entry of the history with the root and loads it anew, as far as the browser lets
it. -/
def reloadAtRoot (b : Browser) : Browser :=
  if (b.fault? .history).isSome ∨ (b.fault? .replace).isSome then b
  else
    let b := b.emit (.replaceHistory "/" title)
    if (b.fault? .reload).isSome then b else b.emit .reload

end Browser

end AdminConsole
