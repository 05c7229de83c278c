import AdminConsole.Text

/-!
# Routes

What the current address asks of the session: to finish a federation login that a provider answers,
to start one, or nothing special. Segments are kept as they are written; judging them is left to
the federation legs.
-/

namespace AdminConsole

inductive Route where
  | callback (method id : String)
  | login (method id : String)
  | normal
deriving DecidableEq, Repr

namespace Route

def dropSlash (cs : List Char) : List Char :=
  match cs with
  | '/' :: rest => rest
  | _ => cs

def dropEndSlash (cs : List Char) : List Char :=
  if cs.getLast? = some '/' then cs.dropLast else cs

def pathOf (address : List Char) : List Char :=
  address.takeWhile fun c => c ≠ '?' ∧ c ≠ '#'

/-- Classifies an address: a word, a method and an id, with a slash in front and one at the end
both optional. -/
def ofPath (address : String) : Route :=
  match Text.split '/' (dropSlash (dropEndSlash (pathOf address.toList))) with
  | [word, method, id] =>
    if method = [] ∨ id = [] then normal
    else if word = "callback".toList then callback (String.ofList method) (String.ofList id)
    else if word = "login".toList then login (String.ofList method) (String.ofList id)
    else normal
  | _ => normal

/-- The address of a route. Every address without a meaning of its own stands for `normal`. -/
def path : Route → String
  | callback method id => "/callback/" ++ method ++ "/" ++ id
  | login method id => "/login/" ++ method ++ "/" ++ id
  | normal => "/"

def isFederation (r : Route) : Bool := r ≠ normal

end Route

end AdminConsole
