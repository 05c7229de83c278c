import AdminConsole.Http

/-!
# Forwarding

The console and the backend share a site: requests for the backend are sent on to it. Method, path,
query and body go through unchanged, of the headers only those that matter to the backend, and the
response comes back as it is.
-/

namespace AdminConsole

/-- A request as it comes in. Header names may be in any case. -/
structure Incoming where
  method : String
  uri : String
  headers : List (String × String)
  body : List UInt8

structure Proxy where
  backend : String
deriving DecidableEq, Repr

namespace Proxy

def maxBody : Nat := 1024 * 1024

/-- Path and query of a request: an absolute URI counts from the end of its authority, and one that
is an authority alone asks for the root. -/
def pathAndQuery (uri : String) : List Char :=
  let located := uri.toList.takeWhile (· ≠ '#')
  let fromPath (cs : List Char) : List Char :=
    match cs.dropWhile fun c => c ≠ '/' ∧ c ≠ '?' with
    | [] => ['/']
    | path => path
  match located with
  -- An origin or an asterisk is taken as it is, anything else starts with an authority.
  | [] => ['/']
  | '/' :: _ => located
  | '*' :: _ => located
  | _ =>
    match Text.cut ':' located with
    | (_, some ('/' :: '/' :: rest)) => fromPath rest
    | _ => fromPath located

def target (p : Proxy) (uri : String) : List Char := p.backend.toList ++ pathAndQuery uri

def firstValue? (headers : List (String × String)) (name : String) : Option String :=
  (headers.find? fun (key, _) => Text.lower key.toList = name.toList).map (·.2)

/-- The headers that are sent on. A client that states no accepted types accepts any. -/
def forwarded (headers : List (String × String)) : Http.Headers where
  authorization := firstValue? headers "authorization"
  contentType := firstValue? headers "content-type"
  accept := some ((firstValue? headers "accept").getD Http.anyType)

def plainText : String := "text/plain; charset=utf-8"

def own (status : Nat) (text : String) : Http.Response :=
  ⟨status, some plainText, Utf8.encode text.toList⟩

theorem own_eq (status : Nat) (text : String) :
    own status text =
      ⟨status, some "text/plain; charset=utf-8", Utf8.encode text.toList⟩ := rfl

def tooLarge : Http.Response := own 413 "length limit exceeded"

def unreachable : Http.Response := own 502 "API upstream unreachable"

def forward (p : Proxy) (incoming : Incoming) : Except Http.Response Http.Request :=
  if incoming.body.length > maxBody then .error tooLarge
  else
    match Url.ofText? (p.target incoming.uri) with
    | none => .error unreachable
    | some url =>
      .ok
        { method := incoming.method
          url := url
          headers := forwarded incoming.headers
          body := incoming.body }

def reply : Http.Answer → Http.Response
  | .ok response => response
  | .error _ => unreachable

/-- Handles a request over a connection to the backend: the request sent on, if any, and the
answer. -/
def handle (p : Proxy) (connection : Http.Request → Http.Answer) (incoming : Incoming) :
    Option Http.Request × Http.Response :=
  match p.forward incoming with
  | .error response => (none, response)
  | .ok request => (some request, reply (connection request))

end Proxy

end AdminConsole
