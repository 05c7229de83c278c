import AdminConsole.Backend
import AdminConsole.BaseUrl
import AdminConsole.Http

/-!
# The client of the backend

Each question is one HTTP request: its address is the base URL with the segments of the question
appended, and its answer is read from the response.
-/

namespace AdminConsole

namespace Call

def segments {β : Type} : Call β → List String
  | .userInfo _ => ["userinfo"]
  | .login _ => ["auth"]
  | .exchangeCode method id _ => ["authmethods", method, id]
  | .providerRedirect method id => ["authmethods", method, id]
  | .authMethods => ["authmethods"]
  | .upgradeStatus _ => ["upgrade"]
  | .startUpgrade _ => ["upgrade"]

def token? {β : Type} : Call β → Option SessionToken
  | .userInfo token => some token
  | .upgradeStatus token => some token
  | .startUpgrade token => some token
  | _ => none

def body? {β : Type} : Call β → Option String
  | .login request => some (LoginRequest.codec.encode request)
  | .exchangeCode _ _ request => some (TokenExchangeRequest.codec.encode request)
  | .startUpgrade _ => some "\x7b\x7d"
  | _ => none

def method {β : Type} (call : Call β) : String :=
  if call.body?.isSome then "POST" else "GET"

def decode {β : Type} (codec : Json.Codec β) (body : List UInt8) : Except ApiError β :=
  match codec.decode body with
  | .ok value => .ok value
  | .error failure => .error (.body (failure.message body))

def success {β : Type} (read : List UInt8 → Except ApiError β) (r : Http.Response) :
    Except ApiError β :=
  if r.isSuccess then read r.body else .error (.status r.status r.text)

/-- Reads an identity check. Every status is an answer, and only an accepted token needs a body
that can be read. -/
def identityCheck (r : Http.Response) : Except ApiError IdentityCheck :=
  match UserInfo.codec.decode r.body with
  | .ok info => .ok ⟨r.status, info⟩
  | .error failure =>
    if r.status = 200 then .error (.body (failure.message r.body))
    else .ok ⟨r.status, .blank⟩

def ofResponse {β : Type} : Call β → Http.Response → Except ApiError β
  | .userInfo _ => identityCheck
  | .login _ => success (decode LoginResponse.codec)
  | .exchangeCode _ _ _ => success (decode LoginResponse.codec)
  | .providerRedirect _ _ => success (decode Provider.codec)
  | .authMethods => success (decode AuthMethods.codec)
  | .upgradeStatus _ => success (decode UpgradeStatus.codec)
  | .startUpgrade _ => success fun _ => .ok ()

def ofAnswer {β : Type} (call : Call β) : Http.Answer → Except ApiError β
  | .error e => .error (.transport e.message)
  | .ok response => call.ofResponse response

end Call

structure ApiClient where
  base : Url
deriving DecidableEq, Repr

namespace ApiClient

/-- Sets a client up for a base URL that is normalized already. `obstacle` says why no HTTP client
can be had, if so; the URL is judged first. -/
def ofNormalized (baseUrl : String) (obstacle : Option String) : Except ConfigError ApiClient :=
  match Url.ofText? baseUrl.toList, obstacle with
  | none, _ => .error (.invalidBaseUrl baseUrl)
  | some _, some details => .error (.clientBuild details)
  | some base, none => .ok ⟨base⟩

def ofBaseUrl (raw : String) (obstacle : Option String) : Except ConfigError ApiClient :=
  (BaseUrl.normalize raw).bind (ofNormalized · obstacle)

def ofOrigin (origin : String) (obstacle : Option String) : Except ConfigError ApiClient :=
  (BaseUrl.ofOrigin origin).bind (ofNormalized · obstacle)

def endpoint (c : ApiClient) (segments : List String) : Url :=
  c.base.append (segments.map String.toList)

/-- The request for a question, unless its token cannot stand in a header. -/
def request? {β : Type} (c : ApiClient) (call : Call β) : Option Http.Request :=
  if (call.token?.map fun t => Http.isHeaderValue t.bearer).getD true then
    some
      { method := call.method
        url := c.endpoint call.segments
        headers :=
          { authorization := call.token?.map (·.bearer)
            contentType := call.body?.map fun _ => Http.jsonType
            accept := some Http.anyType }
        body := Utf8.encode ((call.body?.getD "").toList) }
  else none

/-- Asks a question over a connection: the request sent, if any, and the answer. -/
def perform {β : Type} (c : ApiClient) (connection : Http.Request → Http.Answer)
    (call : Call β) : Option Http.Request × Except ApiError β :=
  match c.request? call with
  | none => (none, call.ofAnswer (.error .building))
  | some request => (some request, call.ofAnswer (connection request))

end ApiClient

end AdminConsole
