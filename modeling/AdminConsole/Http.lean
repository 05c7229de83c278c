import AdminConsole.Url

/-!
# HTTP

Requests and responses as far as the console uses them, and what becomes of a response on its way.
-/

namespace AdminConsole.Http

structure Headers where
  authorization : Option String
  contentType : Option String
  accept : Option String
deriving DecidableEq, Repr

def Headers.none : Headers := ⟨.none, .none, .none⟩

structure Request where
  method : String
  url : Url
  headers : Headers
  body : List UInt8
deriving DecidableEq, Repr

structure Response where
  status : Nat
  contentType : Option String
  body : List UInt8
deriving DecidableEq, Repr

inductive TransportError where
  /-- The request could not be put together, so nothing was sent. -/
  | building
  | sending
  | receiving
deriving DecidableEq, Repr

def TransportError.message : TransportError → String
  | .building => "builder error"
  | .sending => "error sending request"
  | .receiving => "error decoding response body"

abbrev Answer := Except TransportError Response

inductive Break where
  | beforeResponse
  | insideBody
deriving DecidableEq, Repr

structure Delivery where
  response : Response
  broken : Option Break
deriving DecidableEq, Repr

def carriesBody (method : String) (status : Nat) : Bool :=
  method ≠ "HEAD" && status ≠ 204 && status ≠ 304

/-- A status is a number of three digits, and a final one is at least 200. -/
def isFinalStatus (status : Nat) : Bool := 200 ≤ status && status ≤ 999

def Delivery.answer (method : String) (d : Delivery) : Answer :=
  if d.broken = some .beforeResponse ∨ !isFinalStatus d.response.status then .error .sending
  -- Without a body there is nothing to break off.
  else if !carriesBody method d.response.status then .ok { d.response with body := [] }
  else if d.broken = some .insideBody then .error .receiving
  else .ok d.response

def Response.isSuccess (r : Response) : Bool := 200 ≤ r.status && r.status < 300

theorem Response.isSuccess_iff {r : Response} :
    r.isSuccess = true ↔ 200 ≤ r.status ∧ r.status < 300 := by
  simp [isSuccess]

def Response.text (r : Response) : String := String.ofList (Utf8.decodeLossy r.body)

/-- Whether a text can stand in a header: no control but the tab. -/
def isHeaderValue (s : String) : Bool :=
  s.toList.all fun c => (0x20 ≤ c.toNat && c.toNat ≠ 0x7F) || c = '\t'

theorem isHeaderValue_iff {s : String} :
    isHeaderValue s = true ↔ ∀ c ∈ s.toList, 0x20 ≤ c.toNat ∧ c.toNat ≠ 0x7F ∨ c = '\t' := by
  simp [isHeaderValue]

def anyType : String := "*/*"

def jsonType : String := "application/json"

end AdminConsole.Http
