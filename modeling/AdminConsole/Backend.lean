import AdminConsole.Wire

/-!
# The backend

The questions the console asks its backend, each with the type of a good answer, and the ways in
which an answer can fail to come.
-/

namespace AdminConsole

inductive ApiError where
  | transport (details : String)
  | status (code : Nat) (body : String)
  | body (details : String)
deriving DecidableEq, Repr

namespace ApiError

def message : ApiError → String
  | .transport details => "request failed: " ++ details
  | .status code _ => "Request failed with status code " ++ toString code
  | .body details => "invalid response body: " ++ details

theorem message_transport (details : String) :
    (transport details).message = "request failed: " ++ details := rfl

theorem message_status (code : Nat) (body : String) :
    (status code body).message = "Request failed with status code " ++ toString code := rfl

theorem message_body (details : String) :
    (body details).message = "invalid response body: " ++ details := rfl

def status? : ApiError → Option Nat
  | .status code _ => some code
  | _ => none

end ApiError

/-- The answer to the identity check. Every status is an answer. -/
structure IdentityCheck where
  status : Nat
  info : UserInfo
deriving DecidableEq, Repr

namespace IdentityCheck

def isAuthorized (c : IdentityCheck) : Bool := c.status = 200

def isServerError (c : IdentityCheck) : Bool := 500 ≤ c.status

end IdentityCheck

/-- A question, indexed by what a good answer carries. -/
inductive Call : Type → Type where
  | userInfo (token : SessionToken) : Call IdentityCheck
  | login (request : LoginRequest) : Call LoginResponse
  | exchangeCode (method id : String) (request : TokenExchangeRequest) : Call LoginResponse
  | providerRedirect (method id : String) : Call Provider
  | authMethods : Call AuthMethods
  | upgradeStatus (token : SessionToken) : Call UpgradeStatus
  | startUpgrade (token : SessionToken) : Call Unit
deriving Repr

abbrev Answers := {β : Type} → Call β → Except ApiError β

/-- A decision that may need the answer to one question first. -/
inductive Leg (α : Type) : Type 1 where
  | decided (a : α)
  | ask {β : Type} (call : Call β) (decide : Except ApiError β → α)

namespace Leg

variable {α : Type}

def run (answers : Answers) : Leg α → α
  | .decided a => a
  | .ask call decide => decide (answers call)

def call? : Leg α → Option (Σ β, Call β)
  | .decided _ => none
  | .ask call _ => some ⟨_, call⟩

def map {β : Type} (f : α → β) : Leg α → Leg β
  | .decided a => .decided (f a)
  | .ask call decide => .ask call (f ∘ decide)

end Leg

end AdminConsole
