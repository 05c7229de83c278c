import AdminConsole.Wire

/-!
# Identity

Who the console believes its visitor to be. A record is never edited in place: every change gives a
new one. The backend reports one role per user. A gate asks for one role and lets exactly that role
through: there is no hierarchy among roles.
-/

namespace AdminConsole

/-! ## Roles -/

/-- A role as reported. Unknown roles are kept; the empty role is that of an anonymous visitor. -/
structure Role where
  name : String
deriving DecidableEq, Repr

namespace Role

def admin : Role := ⟨"admin"⟩

def user : Role := ⟨"user"⟩

def anonymous : Role := ⟨""⟩

def isAnonymous (r : Role) : Bool := r.name.isEmpty

def isAdmin (r : Role) : Bool := r = admin

def codec : Json.Codec Role := Json.Codec.text.iso (⟨·⟩) (·.name)

structure Mismatch where
  required : Role
  actual : Role
deriving DecidableEq, Repr

def Mismatch.message (m : Mismatch) : String :=
  "role '" ++ m.required.name ++ "' required, user has '" ++ m.actual.name ++ "'"

def check (required actual : Role) : Except Mismatch Unit :=
  if required = actual then .ok () else .error ⟨required, actual⟩

theorem check_eq_ok_iff {required actual : Role} :
    check required actual = .ok () ↔ required = actual := by
  simp only [check]
  split <;> simp_all

end Role

/-! ## Accounts -/

/-- The kind of account. `unknown` stands for one that is not reported yet, or that this console
does not know. -/
inductive UserType where
  | localAccount
  | oidc
  | saml
  | unknown
deriving DecidableEq, Repr

namespace UserType

def text : UserType → String
  | .localAccount => "local"
  | .oidc => "oidc"
  | .saml => "saml"
  | .unknown => ""

def ofText (s : String) : UserType :=
  if s = "local" then .localAccount
  else if s = "oidc" then .oidc
  else if s = "saml" then .saml
  else .unknown

theorem ofText_text (t : UserType) : ofText t.text = t := by
  cases t <;> simp [ofText, text]

/-- Whether the appliance keeps the password and the factors of the account. A provider keeps those
of federated accounts. -/
def managesCredentials (t : UserType) : Bool := t = .localAccount

def codec : Json.Codec UserType := Json.Codec.text.iso ofText text

end UserType

structure Identity where
  login : String
  role : Role
  token : SessionToken
  userType : UserType
deriving DecidableEq, Repr

namespace Identity

def anonymous : Identity := ⟨"", .anonymous, .empty, .unknown⟩

def withToken (i : Identity) (token : SessionToken) : Identity := { i with token := token }

/-- Takes over what the backend reports. A report without a login says nothing about the visitor
and changes nothing. -/
def merge (i : Identity) (info : UserInfo) : Identity :=
  if info.login.isEmpty then i
  else
    { i with
      login := info.login
      role := ⟨info.role⟩
      userType := .ofText info.userType }

theorem token_merge (i : Identity) (info : UserInfo) : (i.merge info).token = i.token := by
  simp only [merge]
  split <;> rfl

theorem merge_merge (i : Identity) (info : UserInfo) :
    (i.merge info).merge info = i.merge info := by
  by_cases hlogin : info.login.isEmpty = true <;> simp [merge, hlogin]

end Identity

end AdminConsole
