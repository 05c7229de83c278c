import AdminConsole.Json.Record
import AdminConsole.Token

/-!
# Bodies

What is exchanged with the backend, with the keys and the field order of its JSON. Answers are
lenient, so that partial bodies such as that of a refusal can be read; requests name every field.
-/

namespace AdminConsole

open Json (Codec Field Shape)

structure UserInfo where
  login : String
  role : String
  userType : String
deriving DecidableEq, Repr

namespace UserInfo

def blank : UserInfo := ⟨"", "", ""⟩

def shape : Shape UserInfo where
  name := "UserInfo"
  blank := blank
  isLenient := true
  fields := [
    .of "login" .text (·.login) fun v r => { r with login := v },
    .of "role" .text (·.role) fun v r => { r with role := v },
    .of "userType" .text (·.userType) fun v r => { r with userType := v }]

def codec : Codec UserInfo := shape.codec

end UserInfo

structure LoginResponse where
  authenticated : Bool
  token : SessionToken
  mfaRequired : Bool
  factors : List String
  suspended : Bool
  noLicense : Bool
deriving DecidableEq, Repr

namespace LoginResponse

def blank : LoginResponse := ⟨false, .empty, false, [], false, false⟩

def shape : Shape LoginResponse where
  name := "LoginResponse"
  blank := blank
  isLenient := true
  fields := [
    .of "authenticated" .bool (·.authenticated) fun v r => { r with authenticated := v },
    .of "token" SessionToken.codec (·.token) fun v r => { r with token := v },
    .of "mfaRequired" .bool (·.mfaRequired) fun v r => { r with mfaRequired := v },
    .of "factors" (.list .text) (·.factors) fun v r => { r with factors := v },
    .of "suspended" .bool (·.suspended) fun v r => { r with suspended := v },
    .of "noLicense" .bool (·.noLicense) fun v r => { r with noLicense := v }]

def codec : Codec LoginResponse := shape.codec

end LoginResponse

/-- A federation provider. Only a look-up of one provider tells where to send the browser. -/
structure Provider where
  id : String
  name : String
  redirectUri : Option String
deriving DecidableEq, Repr

namespace Provider

def blank : Provider := ⟨"", "", none⟩

def redirectCodec : Codec (Option String) := Codec.text.orNull none some (·.getD "")

def shape : Shape Provider where
  name := "AuthMethodsProvider"
  blank := blank
  isLenient := true
  fields := [
    .of "id" .text (·.id) fun v r => { r with id := v },
    .of "name" .text (·.name) fun v r => { r with name := v },
    .omitting Option.isNone "redirectURI" redirectCodec (·.redirectUri)
      fun v r => { r with redirectUri := v }]

def codec : Codec Provider := shape.codec

end Provider

structure AuthMethods where
  localAuthDisabled : Bool
  providers : List Provider
deriving DecidableEq, Repr

namespace AuthMethods

def blank : AuthMethods := ⟨false, []⟩

def offersLocalLogin (m : AuthMethods) : Bool := !m.localAuthDisabled

def hasProviders (m : AuthMethods) : Bool := !m.providers.isEmpty

/-- The backend may report an empty list of providers as `null`. -/
def providersCodec : Codec (List Provider) := (Codec.list Provider.codec).orNull [] id id

def shape : Shape AuthMethods where
  name := "AuthMethods"
  blank := blank
  isLenient := true
  fields := [
    .of "localAuthDisabled" .bool (·.localAuthDisabled)
      fun v r => { r with localAuthDisabled := v },
    .of "oidcProviders" providersCodec (·.providers) fun v r => { r with providers := v }]

def codec : Codec AuthMethods := shape.codec

end AuthMethods

structure UpgradeStatus where
  currentVersion : String
  newVersionAvailable : Bool
  newVersion : String
deriving DecidableEq, Repr

namespace UpgradeStatus

def blank : UpgradeStatus := ⟨"", false, ""⟩

def shape : Shape UpgradeStatus where
  name := "UpgradeStatus"
  blank := blank
  isLenient := true
  fields := [
    .of "currentVersion" .text (·.currentVersion) fun v r => { r with currentVersion := v },
    .of "newVersionAvailable" .bool (·.newVersionAvailable)
      fun v r => { r with newVersionAvailable := v },
    .of "newVersion" .text (·.newVersion) fun v r => { r with newVersion := v }]

def codec : Codec UpgradeStatus := shape.codec

end UpgradeStatus

structure FactorResponse where
  name : String
  code : String
deriving DecidableEq, Repr

namespace FactorResponse

def blank : FactorResponse := ⟨"", ""⟩

def shape : Shape FactorResponse where
  name := "FactorResponse"
  blank := blank
  isLenient := false
  fields := [
    .of "name" .text (·.name) fun v r => { r with name := v },
    .of "code" .text (·.code) fun v r => { r with code := v }]

def codec : Codec FactorResponse := shape.codec

end FactorResponse

structure LoginRequest where
  login : String
  password : String
  factor : FactorResponse
deriving DecidableEq, Repr

namespace LoginRequest

def blank : LoginRequest := ⟨"", "", .blank⟩

def shape : Shape LoginRequest where
  name := "LoginRequest"
  blank := blank
  isLenient := false
  fields := [
    .of "login" .text (·.login) fun v r => { r with login := v },
    .of "password" .text (·.password) fun v r => { r with password := v },
    .of "factorResponse" FactorResponse.codec (·.factor) fun v r => { r with factor := v }]

def codec : Codec LoginRequest := shape.codec

end LoginRequest

/-- The values a provider handed to the callback address, and that address's path. -/
structure TokenExchangeRequest where
  code : String
  state : String
  redirectUri : String
deriving DecidableEq, Repr

namespace TokenExchangeRequest

def blank : TokenExchangeRequest := ⟨"", "", ""⟩

def shape : Shape TokenExchangeRequest where
  name := "TokenExchangeRequest"
  blank := blank
  isLenient := false
  fields := [
    .of "code" .text (·.code) fun v r => { r with code := v },
    .of "state" .text (·.state) fun v r => { r with state := v },
    .of "redirectURI" .text (·.redirectUri) fun v r => { r with redirectUri := v }]

def codec : Codec TokenExchangeRequest := shape.codec

end TokenExchangeRequest

end AdminConsole
