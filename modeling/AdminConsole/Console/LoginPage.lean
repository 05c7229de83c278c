import AdminConsole.Console.Html
import AdminConsole.Login

/-!
# The login page

A banner for what a provider complained about, a button for each provider, and the form for login
and password unless the backend switched that off. The form turns to the second factor when the
backend asks for one.
-/

namespace AdminConsole

structure LoginPage where
  banner : Option String
  methods : Option (Except String AuthMethods)
  redirectError : Option String
  form : LoginForm
  formError : Option String

namespace LoginPage

def opened (query : String) : LoginPage := ⟨providerBanner? query, none, none, .empty, none⟩

open Html (el)

def factorFields (form : LoginForm) : View :=
  [el "label" [] [.text "Code", .element "input" [("type", "number")] (some .editCode) []],
    .element "select" [] (some .pickFactor)
      (form.factors.map fun factor => el "option" [("value", factor)] [.text factor])]

def passwordFields : View :=
  let field (label type hint : String) (action : Action) : Html Action :=
    el "label" [] [.text label, .element "input"
      [("type", type), ("placeholder", hint), ("required", "")] (some action) []]
  [field "Login" "text" "Your username" .editLogin,
    field "Password" "password" "Your password" .editPassword]

def formView (p : LoginPage) : Html Action :=
  let error := View.ofOption p.formError fun message =>
    [el "div" [("class", "alert alert-error"), ("role", "alert")] [.text message]]
  let fields := if p.form.needsFactor then factorFields p.form else passwordFields
  .element "form" [("class", "login-form")] (some .submitLogin)
    (error ++ fields ++ [el "button" [("type", "submit")] [.text "Sign in"]])

def optionsView (p : LoginPage) (methods : AuthMethods) : View :=
  let error := View.ofOption p.redirectError fun message =>
    [el "p" [("class", "alert")] [.text message]]
  let button (provider : Provider) : Html Action :=
    .element "button" [("class", "provider-button")] (some (.chooseProvider provider.id))
      [.text "Login with ", .text provider.name]
  [el "div" [("class", "providers")] (error ++ methods.providers.map button)] ++
    View.when (methods.hasProviders && methods.offersLocalLogin)
      [el "div" [("class", "divider")] [.text "Or continue with login"]] ++
    View.when methods.offersLocalLogin [p.formView]

def view (p : LoginPage) : View :=
  let banner := View.ofOption p.banner fun message =>
    [el "div" [("class", "alert alert-error")] [.text message]]
  let options := View.ofOption p.methods fun
    | .error message => [.text ("A backend error has occurred: " ++ message)]
    | .ok methods => p.optionsView methods
  [el "div" [("class", "login-page")]
    [el "div" [("class", "login-box")] ([el "h1" [] [.text "VPN Server"]] ++ banner ++ options)]]

end LoginPage

end AdminConsole
