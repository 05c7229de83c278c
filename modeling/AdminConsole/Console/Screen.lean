import AdminConsole.Console.LoginPage
import AdminConsole.Console.UpgradePage
import AdminConsole.Session

/-!
# Screens

What is on screen: nothing, an error, one of the two federation handlers, the login page, or the
application with one of its pages. Whatever waits for answers carries a number of its own, so that
an answer to something that has left the screen can be told.
-/

namespace AdminConsole

open Html (el)

inductive Place where
  | home
  | profile
  | upgrade
  | logout
  | federation
  | unknown
deriving DecidableEq, Repr

def Place.ofPath (path : String) : Place :=
  let name := String.ofList (Route.dropEndSlash path.toList)
  if name = "" then .home
  else if name = "/profile" then .profile
  else if name = "/upgrade" then .upgrade
  else if name = "/logout" then .logout
  else if (Route.ofPath path).isFederation then .federation
  else .unknown

inductive Page where
  | home
  | profile
  | upgrade (mount : Nat) (page : UpgradePage)
  | forbidden
  | notFound

namespace Page

def homeView (identity : Identity) : View :=
  let greeting :=
    if identity.login.isEmpty then "Welcome!" else "Welcome, " ++ identity.login ++ "!"
  [el "div" [("class", "home-page")]
    [el "h1" [] [.text greeting],
      el "p" [] [.text "Manage your VPN server from the menu above."]]]

def profileView (identity : Identity) : View :=
  let kind := identity.userType.text
  let entry (name value : String) : View := [el "dt" [] [.text name], el "dd" [] [.text value]]
  let federated := View.when (!identity.userType.managesCredentials)
    [el "p" [] [.text "Password and MFA settings are managed by your identity provider."]]
  [el "div" [("class", "profile-page")]
    ([el "h1" [] [.text "Profile"],
      el "dl" [] (entry "Login" identity.login ++ entry "Role" identity.role.name ++
        entry "Account type" (if kind.isEmpty then "unknown" else kind))] ++ federated)]

def forbiddenView : View :=
  [el "div" [("class", "forbidden")]
    [el "div" [("class", "forbidden-label")] [.text "403"],
      el "h1" [] [.text "You have found a secret place."],
      el "p" [] [.text "Unfortunately, you don't have access to this page."],
      el "a" [("href", "/")] [.text "Take me back to home page"]]]

def view (identity : Identity) : Page → View
  | .home => homeView identity
  | .profile => profileView identity
  | .upgrade _ page => page.view
  | .forbidden => forbiddenView
  | .notFound => [.text "Page not found."]

end Page

inductive Screen where
  | nothing
  | failure (message : String)
  | application (place : Place) (page : Page)
  | callback (mount : Nat) (error : Option String)
  | redirect (mount : Nat) (error : Option String)
  | login (mount : Nat) (page : LoginPage)

namespace Screen

def headerView (identity : Identity) : View :=
  let link (address label : String) : Html Action := el "a" [("href", address)] [.text label]
  [el "header" [("class", "header")]
    [el "div" [("class", "header-left")]
        [el "a" [("href", "/"), ("class", "logo")] [.text "VPN Server"]],
      el "nav" [("class", "header-right")]
        ([link "/" "Home"] ++ View.when identity.role.isAdmin [link "/upgrade" "Upgrade"] ++
          [link "/profile" identity.login, link "/logout" "Logout"])]]

def view (identity : Identity) : Screen → View
  | .nothing => []
  | .failure message => [.text ("A backend error has occurred: " ++ message)]
  | .application _ page =>
    headerView identity ++ [el "main" [("class", "container")] (page.view identity)]
  | .callback _ error =>
    View.ofOption error fun message => [.text message]
  | .redirect _ error =>
    View.ofOption error fun message => [.text message]
  | .login _ page => page.view

end Screen

end AdminConsole
