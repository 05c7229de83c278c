/-!
# Markup

A page as a tree. Elements may carry what happens when a visitor uses them, so that the same tree
tells what is on screen and what can be done with it.
-/

namespace AdminConsole

/-- Markup whose elements trigger actions of type `α`. -/
inductive Html (α : Type) where
  | text (s : String)
  | element (tag : String) (attributes : List (String × String)) (action : Option α)
      (children : List (Html α))

namespace Html

variable {α : Type}

def el (tag : String) (attributes : List (String × String)) (children : List (Html α)) : Html α :=
  .element tag attributes none children

def escapeChar (quoted : Bool) (c : Char) : List Char :=
  if c = '&' then "&amp;".toList
  else if quoted ∧ c = '"' then "&quot;".toList
  else if ¬ quoted ∧ c = '<' then "&lt;".toList
  else if ¬ quoted ∧ c = '>' then "&gt;".toList
  else [c]

def escape (quoted : Bool) (s : String) : String :=
  String.ofList (s.toList.flatMap (escapeChar quoted))

/-- An attribute with an empty value is its name alone. -/
def renderAttribute (name value : String) : String :=
  if value.isEmpty then " " ++ name else " " ++ name ++ "=\"" ++ escape true value ++ "\""

def isVoid (tag : String) : Bool := tag = "input"

mutual

def render : Html α → String
  | .text s => escape false s
  | .element tag attributes _ children =>
    let shown := attributes.map fun (name, value) => renderAttribute name value
    let opening := "<" ++ tag ++ String.join shown ++ ">"
    if isVoid tag then opening else opening ++ renderAll children ++ "</" ++ tag ++ ">"

def renderAll : List (Html α) → String
  | [] => ""
  | node :: nodes => render node ++ renderAll nodes

end

mutual

def actions (wanted : String) : Html α → List α
  | .text _ => []
  | .element tag _ action children =>
    let inner := allActions wanted children
    if tag = wanted then action.toList ++ inner else inner

def allActions (wanted : String) : List (Html α) → List α
  | [] => []
  | node :: nodes => actions wanted node ++ allActions wanted nodes

end

end Html

/-! ## What a visitor can do -/

inductive Action where
  | startUpgrade
  | chooseProvider (id : String)
  | editLogin
  | editPassword
  | editCode
  | pickFactor
  | submitLogin
deriving DecidableEq, Repr

abbrev View := List (Html Action)

namespace View

def ofOption {β : Type} (value : Option β) (view : β → View) : View := (value.map view).getD []

def when (shown : Bool) (view : View) : View := if shown then view else []

end View

end AdminConsole
