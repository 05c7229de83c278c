import AdminConsole.Text

/-!
# Cookies

Looking a cookie up in the text of a jar, writing the assignment that sets one, and what an
assignment does to a jar. Nothing is percent-decoded.
-/

namespace AdminConsole.Cookie

/-- A piece of a jar: name and value around the first equals sign, without the white space around
them. A piece without an equals sign or without a name is no cookie. -/
def ofPiece? (piece : List Char) : Option (List Char × List Char) :=
  match Text.cut '=' piece with
  | (_, none) => none
  | (name, some value) =>
    let name := Text.trim name
    if name = [] then none else some (name, Text.trim value)

def cookies (jar : List Char) : List (List Char × List Char) :=
  (Text.split ';' jar).filterMap ofPiece?

def find? (jar name : String) : Option String :=
  ((cookies jar.toList).lookup name.toList).map String.ofList

def assignment (name value : String) : String := name ++ "=" ++ value ++ "; Path=/"

def nameOf (piece : List Char) : List Char := Text.trim (Text.cut '=' piece).1

def replaceFirst? (name : List Char) (setting : List Char) :
    List (List Char) → Option (List (List Char))
  | [] => none
  | piece :: pieces =>
    if nameOf piece = name then some (setting :: pieces)
    else (replaceFirst? name setting pieces).map (piece :: ·)

/-- The jar after an assignment. What stands behind the first semicolon are attributes. The cookie
keeps its place if the jar has it, and comes last otherwise. -/
def assign (jar assignment : String) : String :=
  let setting := Text.trim (Text.cut ';' assignment.toList).1
  -- Empty pieces vanish when a jar is written.
  let pieces := ((Text.split ';' jar.toList).map Text.trim).filter (· ≠ [])
  let updated :=
    match replaceFirst? (nameOf setting) setting pieces with
    | some pieces => pieces
    | none => pieces ++ [setting]
  String.ofList (Text.join ';' (updated.zipIdx.map fun (piece, i) =>
    if i = 0 then piece else ' ' :: piece))

end AdminConsole.Cookie
