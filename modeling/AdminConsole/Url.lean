import AdminConsole.Percent
import AdminConsole.Url.Address
import AdminConsole.Url.Domain

/-!
# URLs

Absolute `http` and `https` URLs: reading them as the URL standard lays down, printing them, and
appending segments to their path. A URL is kept in its parts, each percent-encoded already.
-/

namespace AdminConsole

/-! ## Hosts -/

inductive Host where
  | domain (name : List Char)
  | ipv4 (address : Ipv4)
  | ipv6 (address : Ipv6)
deriving DecidableEq, Repr

namespace Host

/-- An address in brackets is read as IPv6. Any other text is percent-decoded and read as a domain,
which must be an IPv4 address if its last label is a number. -/
def ofText? (cs : List Char) : Option Host :=
  match cs with
  | [] => none
  | '[' :: rest =>
    if rest.getLast? = some ']' then (Ipv6.ofText? rest.dropLast).map ipv6 else none
  | _ =>
    match (Utf8.decode? (Percent.decode (Utf8.encode cs))).bind Domain.toAscii? with
    | none => none
    | some name =>
      if Ipv4.endsInNumber name then (Ipv4.ofText? name).map ipv4 else some (domain name)

def text : Host → List Char
  | domain name => name
  | ipv4 address => address.text
  | ipv6 address => '[' :: address.text ++ [']']

end Host

/-! ## Schemes and parts -/

inductive Scheme where
  | http
  | https
deriving DecidableEq, Repr

def Scheme.text : Scheme → List Char
  | .http => "http".toList
  | .https => "https".toList

def Scheme.defaultPort : Scheme → Nat
  | .http => 80
  | .https => 443

structure Url where
  scheme : Scheme
  username : List Char
  password : List Char
  host : Host
  /-- Absent if it is the default of the scheme. -/
  portNumber : Option Nat
  /-- The segments behind each slash: `[[]]` is the path `/`. -/
  path : List (List Char)
  query : Option (List Char)
  fragment : Option (List Char)
deriving DecidableEq, Repr

namespace Url

/-! ## Which characters are percent-encoded -/

def isControl (c : Char) : Bool := c.toNat < 0x20 || 0x7F ≤ c.toNat

def inFragment (c : Char) : Bool := isControl c || [' ', '"', '<', '>', '`'].contains c

def inPath (c : Char) : Bool := inFragment c || ['#', '?', '\x7b', '\x7d'].contains c

def inUserinfo (c : Char) : Bool :=
  inPath c || ['/', ':', ';', '=', '@', '[', '\\', ']', '^', '|'].contains c

/-- For a segment given on its own: also what would end it or read as an escape. -/
def inSegment (c : Char) : Bool := inPath c || ['/', '%', '\\'].contains c

def inQuery (c : Char) : Bool := isControl c || [' ', '"', '#', '<', '>', '\''].contains c

/-! ## Paths -/

def isSlash (c : Char) : Bool := c = '/' || c = '\\'

def undot : List Char → List Char
  | '%' :: '2' :: 'e' :: rest => '.' :: undot rest
  | '%' :: '2' :: 'E' :: rest => '.' :: undot rest
  | c :: rest => c :: undot rest
  | [] => []

def isSingleDot (segment : List Char) : Bool := undot segment = ['.']

def isDoubleDot (segment : List Char) : Bool := undot segment = ['.', '.']

def isDisk : List Char → Bool
  | [c, bar] => c.isAlpha && (bar = ':' || bar = '|')
  | _ => false

/-- Goes up from a path, which is listed with its last segment first. A disk is not left. -/
def parent : List (List Char) → List (List Char)
  | [] => []
  | segment :: before => if isDisk segment then segment :: before else before

/-- Follows the dot segments; `before` holds the segments kept so far, the last one first. A path
that ends in a dot segment ends in a slash. -/
def collapse : List (List Char) → List (List Char) → List (List Char)
  | before, [] => before.reverse
  | before, [last] =>
    if isDoubleDot last then (parent before).reverse ++ [[]]
    else if isSingleDot last then before.reverse ++ [[]]
    else before.reverse ++ [last]
  | before, segment :: segments =>
    if isDoubleDot segment then collapse (parent before) segments
    else if isSingleDot segment then collapse before segments
    else collapse (segment :: before) segments

def splitPath (cs : List Char) : List (List Char) :=
  Text.split '/' (cs.map fun c => if c = '\\' then '/' else c)

def readPath (cs : List Char) : List (List Char) :=
  (collapse [] (splitPath cs)).map (Percent.encode inPath)

/-! ## Reading -/

/-- Tabs and line breaks count as absent wherever they stand. -/
def isDropped (c : Char) : Bool := c = '\t' || c = '\n' || c = '\r'

def clean (cs : List Char) : List Char :=
  let isEdge (c : Char) : Bool := c.toNat ≤ 0x20
  (Text.dropEndWhile isEdge (cs.dropWhile isEdge)).filter (!isDropped ·)

/-- Cuts at the colon in front of the port number: the first one that is not inside brackets. -/
def cutPort : Bool → List Char → List Char × Option (List Char)
  | _, [] => ([], none)
  | inside, c :: cs =>
    if c = ':' ∧ !inside then ([], some cs)
    else
      let (host, number) := cutPort (c = '[' || (inside && c ≠ ']')) cs
      (c :: host, number)

/-- A port number: digits only, at most 65535. The default of the scheme and an empty one count as
absent. -/
def readPort? (scheme : Scheme) (cs : List Char) : Option (Option Nat) :=
  if !cs.all Char.isDigit then none
  else
    let n := Text.natOfDigits cs
    if n > 65535 then none
    else if cs = [] ∨ n = scheme.defaultPort then some none
    else some (some n)

def cutCredentials (cs : List Char) : List Char × List Char :=
  let host := (cs.reverse.takeWhile (· ≠ '@')).reverse
  (cs.take (cs.length - host.length - 1), host)

def cutAt (p : Char → Bool) (cs : List Char) : List Char × List Char :=
  (cs.takeWhile (!p ·), cs.dropWhile (!p ·))

def readHierarchy? (scheme : Scheme) (cs : List Char) : Option Url :=
  -- The parts end where the first mark of the next one stands.
  let (authority, rest) := cutAt (fun c => isSlash c || c = '?' || c = '#') cs
  let (credentials, location) := cutCredentials authority
  let (username, password) := Text.cut ':' credentials
  let (hostText, portText) := cutPort false location
  let (hierarchy, fragment) := Text.cut '#' rest
  let (path, query) := Text.cut '?' hierarchy
  match Host.ofText? hostText, readPort? scheme (portText.getD []) with
  | some host, some portNumber =>
    some
      { scheme := scheme
        username := Percent.encode inUserinfo username
        password := Percent.encode inUserinfo (password.getD [])
        host := host
        portNumber := portNumber
        path := readPath (path.drop 1)
        query := query.map (Percent.encode inQuery)
        fragment := fragment.map (Percent.encode inFragment) }
  | _, _ => none

/-- Reads an absolute URL. Any number of slashes may follow the scheme. -/
def ofText? (cs : List Char) : Option Url :=
  match Text.cut ':' (clean cs) with
  | (_, none) => none
  | (name, some rest) =>
    let hierarchy := rest.dropWhile isSlash
    if Text.lower name = Scheme.http.text then readHierarchy? .http hierarchy
    else if Text.lower name = Scheme.https.text then readHierarchy? .https hierarchy
    else none

/-! ## Printing -/

def pathText (u : Url) : List Char := u.path.flatMap ('/' :: ·)

def queryText (u : Url) : List Char :=
  match u.query with
  | some q => '?' :: q
  | none => []

def target (u : Url) : List Char := u.pathText ++ u.queryText

def credentialsText (u : Url) : List Char :=
  if u.username = [] ∧ u.password = [] then []
  else u.username ++ (if u.password = [] then [] else ':' :: u.password) ++ ['@']

def portText (u : Url) : List Char :=
  match u.portNumber with
  | some n => ':' :: Nat.toDigits 10 n
  | none => []

def originText (u : Url) : List Char :=
  u.scheme.text ++ "://".toList ++ u.credentialsText ++ u.host.text ++ u.portText

def text (u : Url) : List Char :=
  u.originText ++ u.target ++
    match u.fragment with
    | some f => '#' :: f
    | none => []

/-! ## Appending segments -/

def withoutEmptyLast (path : List (List Char)) : List (List Char) :=
  if path.length > 1 ∧ path.getLast? = some [] then path.dropLast else path

/-- Puts a segment behind the path. The path `/` has no segment yet. -/
def push (path : List (List Char)) (segment : List Char) : List (List Char) :=
  if path = [[]] then [segment] else path ++ [segment]

/-- Appends a segment. Dot segments are skipped; one that turns out to be a dot segment only after
its tabs and line breaks are dropped is followed as in any path. -/
def appendSegment (path : List (List Char)) (segment : List Char) : List (List Char) :=
  if segment = ['.'] ∨ segment = ['.', '.'] then path
  else
    -- Nothing but literal dots counts here: an escape in the segment is encoded once more.
    let kept := segment.filter (!isDropped ·)
    if kept = ['.', '.'] then (parent path.reverse).reverse ++ [[]]
    else if kept = ['.'] then push path []
    else push path (Percent.encode inSegment kept)

def append (u : Url) (segments : List (List Char)) : Url :=
  { u with path := segments.foldl appendSegment (withoutEmptyLast u.path) }

end Url

end AdminConsole
