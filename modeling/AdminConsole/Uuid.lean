import AdminConsole.Text

/-!
# UUIDs

128-bit identifiers and their textual forms. The hyphenated form has 8, 4, 4, 4 and 12 hexadecimal
digits; it is the one that is printed, in lower case. Reading takes either case.
-/

namespace AdminConsole

structure Uuid where
  value : BitVec 128
deriving DecidableEq, Repr

namespace Uuid

def hexDigits : Nat → Nat → List Char
  | 0, _ => []
  | count + 1, n => hexDigits count (n / 16) ++ [Text.hexDigit (n % 16)]

def takeHex? : Nat → List Char → Option (List Nat × List Char)
  | 0, cs => some ([], cs)
  | _ + 1, [] => none
  | count + 1, c :: cs =>
    match Text.hexValue? c, takeHex? count cs with
    | some d, some (ds, rest) => some (d :: ds, rest)
    | _, _ => none

def groupSizes : List Nat := [8, 4, 4, 4, 12]

def group : List Nat → List Char → List Char
  | [], _ => []
  | [size], cs => cs.take size
  | size :: sizes, cs => cs.take size ++ '-' :: group sizes (cs.drop size)

/-- Reads groups of digits of the given sizes with hyphens between them, and nothing after. -/
def readGroups? : List Nat → List Char → Option (List Nat)
  | [], cs => if cs = [] then some [] else none
  | [size], cs =>
    match takeHex? size cs with
    | some (ds, []) => some ds
    | _ => none
  | size :: sizes, cs =>
    match takeHex? size cs with
    | some (ds, '-' :: rest) => (readGroups? sizes rest).map (ds ++ ·)
    | _ => none

def ofDigits (ds : List Nat) : Uuid :=
  ⟨BitVec.ofNat 128 (ds.foldl (fun n d => n * 16 + d) 0)⟩

def simple (u : Uuid) : List Char := hexDigits 32 u.value.toNat

def hyphenated (u : Uuid) : List Char := group groupSizes u.simple

def ofHyphenated? (cs : List Char) : Option Uuid :=
  (readGroups? groupSizes cs).map ofDigits

def ofSimple? (cs : List Char) : Option Uuid :=
  (readGroups? [32] cs).map ofDigits

def unbrace? (cs : List Char) : Option (List Char) :=
  match cs with
  | '\x7b' :: rest => if rest.getLast? = some '\x7d' then some rest.dropLast else none
  | _ => none

def dropNamespace? (cs : List Char) : Option (List Char) :=
  let name := "urn:uuid:".toList
  if Text.lower (cs.take name.length) = name then some (cs.drop name.length) else none

/-- Any of the forms: hyphenated, simple, hyphenated in braces, or hyphenated in the UUID
namespace. No text has two of them. -/
def ofText? (cs : List Char) : Option Uuid :=
  (ofHyphenated? cs).or <| (ofSimple? cs).or <|
    ((unbrace? cs).bind ofHyphenated?).or ((dropNamespace? cs).bind ofHyphenated?)

end Uuid

end AdminConsole
