import AdminConsole.Text.Mark
import AdminConsole.Url.Domain.Direction
import AdminConsole.Url.Domain.Joining
import AdminConsole.Url.Domain.Mapping
import AdminConsole.Url.Punycode

/-!
# Domains

The ASCII form of a domain: letters in lower case, and labels with other characters written in
punycode behind a mark. Characters that delimit the parts of a URL cannot stand in a domain.
-/

namespace AdminConsole.Domain

def isForbidden (c : Char) : Bool :=
  c.toNat ≤ 0x20 || c.toNat = 0x7F ||
    ['%', '#', '/', ':', '<', '>', '?', '@', '[', '\\', ']', '^', '|'].contains c

def mark : List Char := ['x', 'n', '-', '-']

structure Label where
  ascii : List Char
  characters : List Char
deriving DecidableEq, Repr

namespace Label

/-- Reads a label of a settled domain. One that already carries the mark has at most 2000 characters
behind it, and they must stand for a settled text that is not in ASCII alone. -/
def ofText? (cs : List Char) : Option Label :=
  match Text.dropHead? mark cs with
  | some rest =>
    if rest.length > 2000 then none
    else
      match Punycode.decode? rest with
      | some decoded =>
        if decoded.all Text.isAscii ∨ settle? decoded ≠ some decoded then none
        else some ⟨cs, decoded⟩
      | none => none
  | none => if cs.all Text.isAscii then some ⟨cs, cs⟩ else some ⟨mark ++ Punycode.encode cs, cs⟩

/-- Whether its characters can form a label. Outside ASCII it starts with a character that does not
combine, its joiners stand where they are allowed, and it has at most 1000 characters. -/
def isSound (label : Label) : Bool :=
  if label.characters.all Text.isAscii then true
  else
    !label.characters.head?.any Text.isMark && joinersAllowed [] label.characters &&
      label.characters.length ≤ 1000

end Label

/-- The domain in ASCII, if there is one. If it has letters from right to left, the rule for their
direction holds for each of its labels. -/
def toAscii? (cs : List Char) : Option (List Char) :=
  match settle? cs with
  | none => none
  | some settled =>
    if settled.isEmpty || settled.any isForbidden then none
    else
      match (Text.split '.' settled).mapM Label.ofText? with
      | none => none
      | some labels =>
        if !labels.all Label.isSound then none
        else if labels.any (·.characters.any turnsDomain) ∧
            !labels.all (keepsDirection ·.characters) then none
        else some (Text.join '.' (labels.map Label.ascii))

end AdminConsole.Domain
