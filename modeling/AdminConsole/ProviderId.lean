import AdminConsole.Json.Codec
import AdminConsole.Uuid

/-!
# Provider ids

The id of a federation provider travels through browser addresses in hyphenated form. Reading it
from there is strict, so that a malformed segment is refused before it enters a request path.
-/

namespace AdminConsole

structure ProviderId where
  uuid : Uuid
deriving DecidableEq, Repr

namespace ProviderId

inductive ParseError where
  | wrongLength (bytes : Nat)
  | malformed
deriving DecidableEq, Repr

def typeName : String := "ProviderId"

def textLength : Nat := 36

def ParseError.reason : ParseError → String
  | .wrongLength bytes =>
    "expected " ++ toString textLength ++ " characters, got " ++ toString bytes
  | .malformed => "failed to parse a UUID"

def ParseError.message (e : ParseError) : String :=
  "failed to parse " ++ typeName ++ ": " ++ e.reason

def text (id : ProviderId) : String := String.ofList id.uuid.hyphenated

/-- Reads the hyphenated form only. The length is counted in bytes. -/
def ofText (s : String) : Except ParseError ProviderId :=
  if s.utf8ByteSize ≠ textLength then .error (.wrongLength s.utf8ByteSize)
  else
    match Uuid.ofHyphenated? s.toList with
    | none => .error .malformed
    | some uuid => .ok ⟨uuid⟩

/-- Inside a body any form of UUID is read. -/
def codec : Json.Codec ProviderId :=
  Json.Codec.text.refine
    (fun s =>
      match Uuid.ofText? s.toList with
      | none => .error "UUID parsing failed"
      | some uuid => .ok ⟨uuid⟩)
    text

end ProviderId

end AdminConsole
