import AdminConsole.Utf8
import AdminConsole.Text

/-!
# Percent-encoding

A byte is written as a percent sign and two upper-case hexadecimal digits. Reading takes digits of
either case and leaves an escape that is incomplete as it stands. The form encoding of a query
string rests on it: pairs joined with `&`, name and value joined with `=`, a space written as `+`.
Reading accepts any text: empty pieces are passed over, a piece without `=` is a name with an empty
value, and what is not UTF-8 is replaced.
-/

namespace AdminConsole.Percent

def encodeByte (b : UInt8) : List Char :=
  ['%', Text.hexDigitUpper (b.toNat / 16), Text.hexDigitUpper (b.toNat % 16)]

def encode (set : Char → Bool) (cs : List Char) : List Char :=
  cs.flatMap fun c => if set c then (Utf8.encode [c]).flatMap encodeByte else [c]

theorem encode_append (set : Char → Bool) (cs ds : List Char) :
    encode set (cs ++ ds) = encode set cs ++ encode set ds := by
  simp [encode]

theorem encode_of_forall_not {set : Char → Bool} {cs : List Char} (h : ∀ c ∈ cs, set c = false) :
    encode set cs = cs := by
  induction cs with
  | nil => rfl
  | cons c cs ih =>
    simp only [List.mem_cons, forall_eq_or_imp] at h
    simpa [encode, h.1] using ih h.2

/-- The bytes of a text, with each escape replaced by the byte it stands for. -/
def decode : List UInt8 → List UInt8
  | 0x25 :: a :: b :: rest =>
    match Text.hexValue? (Char.ofNat a.toNat), Text.hexValue? (Char.ofNat b.toNat) with
    | some high, some low => UInt8.ofNat (high * 16 + low) :: decode rest
    | _, _ => 0x25 :: decode (a :: b :: rest)
  | b :: rest => b :: decode rest
  | [] => []
termination_by bs => bs.length

end AdminConsole.Percent

namespace AdminConsole.Query

def isPlain (c : Char) : Bool :=
  c.isAlphanum || c = '*' || c = '-' || c = '.' || c = '_'

def encodeText (cs : List Char) : List Char :=
  (Percent.encode (fun c => !(isPlain c || c = ' ')) cs).map fun c => if c = ' ' then '+' else c

def decodeText (cs : List Char) : List Char :=
  let spaced := cs.map fun c => if c = '+' then ' ' else c
  Utf8.decodeLossy (Percent.decode (Utf8.encode spaced))

def encodePair (pair : List Char × List Char) : List Char :=
  encodeText pair.1 ++ '=' :: encodeText pair.2

def decodePair (piece : List Char) : List Char × List Char :=
  let (name, value) := Text.cut '=' piece
  (decodeText name, decodeText (value.getD []))

def pairs (query : List Char) : List (List Char × List Char) :=
  ((Text.split '&' query).filter (· ≠ [])).map decodePair

def encode (ps : List (List Char × List Char)) : List Char :=
  Text.join '&' (ps.map encodePair)

def dropMark (query : List Char) : List Char :=
  match query with
  | '?' :: rest => rest
  | _ => query

def find? (name : String) (query : String) : Option String :=
  ((pairs (dropMark query.toList)).lookup name.toList).map String.ofList

end AdminConsole.Query
