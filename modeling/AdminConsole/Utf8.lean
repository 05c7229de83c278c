/-!
# UTF-8

One step takes the next character off a byte sequence, or the longest start of one that no byte can
complete. Strict and lossy decoding read the same steps: the first refuses what is malformed, the
second puts a replacement character for each malformed part.
-/

namespace AdminConsole.Utf8

/-- What a leading byte announces: its own bits, how many bytes follow, and which values the first
of them may take. -/
structure Lead where
  bits : Nat
  more : Nat
  low : UInt8
  high : UInt8

/-- The bounds exclude overlong forms, surrogates and values above U+10FFFF. -/
def Lead.ofByte? (b : UInt8) : Option Lead :=
  if b < 0x80 then some ⟨b.toNat, 0, 0x80, 0xBF⟩
  else if b < 0xC2 then none
  else if b < 0xE0 then some ⟨b.toNat % 32, 1, 0x80, 0xBF⟩
  else if b = 0xE0 then some ⟨0, 2, 0xA0, 0xBF⟩
  else if b = 0xED then some ⟨0xD, 2, 0x80, 0x9F⟩
  else if b < 0xF0 then some ⟨b.toNat % 16, 2, 0x80, 0xBF⟩
  else if b = 0xF0 then some ⟨0, 3, 0x90, 0xBF⟩
  else if b < 0xF4 then some ⟨b.toNat % 8, 3, 0x80, 0xBF⟩
  else if b = 0xF4 then some ⟨4, 3, 0x80, 0x8F⟩
  else none

def complete (bits : Nat) : Nat → UInt8 → UInt8 → List UInt8 → Option Char × List UInt8
  | 0, _, _, rest => (some (Char.ofNat bits), rest)
  | _ + 1, _, _, [] => (none, [])
  | more + 1, low, high, b :: rest =>
    if low ≤ b ∧ b ≤ high then complete (bits * 64 + b.toNat % 64) more 0x80 0xBF rest
    else (none, b :: rest)

/-- The character that starts with byte `b`, or `none` for a malformed part, and what follows. -/
def next (b : UInt8) (rest : List UInt8) : Option Char × List UInt8 :=
  match Lead.ofByte? b with
  | none => (none, rest)
  | some lead => complete lead.bits lead.more lead.low lead.high rest

theorem length_complete_le (bits more : Nat) (low high : UInt8) (rest : List UInt8) :
    (complete bits more low high rest).2.length ≤ rest.length := by
  induction more generalizing bits low high rest with
  | zero => simp [complete]
  | succ more ih =>
    cases rest with
    | nil => simp [complete]
    | cons b rest =>
      simp only [complete]
      split
      · exact Nat.le_succ_of_le (ih ..)
      · simp

theorem length_next_le (b : UInt8) (rest : List UInt8) : (next b rest).2.length ≤ rest.length := by
  simp only [next]
  split
  · simp
  · exact length_complete_le ..

def steps : List UInt8 → List (Option Char)
  | [] => []
  | b :: rest => (next b rest).1 :: steps (next b rest).2
termination_by bytes => bytes.length
decreasing_by exact Nat.lt_succ_of_le (length_next_le b rest)

def decode? (bytes : List UInt8) : Option (List Char) :=
  (steps bytes).mapM id

/-- The text of any byte sequence, U+FFFD standing for each malformed part. -/
def decodeLossy (bytes : List UInt8) : List Char :=
  (steps bytes).map (·.getD (Char.ofNat 0xFFFD))

def encode (cs : List Char) : List UInt8 :=
  cs.flatMap String.utf8EncodeChar

end AdminConsole.Utf8
