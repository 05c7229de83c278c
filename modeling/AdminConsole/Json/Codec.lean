import AdminConsole.Json.Number
import AdminConsole.Json.Quoted

/-!
# Codecs

A codec reads a value and writes it compactly. Reading takes at least one byte, so lists and objects
can be read by going on until they close.
-/

namespace AdminConsole.Json

/-! ## Values of another kind

What is reported where a value of one kind is expected and another stands. -/

def Number.found? (negative : Bool) (n : Number) : Option Found :=
  let value (digits : List UInt8) := digits.foldl (fun v d => v * 10 + (d.toNat - 0x30)) 0
  let whole := value n.whole
  let real (digits : Nat) (exponent : Int) : Option Found :=
    match Decimal.Binary64.ofDecimal negative digits exponent with
    | .infinite _ => none
    | b => some (.real b)
  if n.isReal then
    let size : Int := value n.exponent
    let exponent := if n.exponentNegative then -size else size
    real (value (n.whole ++ n.fraction)) (exponent - n.fraction.length)
  else if negative then
    -- Minus zero is not an integer.
    if 0 < whole ∧ whole ≤ 0x8000000000000000 then some (.integer true whole) else real whole 0
  else if whole < 0x10000000000000000 then some (.integer false whole) else real whole 0

/-- The failure at a value that starts with `b` and is not of the expected kind. Scalars are read
first, so a malformed one is reported as such. -/
def mismatch (expected : String) (b : UInt8) (rest : List UInt8) : Failure :=
  let report (found : Found) (rest : List UInt8) : Failure := ⟨.mismatch found expected, rest⟩
  let word (letters : List Char) (found : Found) : Failure :=
    match literal letters rest with
    | .error e => e
    | .ok rest => report found rest
  let number (negative : Bool) (bs : List UInt8) : Failure :=
    match unsignedNumber (.endOf .value) bs with
    | .error e => e
    | .ok (n, rest) =>
      match n.found? negative with
      | none => ⟨.numberOutOfRange, rest⟩
      | some found => report found rest
  if b = ascii 'n' then word ['u', 'l', 'l'] .null
  else if b = ascii 't' then word ['r', 'u', 'e'] (.boolean true)
  else if b = ascii 'f' then word ['a', 'l', 's', 'e'] (.boolean false)
  else if b = ascii '-' then number true rest
  else if isDigit b then number false (b :: rest)
  else if b = ascii '"' then
    match string rest with
    | .error e => e
    | .ok (cs, rest) => report (.text cs) rest
  else if b = ascii '[' then report .list (b :: rest)
  else if b = ascii '\x7b' then report .object (b :: rest)
  else ⟨.expectedValue, rest⟩

/-! ## The compact form -/

/-- A character inside a string: quote, backslash and controls are escaped, nothing else is. -/
def escapeChar (c : Char) : List Char :=
  if c = '"' then ['\\', '"']
  else if c = '\\' then ['\\', '\\']
  else if c = '\n' then ['\\', 'n']
  else if c = '\r' then ['\\', 'r']
  else if c = '\t' then ['\\', 't']
  else if c.toNat = 0x08 then ['\\', 'b']
  else if c.toNat = 0x0C then ['\\', 'f']
  else if c.toNat < 0x20 then
    ['\\', 'u', '0', '0', Text.hexDigit (c.toNat / 16), Text.hexDigit (c.toNat % 16)]
  else [c]

def quote (cs : List Char) : List Char := '"' :: cs.flatMap escapeChar ++ ['"']

def bracket (opening closing : Char) (items : List (List Char)) : List Char :=
  opening :: Text.join ',' items ++ [closing]

/-! ## Codecs -/

structure Codec (α : Type) where
  read : Reader α
  write : α → List Char
  progress {bs : List UInt8} {a : α} {rest : List UInt8} :
    read bs = .ok (a, rest) → rest.length < bs.length

/-! ## Scalars -/

def readText (expected : String) : Reader (List Char) := fun bs =>
  match skipBlank bs with
  | [] => .error ⟨.endOf .value, []⟩
  | b :: rest => if b = ascii '"' then string rest else .error (mismatch expected b rest)

theorem length_readText_lt {expected : String} {bs rest : List UInt8} {cs : List Char}
    (h : readText expected bs = .ok (cs, rest)) : rest.length < bs.length := by
  have hb := length_skipBlank_le bs
  simp only [readText] at h
  split at h
  · contradiction
  · next b inner hs =>
    rw [hs, List.length_cons] at hb
    split at h
    · have := length_string_lt h
      omega
    · contradiction

def readBool : Reader Bool := fun bs =>
  match skipBlank bs with
  | [] => .error ⟨.endOf .value, []⟩
  | b :: rest =>
    if b = ascii 't' then (literal ['r', 'u', 'e'] rest).map (true, ·)
    else if b = ascii 'f' then (literal ['a', 'l', 's', 'e'] rest).map (false, ·)
    else .error (mismatch "a boolean" b rest)

theorem length_of_map_eq_ok {α : Type} {a a' : α} {r : Except Failure (List UInt8)}
    {n : Nat} {rest : List UInt8} (hr : ∀ rest, r = .ok rest → rest.length < n)
    (h : r.map (a, ·) = .ok (a', rest)) : rest.length < n := by
  cases r with
  | error e => contradiction
  | ok inner =>
    obtain ⟨-, rfl⟩ := Prod.mk.inj (Except.ok.inj h)
    exact hr inner rfl

theorem length_readBool_lt {bs rest : List UInt8} {a : Bool}
    (h : readBool bs = .ok (a, rest)) : rest.length < bs.length := by
  have hb := length_skipBlank_le bs
  simp only [readBool] at h
  split at h
  · contradiction
  · next b inner hs =>
    rw [hs, List.length_cons] at hb
    have (cs : List Char) (rest : List UInt8) (hl : literal cs inner = .ok rest) :
        rest.length < bs.length := by
      have := length_literal_le hl
      omega
    split at h
    · exact length_of_map_eq_ok (this _) h
    · split at h
      · exact length_of_map_eq_ok (this _) h
      · contradiction

namespace Codec

def text : Codec String where
  read bs := (readText "a string" bs).map fun (cs, rest) => (String.ofList cs, rest)
  write s := quote s.toList
  progress {bs a rest} h := by
    cases hr : readText "a string" bs with
    | error e => rw [hr] at h; contradiction
    | ok p =>
      rw [hr] at h
      obtain ⟨-, rfl⟩ := Prod.mk.inj (Except.ok.inj h)
      exact length_readText_lt hr

def bool : Codec Bool where
  read := readBool
  write b := (if b then "true" else "false").toList
  progress := length_readBool_lt

def iso {α β : Type} (c : Codec α) (pack : α → β) (unpack : β → α) : Codec β where
  read bs := (c.read bs).map fun (a, rest) => (pack a, rest)
  write b := c.write (unpack b)
  progress {bs a rest} h := by
    cases hr : c.read bs with
    | error e => rw [hr] at h; contradiction
    | ok p =>
      rw [hr] at h
      obtain ⟨-, rfl⟩ := Prod.mk.inj (Except.ok.inj h)
      exact c.progress hr

/-- The texts for which `pack` has a value; the others are refused for its reason. -/
def refine {α β : Type} (c : Codec α) (pack : α → Except String β) (unpack : β → α) : Codec β where
  read bs :=
    match c.read bs with
    | .error e => .error e
    | .ok (a, rest) =>
      match pack a with
      | .error reason => .error ⟨.rejected reason, rest⟩
      | .ok b => .ok (b, rest)
  write b := c.write (unpack b)
  progress {bs a rest} h := by
    split at h
    · contradiction
    · next hr =>
      split at h
      · contradiction
      · obtain ⟨-, rfl⟩ := Prod.mk.inj (Except.ok.inj h)
        exact c.progress hr

def readOrNull {α : Type} (c : Codec α) (absent : α) : Reader α := fun bs =>
  match skipBlank bs with
  | [] => c.read bs
  | b :: rest =>
    if b = ascii 'n' then (literal ['u', 'l', 'l'] rest).map (absent, ·) else c.read bs

theorem length_readOrNull_lt {α : Type} {c : Codec α} {absent a : α} {bs rest : List UInt8}
    (h : c.readOrNull absent bs = .ok (a, rest)) : rest.length < bs.length := by
  have hb := length_skipBlank_le bs
  simp only [readOrNull] at h
  split at h
  · exact c.progress h
  · next b after hs =>
    rw [hs, List.length_cons] at hb
    split at h
    · refine length_of_map_eq_ok (fun rest hl => ?_) h
      have := length_literal_le hl
      omega
    · exact c.progress h

/-- The same texts, and `null` for `absent`. `absent` itself is written as `unpack` says. -/
def orNull {α β : Type} (c : Codec α) (absent : β) (pack : α → β) (unpack : β → α) : Codec β where
  read := (c.iso pack unpack).readOrNull absent
  write := (c.iso pack unpack).write
  progress := length_readOrNull_lt

end Codec

/-! ## Whole texts -/

def Codec.decode {α : Type} (c : Codec α) (input : List UInt8) : Except Failure α :=
  match c.read input with
  | .error e => .error e
  | .ok (a, rest) =>
    match skipBlank rest with
    | [] => .ok a
    | _ :: rest => .error ⟨.trailingCharacters, rest⟩

def Codec.encode {α : Type} (c : Codec α) (a : α) : String := String.ofList (c.write a)

end AdminConsole.Json
