import AdminConsole.Text

/-!
# Numeric addresses

IPv4 and IPv6 addresses as they may stand for a host, and as they are printed: an IPv4 address as
four decimal numbers, an IPv6 address in lower-case hexadecimal with its longest run of zero pieces
shortened.
-/

namespace AdminConsole

/-! ## IPv4 -/

structure Ipv4 where
  value : BitVec 32
deriving DecidableEq, Repr

namespace Ipv4

def readNumber? (cs : List Char) : Option Nat :=
  let digits (base : Nat) (cs : List Char) : Option Nat :=
    cs.foldl (fun n c =>
      match n, Text.hexValue? c with
      | some n, some d => if d < base then some (n * base + d) else none
      | _, _ => none) (some 0)
  match cs with
  | [] => none
  | '0' :: 'x' :: rest => digits 16 rest
  | '0' :: 'X' :: rest => digits 16 rest
  | '0' :: rest => digits 8 rest
  | _ => digits 10 cs

def labels (host : List Char) : List (List Char) :=
  let parts := Text.split '.' host
  if parts.length > 1 ∧ parts.getLast? = some [] then parts.dropLast else parts

def endsInNumber (host : List Char) : Bool :=
  match (labels host).getLast? with
  | some last =>
    (last ≠ [] && last.all Char.isDigit) ||
      (match last with
      | '0' :: 'x' :: _ => (readNumber? last).isSome
      | '0' :: 'X' :: _ => (readNumber? last).isSome
      | _ => false)
  | none => false

/-- Every number but the last is one byte; the last fills the bytes that remain. -/
def ofNumbers? (numbers : List Nat) : Option Ipv4 :=
  match numbers.reverse with
  | [] => none
  | last :: before =>
    let size := Nat.pow 256 (5 - numbers.length)
    if numbers.length > 4 ∨ before.any (· > 255) ∨ last ≥ size then none
    else
      let high := before.reverse.foldl (fun n d => n * 256 + d) 0
      some ⟨BitVec.ofNat 32 (high * size + last)⟩

def ofText? (host : List Char) : Option Ipv4 :=
  ((labels host).mapM readNumber?).bind ofNumbers?

def text (a : Ipv4) : List Char :=
  let byte (i : Nat) : List Char := Nat.toDigits 10 (a.value.toNat >>> (8 * i) % 256)
  Text.join '.' [byte 3, byte 2, byte 1, byte 0]

end Ipv4

/-! ## IPv6 -/

structure Ipv6 where
  pieces : List Nat
deriving DecidableEq, Repr

namespace Ipv6

def readPiece? (cs : List Char) : Option Nat :=
  if cs = [] ∨ cs.length > 4 then none
  else (cs.mapM Text.hexValue?).map fun ds => ds.foldl (fun n d => n * 16 + d) 0

def readByte? (cs : List Char) : Option Nat :=
  if cs = [] ∨ cs.length > 3 ∨ !cs.all Char.isDigit then none
  else if cs.length > 1 ∧ cs.head? = some '0' then none
  else
    let n := Text.natOfDigits cs
    if n ≤ 255 then some n else none

/-- The last piece may be an IPv4 address, which counts for two. -/
def readLast? (cs : List Char) : Option (List Nat) :=
  if '.' ∈ cs then
    match (Text.split '.' cs).mapM readByte? with
    | some [a, b, c, d] => some [a * 256 + b, c * 256 + d]
    | _ => none
  else (readPiece? cs).map ([·])

def readPieces? : List (List Char) → Option (List Nat)
  | [] => some []
  | [last] => readLast? last
  | piece :: pieces =>
    match readPiece? piece, readPieces? pieces with
    | some n, some ns => some (n :: ns)
    | _, _ => none

def readSide? (cs : List Char) : Option (List Nat) :=
  if cs = [] then some [] else readPieces? (Text.split ':' cs)

def cutRun? : List Char → Option (List Char × List Char)
  | ':' :: ':' :: rest => some ([], rest)
  | c :: rest => (cutRun? rest).map fun (before, after) => (c :: before, after)
  | [] => none

def ofText? (cs : List Char) : Option Ipv6 :=
  match cutRun? cs with
  | none =>
    match readSide? cs with
    | some pieces => if pieces.length = 8 then some ⟨pieces⟩ else none
    | none => none
  | some (before, after) =>
    if '.' ∈ before then none
    else
      match readSide? before, readSide? after with
      | some left, some right =>
        let given := left.length + right.length
        if given < 8 then some ⟨left ++ List.replicate (8 - given) 0 ++ right⟩ else none
      | _, _ => none

def zeros (pieces : List Nat) : Nat := (pieces.takeWhile (· = 0)).length

/-- Where the longest run of zeros starts and how long it is; of equal runs the first counts. -/
def longestRun : Nat → List Nat → Nat × Nat
  | _, [] => (0, 0)
  | start, n :: rest =>
    let later := longestRun (start + 1) rest
    let here := zeros (n :: rest)
    if here ≥ later.2 then (start, here) else later

def text (a : Ipv6) : List Char :=
  let hex (pieces : List Nat) : List Char := Text.join ':' (pieces.map (Nat.toDigits 16))
  let (start, size) := longestRun 0 a.pieces
  if size < 2 then hex a.pieces
  else hex (a.pieces.take start) ++ [':', ':'] ++ hex (a.pieces.drop (start + size))

end Ipv6

end AdminConsole
