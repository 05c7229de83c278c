import AdminConsole.Text
import AdminConsole.Decimal

/-!
# Reading JSON

A reader takes the input and gives back a value with what it leaves unread. Where it fails, the
failure names its cause and the input that was still unread when it arose; the place in the text is
worked out from the length of that rest.
-/

namespace AdminConsole.Json

/-! ## Why a text is refused -/

inductive Part where
  | list
  | object
  | string
  | value
deriving DecidableEq, Repr

def Part.phrase : Part → String
  | .list => "a list"
  | .object => "an object"
  | .string => "a string"
  | .value => "a value"

inductive Found where
  | null
  | boolean (value : Bool)
  | integer (negative : Bool) (value : Nat)
  | real (value : Decimal.Binary64)
  | text (value : List Char)
  | list
  | object
deriving DecidableEq, Repr

inductive Cause where
  | endOf (part : Part)
  | expectedColon
  | expectedCommaOrBracket
  | expectedCommaOrBrace
  | expectedIdent
  | expectedValue
  | invalidEscape
  | invalidNumber
  | numberOutOfRange
  | invalidCodePoint
  | controlCharacter
  | keyNotString
  | loneSurrogate
  | unexpectedEndOfEscape
  | trailingComma
  | trailingCharacters
  | mismatch (found : Found) (expected : String)
  | duplicateField (key : String)
  | missingField (key : String)
  | tooFewElements (count : Nat) (expected : String)
  | rejected (reason : String)
deriving DecidableEq, Repr

structure Failure where
  cause : Cause
  rest : List UInt8
deriving DecidableEq, Repr

/-- Characters that a report shows by code point: controls, invisible and private ones. -/
def isHidden (c : Char) : Bool :=
  let n := c.toNat
  n < 0x20 || (0x7F ≤ n && n ≤ 0x9F) || n == 0xAD || (0x300 ≤ n && n ≤ 0x36F) ||
    (0x200B ≤ n && n ≤ 0x200F) || (0x2028 ≤ n && n ≤ 0x202E) || (0x2060 ≤ n && n ≤ 0x206F) ||
    (0xE000 ≤ n && n ≤ 0xF8FF) || n == 0xFEFF || (0xFE00 ≤ n && n ≤ 0xFE0F) ||
    (0xFFF0 ≤ n && n ≤ 0xFFFB) || 0xE0000 ≤ n

def quoteForReport (cs : List Char) : String :=
  let shown (c : Char) : List Char :=
    if c = '"' ∨ c = '\\' then ['\\', c]
    else if c = '\n' then ['\\', 'n']
    else if c = '\r' then ['\\', 'r']
    else if c = '\t' then ['\\', 't']
    else if c.toNat = 0 then ['\\', '0']
    else if isHidden c then '\\' :: 'u' :: '\x7b' :: Nat.toDigits 16 c.toNat ++ ['\x7d']
    else [c]
  String.ofList ('"' :: cs.flatMap shown ++ ['"'])

def realText : Decimal.Binary64 → String
  | .notANumber => "NaN"
  | .infinite negative => if negative then "-inf" else "inf"
  | .finite negative mantissa exponent =>
    (if negative then "-" else "") ++
      if mantissa = 0 then "0.0"
      else String.ofList (Decimal.Shortest.ofFinite mantissa exponent).scientific

def Found.phrase : Found → String
  | .null => "null"
  | .boolean value => "boolean `" ++ (if value then "true" else "false") ++ "`"
  | .integer negative value =>
    "integer `" ++ (if negative then "-" else "") ++ toString value ++ "`"
  | .real value => "floating point `" ++ realText value ++ "`"
  | .text value => "string " ++ quoteForReport value
  | .list => "sequence"
  | .object => "map"

def Cause.message : Cause → String
  | .endOf part => "EOF while parsing " ++ part.phrase
  | .expectedColon => "expected `:`"
  | .expectedCommaOrBracket => "expected `,` or `]`"
  | .expectedCommaOrBrace => "expected `,` or `\x7d`"
  | .expectedIdent => "expected ident"
  | .expectedValue => "expected value"
  | .invalidEscape => "invalid escape"
  | .invalidNumber => "invalid number"
  | .numberOutOfRange => "number out of range"
  | .invalidCodePoint => "invalid unicode code point"
  | .controlCharacter => "control character (\\u0000-\\u001F) found while parsing a string"
  | .keyNotString => "key must be a string"
  | .loneSurrogate => "lone leading surrogate in hex escape"
  | .unexpectedEndOfEscape => "unexpected end of hex escape"
  | .trailingComma => "trailing comma"
  | .trailingCharacters => "trailing characters"
  | .mismatch found expected => "invalid type: " ++ found.phrase ++ ", expected " ++ expected
  | .duplicateField key => "duplicate field `" ++ key ++ "`"
  | .missingField key => "missing field `" ++ key ++ "`"
  | .tooFewElements count expected =>
    "invalid length " ++ toString count ++ ", expected " ++ expected
  | .rejected reason => reason

structure Position where
  line : Nat
  column : Nat
deriving DecidableEq, Repr

def Position.after (read : List UInt8) : Position where
  line := read.count 0x0A + 1
  column := (read.reverse.takeWhile (· ≠ 0x0A)).length

def Failure.position (f : Failure) (input : List UInt8) : Position :=
  .after (input.take (input.length - f.rest.length))

def Failure.message (f : Failure) (input : List UInt8) : String :=
  let place := f.position input
  f.cause.message ++ " at line " ++ toString place.line ++ " column " ++ toString place.column

/-! ## Readers

Each one comes with a lemma that says how much it takes at least, so that loops over readers end. -/

/-- A scanner or reader: the value read and the input left, or why there is none. -/
abbrev Reader (α : Type) := List UInt8 → Except Failure (α × List UInt8)

def ascii (c : Char) : UInt8 := UInt8.ofNat c.toNat

def isBlank (b : UInt8) : Bool :=
  b = ascii ' ' || b = ascii '\n' || b = ascii '\t' || b = ascii '\r'

def isDigit (b : UInt8) : Bool := ascii '0' ≤ b && b ≤ ascii '9'

def skipBlank : List UInt8 → List UInt8
  | [] => []
  | b :: rest => if isBlank b then skipBlank rest else b :: rest

theorem length_skipBlank_le (bs : List UInt8) : (skipBlank bs).length ≤ bs.length := by
  induction bs with
  | nil => simp [skipBlank]
  | cons b rest ih =>
    simp only [skipBlank]
    split
    · exact Nat.le_succ_of_le ih
    · exact Nat.le_refl _

def literal : List Char → List UInt8 → Except Failure (List UInt8)
  | [], bs => .ok bs
  | _ :: _, [] => .error ⟨.endOf .value, []⟩
  | c :: cs, b :: rest => if b = ascii c then literal cs rest else .error ⟨.expectedIdent, rest⟩

theorem length_literal_le {cs : List Char} {bs rest : List UInt8} (h : literal cs bs = .ok rest) :
    rest.length ≤ bs.length := by
  induction cs generalizing bs with
  | nil => simp [literal] at h; simp [h]
  | cons c cs ih =>
    cases bs with
    | nil => simp [literal] at h
    | cons b bs =>
      simp only [literal] at h
      split at h
      · exact Nat.le_succ_of_le (ih h)
      · contradiction

end AdminConsole.Json
