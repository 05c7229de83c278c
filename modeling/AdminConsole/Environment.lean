import AdminConsole.Decimal
import AdminConsole.Text

/-!
# Settings from the environment

The server takes the address of the backend from an environment variable. Names are read in lower
case, with two underscores between a name and a name nested in it. A value that reads as a truth
value or a number is taken as one, and printed again where a text is wanted.
-/

namespace AdminConsole

namespace Setting

inductive Value where
  | boolean (b : Bool)
  | integer (n : Int)
  | real (r : Decimal.Binary64)
  | text (s : List Char)
deriving DecidableEq, Repr

def cutSign (cs : List Char) : Bool × List Char :=
  match cs with
  | '-' :: rest => (true, rest)
  | '+' :: rest => (false, rest)
  | _ => (false, cs)

def readBoolean? (cs : List Char) : Option Bool :=
  if Text.lower cs = "true".toList then some true
  else if Text.lower cs = "false".toList then some false
  else none

def readInteger? (cs : List Char) : Option Int :=
  let (negative, digits) := cutSign cs
  if digits = [] ∨ !digits.all Char.isDigit then none
  else
    let size := Text.natOfDigits digits
    let n : Int := if negative then -size else size
    if -0x8000000000000000 ≤ n ∧ n < 0x8000000000000000 then some n else none

def readExponent? : List Char → Option Int
  | [] => some 0
  | c :: cs =>
    let (negative, digits) := cutSign cs
    if (c ≠ 'e' ∧ c ≠ 'E') ∨ digits = [] ∨ !digits.all Char.isDigit then none
    else
      let size := Text.natOfDigits digits
      some (if negative then -size else size)

/-- A decimal without its sign: digits with a point anywhere among them. -/
def readDecimal? (negative : Bool) (cs : List Char) : Option Decimal.Binary64 :=
  let whole := cs.takeWhile Char.isDigit
  let rest := cs.dropWhile Char.isDigit
  let (fraction, rest) : List Char × List Char :=
    match rest with
    | '.' :: rest => (rest.takeWhile Char.isDigit, rest.dropWhile Char.isDigit)
    | _ => ([], rest)
  if whole = [] ∧ fraction = [] then none
  else
    (readExponent? rest).map fun exponent =>
      .ofDecimal negative (Text.natOfDigits (whole ++ fraction)) (exponent - fraction.length)

def readReal? (cs : List Char) : Option Decimal.Binary64 :=
  let (negative, size) := cutSign cs
  let name := String.ofList (Text.lower size)
  if name = "inf" ∨ name = "infinity" then some (.infinite negative)
  else if name = "nan" then some .notANumber
  else readDecimal? negative size

def Value.ofText (cs : List Char) : Value :=
  match readBoolean? cs with
  | some b => .boolean b
  | none =>
    match readInteger? cs with
    | some n => .integer n
    | none =>
      match readReal? cs with
      | some r => .real r
      | none => .text cs

def Value.print : Value → String
  | .boolean b => if b then "true" else "false"
  | .integer n => toString n
  | .real r => String.ofList r.positional
  | .text s => String.ofList s

end Setting

inductive Setting where
  | absent
  | given (text : String)
  | nested
deriving DecidableEq, Repr

namespace Setting

/-- Two underscores separate a name from one nested in it. -/
def dotted : List Char → List Char
  | '_' :: '_' :: rest => '.' :: dotted rest
  | c :: rest => c :: dotted rest
  | [] => []

def isNameChar (c : Char) : Bool := c.isAlphanum || c = '_' || c = '-'

/-- Drops one step into something nested: a name behind a dot, or a position in brackets. -/
def dropStep? (cs : List Char) : Option (List Char) :=
  match cs with
  | '.' :: rest =>
    if (rest.takeWhile isNameChar).isEmpty then none else some (rest.dropWhile isNameChar)
  | '[' :: rest =>
    let position := (cutSign rest).2
    match position.dropWhile Char.isDigit with
    | ']' :: after => if (position.takeWhile Char.isDigit).isEmpty then none else some after
    | _ => none
  | _ => none

theorem length_cutSign_le (cs : List Char) : (cutSign cs).2.length ≤ cs.length := by
  unfold cutSign
  split <;> simp

theorem length_dropStep?_lt {cs rest : List Char} (h : dropStep? cs = some rest) :
    rest.length < cs.length := by
  unfold dropStep? at h
  split at h
  · next inner =>
    split at h
    · contradiction
    · obtain rfl := Option.some.inj h
      exact Nat.lt_succ_of_le (List.dropWhile_sublist isNameChar).length_le
  · next inner =>
    have hs := length_cutSign_le inner
    have hd := (List.dropWhile_sublist Char.isDigit (l := (cutSign inner).2)).length_le
    dsimp only at h
    split at h
    · next after ha =>
      rw [ha, List.length_cons] at hd
      split at h
      · contradiction
      · obtain rfl := Option.some.inj h
        simp only [List.length_cons]
        omega
    · contradiction
  · contradiction

def isPath (cs : List Char) : Bool :=
  if cs.isEmpty then true
  else
    match _h : dropStep? cs with
    | some rest => isPath rest
    | none => false
termination_by cs.length
decreasing_by exact length_dropStep?_lt ‹_›

def ofVariable (name : String) (key value : String) : Setting :=
  match Text.dropHead? name.toList (dotted (Text.lower key.toList)) with
  | none => .absent
  | some [] => .given (Value.ofText value.toList).print
  | some path => if isPath path then .nested else .absent

/-- What the environment says about the setting `name`: the last variable about it counts. -/
def find (name : String) (environment : List (String × String)) : Setting :=
  environment.foldl (fun found (key, value) =>
    match ofVariable name key value with
    | .absent => found
    | setting => setting) .absent

end Setting

end AdminConsole
