/-!
# Double-precision numbers

The finite doubles as a sign, a mantissa and a power of two, and the double nearest to a decimal.
All arithmetic is exact on naturals, so nothing here depends on the machine's own floats.
-/

namespace AdminConsole.Decimal

/-- A double. A finite one is `mantissa · 2 ^ exponent`, the mantissa below `2 ^ 53` and at least
`2 ^ 52` unless the exponent is the least one, `-1074`. -/
inductive Binary64 where
  | finite (negative : Bool) (mantissa : Nat) (exponent : Int)
  | infinite (negative : Bool)
  | notANumber
deriving DecidableEq, Repr

/-- `num / den` to the nearest natural, a tie to the even one. -/
def roundDiv (num den : Nat) : Nat :=
  let quotient := num / den
  let twice := 2 * (num % den)
  if twice < den ∨ (twice = den ∧ quotient % 2 = 0) then quotient else quotient + 1

def scaled (base : Nat) (exponent : Int) : Nat × Nat :=
  if 0 ≤ exponent then (base.pow exponent.toNat, 1) else (1, base.pow (-exponent).toNat)

namespace Binary64

def mantissaEnd : Nat := 0x20000000000000

def leastNormal : Nat := 0x10000000000000

def ofRatio (negative : Bool) (num den : Nat) : Binary64 :=
  let guess : Int := max (-1074) ((num.log2 : Int) - (den.log2 : Int) - 53)
  let quotientAt (exponent : Int) : Nat × Nat :=
    let (up, down) := scaled 2 (-exponent)
    (num * up, den * down)
  -- At the guessed exponent the quotient has 53 or 54 bits, or fewer at the least exponent.
  let (n, d) := quotientAt guess
  let exponent := if n / d < mantissaEnd then guess else guess + 1
  let (n, d) := quotientAt exponent
  let mantissa := roundDiv n d
  -- Rounding may carry into one more bit.
  let (mantissa, exponent) :=
    if mantissa = mantissaEnd then (leastNormal, exponent + 1) else (mantissa, exponent)
  if exponent > 971 then infinite negative else finite negative mantissa exponent

/-- The double nearest to `digits · 10 ^ exponent`. Values beyond the range of doubles are decided
by their size alone. -/
def ofDecimal (negative : Bool) (digits : Nat) (exponent : Int) : Binary64 :=
  let places : Int := (Nat.toDigits 10 digits).length
  if digits = 0 ∨ places + exponent < -330 then finite negative 0 (-1074)
  else if places + exponent > 400 then infinite negative
  else
    let (up, down) := scaled 10 exponent
    ofRatio negative (digits * up) down

end Binary64

/-! ## Shortest decimals

The decimal with the fewest digits among those that read back as a given double, and of those the
nearest to it. A double reads back from every real that rounds to it: these form an interval around
it, with its ends if the mantissa is even. -/

structure Shortest where
  digits : Nat
  exponent : Int
deriving DecidableEq, Repr

namespace Shortest

def trimZeros (digits : Nat) (exponent : Int) : Shortest :=
  if h : 0 < digits ∧ digits % 10 = 0 then trimZeros (digits / 10) (exponent + 1)
  else ⟨digits, exponent⟩
termination_by digits
decreasing_by omega

/-- The point of the grid of multiples of `10 ^ exponent` that is nearest to
`mantissa · 2 ^ binary` among those that read back as it. -/
def onGrid? (mantissa : Nat) (binary exponent : Int) : Option Shortest :=
  -- Below a power of two the doubles lie twice as close.
  let reach := if mantissa = Binary64.leastNormal ∧ binary > -1074 then 1 else 2
  -- Real and grid are brought to one scale, the real counted in quarters of the mantissa's unit.
  let (twos, halves) := scaled 2 (binary - 2)
  let (tens, tenths) := scaled 10 exponent
  let real (quarters : Nat) := quarters * twos * tenths
  let grid (digits : Nat) := digits * tens * halves
  let within (digits : Nat) : Bool :=
    let low := real (4 * mantissa - reach)
    let high := real (4 * mantissa + 2)
    if mantissa % 2 = 0 then low ≤ grid digits ∧ grid digits ≤ high
    else low < grid digits ∧ grid digits < high
  let value := real (4 * mantissa)
  let below := value / grid 1
  let above := below + 1
  match within below, within above with
  | true, true =>
    let fromBelow := value - grid below
    let fromAbove := grid above - value
    if fromBelow < fromAbove ∨ (fromBelow = fromAbove ∧ below % 2 = 0) then
      some (trimZeros below exponent)
    else some (trimZeros above exponent)
  | true, false => some (trimZeros below exponent)
  | false, true => some (trimZeros above exponent)
  | false, false => none

def places (mantissa : Nat) (binary : Int) : Int :=
  let (twos, halves) := scaled 2 binary
  ((Nat.toDigits 10 (mantissa * twos * Nat.pow 10 400 / halves)).length : Int) - 400

/-- The shortest decimal of a positive double: seventeen digits always suffice. -/
def ofFinite (mantissa : Nat) (binary : Int) : Shortest :=
  let places := places mantissa binary
  let grids := (List.range 17).map fun (n : Nat) => places - (n + 1 : Int)
  (grids.findSome? (onGrid? mantissa binary)).getD ⟨mantissa, binary⟩

def chars (d : Shortest) : List Char := Nat.toDigits 10 d.digits

/-- Positional notation at any size: no exponent, and no point unless there is a fraction. -/
def positional (d : Shortest) : List Char :=
  let cs := d.chars
  if 0 ≤ d.exponent then cs ++ List.replicate d.exponent.toNat '0'
  else
    let fraction := (-d.exponent).toNat
    if fraction < cs.length then
      cs.take (cs.length - fraction) ++ '.' :: cs.drop (cs.length - fraction)
    else '0' :: '.' :: List.replicate (fraction - cs.length) '0' ++ cs

/-- Positional notation with at least one decimal between `10 ^ -5` and `10 ^ 16`, and one digit
before the point with an exponent elsewhere. -/
def scientific (d : Shortest) : List Char :=
  let cs := d.chars
  let point : Int := cs.length + d.exponent
  if 0 ≤ d.exponent ∧ point ≤ 16 then d.positional ++ ['.', '0']
  else if -5 < point ∧ point ≤ 16 then d.positional
  else
    let exponent := (toString (point - 1)).toList
    match cs with
    | first :: [] => first :: 'e' :: exponent
    | first :: others => first :: '.' :: others ++ 'e' :: exponent
    | [] => []

end Shortest

def Binary64.positional : Binary64 → List Char
  | .notANumber => ['N', 'a', 'N']
  | .infinite negative => (if negative then ['-'] else []) ++ ['i', 'n', 'f']
  | .finite negative mantissa exponent =>
    (if negative then ['-'] else []) ++
      if mantissa = 0 then ['0'] else (Shortest.ofFinite mantissa exponent).positional

end AdminConsole.Decimal
