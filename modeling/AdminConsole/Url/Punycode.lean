import AdminConsole.Text

/-!
# Punycode

Writes the characters of a label with ASCII alone: the ASCII ones first, then for each other one, in
the order of their code points, how far to go on from the one before. Distances are written in base
36 with digit weights that adapt to the distances seen.
-/

namespace AdminConsole.Punycode

def digit (n : Nat) : Char :=
  if n < 26 then Char.ofNat (0x61 + n) else Char.ofNat (0x30 + n - 26)

def digitValue? (c : Char) : Option Nat :=
  let n := c.toNat
  if 0x61 ≤ n ∧ n ≤ 0x7A then some (n - 0x61)
  else if 0x41 ≤ n ∧ n ≤ 0x5A then some (n - 0x41)
  else if 0x30 ≤ n ∧ n ≤ 0x39 then some (n - 0x30 + 26)
  else none

def threshold (k bias : Nat) : Nat := max 1 (min 26 (k - bias))

theorem threshold_bounds (k bias : Nat) : 1 ≤ threshold k bias ∧ threshold k bias ≤ 26 := by
  simp only [threshold]
  omega

def damp (delta k : Nat) : Nat × Nat :=
  if h : 455 < delta then damp (delta / 35) (k + 36) else (delta, k)
termination_by delta
decreasing_by omega

def adapt (delta count : Nat) (isFirst : Bool) : Nat :=
  let delta := if isFirst then delta / 700 else delta / 2
  let (delta, k) := damp (delta + delta / count) 0
  k + 36 * delta / (delta + 38)

def digits (bias k distance : Nat) : List Char :=
  let t := threshold k bias
  if distance < t then [digit distance]
  else digit (t + (distance - t) % (36 - t)) :: digits bias (k + 36) ((distance - t) / (36 - t))
termination_by distance
decreasing_by
  have := threshold_bounds k bias
  have := Nat.div_le_self (distance - threshold k bias) (36 - threshold k bias)
  omega

structure Encoder where
  output : List Char
  delta : Nat
  bias : Nat
  count : Nat

/-- One pass over the label for the character with code point `n`. -/
def Encoder.pass (basic : Nat) (label : List Char) (n : Nat) (e : Encoder) : Encoder :=
  label.foldl (fun e c =>
    if c.toNat < n then { e with delta := e.delta + 1 }
    else if c.toNat = n then
      { output := e.output ++ digits e.bias 36 e.delta
        delta := 0
        bias := adapt e.delta (e.count + 1) (e.count = basic)
        count := e.count + 1 }
    else e) e

def Encoder.passes (basic : Nat) (label : List Char) : Nat → List Nat → Encoder → Encoder
  | _, [], e => e
  | n, m :: ms, e =>
    let e := { e with delta := e.delta + (m - n) * (e.count + 1) }
    let e := e.pass basic label m
    passes basic label (m + 1) ms { e with delta := e.delta + 1 }

def encode (label : List Char) : List Char :=
  let basic := label.filter Text.isAscii
  let others := ((label.filter (!Text.isAscii ·)).map Char.toNat).mergeSort.eraseDups
  let start : Encoder :=
    ⟨if basic = [] then [] else basic ++ ['-'], 0, 72, basic.length⟩
  (start.passes basic.length label 0x80 others).output

def maxWeight : Nat := 0xFFFFFFFF

def readDistance? (bias : Nat) : Nat → Nat → Nat → List Char → Option (Nat × List Char)
  | _, _, _, [] => none
  | k, weight, i, c :: cs =>
    match digitValue? c with
    | none => none
    | some d =>
      let i := i + d * weight
      let t := threshold k bias
      if d < t then some (i, cs)
      else if weight * (36 - t) > maxWeight then none
      else readDistance? bias (k + 36) (weight * (36 - t)) i cs

theorem length_readDistance?_lt {bias k weight i j : Nat} {cs rest : List Char}
    (h : readDistance? bias k weight i cs = some (j, rest)) : rest.length < cs.length := by
  induction cs generalizing k weight i with
  | nil => simp [readDistance?] at h
  | cons c cs ih =>
    simp only [readDistance?] at h
    split at h
    · contradiction
    · split at h
      · obtain ⟨-, rfl⟩ := Prod.mk.inj (Option.some.inj h)
        simp
      · split at h
        · contradiction
        · exact Nat.lt_succ_of_lt (ih h)

def insertAll? (n i bias : Nat) (output cs : List Char) : Option (List Char) :=
  match cs with
  | [] => some output
  | c :: rest =>
    match _h : readDistance? bias 36 1 i (c :: rest) with
    | none => none
    | some (j, rest) =>
      let size := output.length + 1
      let n := n + j / size
      let place := j % size
      if n.isValidChar then
        insertAll? n (place + 1) (adapt (j - i) size (i = 0))
          (output.take place ++ Char.ofNat n :: output.drop place) rest
      else none
termination_by cs.length
decreasing_by exact length_readDistance?_lt ‹_›

/-- The ASCII characters stand before the last hyphen. Where there are none, there is no hyphen. -/
def decode? (cs : List Char) : Option (List Char) :=
  let tail := (cs.reverse.takeWhile (· ≠ '-')).reverse
  let basic := cs.take (cs.length - tail.length - 1)
  let tail := if basic = [] then cs else tail
  if basic.all Text.isAscii then insertAll? 0x80 0 72 basic tail else none

end AdminConsole.Punycode
