import AdminConsole.Json.Reader

/-!
# Numbers

The grammar of a number: no sign but a minus, no leading zero, digits on both sides of a point.
-/

namespace AdminConsole.Json

structure Number where
  whole : List UInt8
  fraction : List UInt8
  exponentNegative : Bool
  exponent : List UInt8
  isReal : Bool
deriving DecidableEq, Repr

/-- An exponent after its letter. `atEnd` is the cause reported when the input ends in the number:
a reader waits for more of the value, a scanner sees a number that is malformed. -/
def exponentPart (atEnd : Cause) (n : Number) (bs : List UInt8) :
    Except Failure (Number × List UInt8) :=
  let signed : Bool × List UInt8 :=
    match bs with
    | [] => (false, [])
    | b :: rest =>
      if b = ascii '+' then (false, rest) else if b = ascii '-' then (true, rest) else (false, bs)
  match signed.2 with
  | [] => .error ⟨atEnd, []⟩
  | b :: rest =>
    if isDigit b then
      .ok ({ n with exponentNegative := signed.1, exponent := (b :: rest).takeWhile isDigit,
                    isReal := true }, rest.dropWhile isDigit)
    else .error ⟨.invalidNumber, rest⟩

def exponentPart? (atEnd : Cause) (n : Number) :
    List UInt8 → Except Failure (Number × List UInt8)
  | [] => .ok (n, [])
  | b :: rest =>
    if b = ascii 'e' ∨ b = ascii 'E' then exponentPart atEnd n rest else .ok (n, b :: rest)

def fractionPart? (atEnd : Cause) (n : Number) :
    List UInt8 → Except Failure (Number × List UInt8)
  | [] => .ok (n, [])
  | b :: rest =>
    if b = ascii '.' then
      match rest with
      | [] => .error ⟨atEnd, []⟩
      | d :: rest' =>
        if isDigit d then
          exponentPart? atEnd { n with fraction := rest.takeWhile isDigit, isReal := true }
            (rest.dropWhile isDigit)
        else .error ⟨.invalidNumber, rest'⟩
    else exponentPart? atEnd n (b :: rest)

/-- A number without its sign. No further digit may follow a leading zero. -/
def unsignedNumber (atEnd : Cause) : List UInt8 → Except Failure (Number × List UInt8)
  | [] => .error ⟨atEnd, []⟩
  | b :: rest =>
    let n (whole : List UInt8) : Number := ⟨whole, [], false, [], false⟩
    if b = ascii '0' then
      match rest with
      | [] => .ok (n [b], [])
      | d :: rest' =>
        if isDigit d then .error ⟨.invalidNumber, rest'⟩ else fractionPart? atEnd (n [b]) rest
    else if isDigit b then
      fractionPart? atEnd (n (b :: rest.takeWhile isDigit)) (rest.dropWhile isDigit)
    else .error ⟨.invalidNumber, rest⟩

theorem length_dropWhile_le (p : UInt8 → Bool) (bs : List UInt8) :
    (bs.dropWhile p).length ≤ bs.length :=
  (List.dropWhile_sublist p).length_le

theorem length_exponentPart_le {atEnd : Cause} {n n' : Number} {bs rest : List UInt8}
    (h : exponentPart atEnd n bs = .ok (n', rest)) : rest.length ≤ bs.length := by
  have signed : ∀ bs : List UInt8, (match bs with
      | [] => (false, [])
      | b :: rest =>
        if b = ascii '+' then (false, rest) else if b = ascii '-' then (true, rest)
        else (false, bs) : Bool × List UInt8).2.length ≤ bs.length := by
    intro bs
    split
    · simp
    · split
      · simp
      · split <;> simp
  have hs := signed bs
  simp only [exponentPart] at h
  split at h
  · contradiction
  · next b rest' hb =>
    split at h
    · obtain ⟨-, rfl⟩ := Prod.mk.inj (Except.ok.inj h)
      have := length_dropWhile_le isDigit rest'
      rw [hb] at hs
      simp only [List.length_cons] at hs
      omega
    · contradiction

theorem length_exponentPart?_le {atEnd : Cause} {n n' : Number} {bs rest : List UInt8}
    (h : exponentPart? atEnd n bs = .ok (n', rest)) : rest.length ≤ bs.length := by
  cases bs with
  | nil => simp [exponentPart?] at h; simp [h.2]
  | cons b bs =>
    simp only [exponentPart?] at h
    split at h
    · exact Nat.le_succ_of_le (length_exponentPart_le h)
    · obtain ⟨-, rfl⟩ := Prod.mk.inj (Except.ok.inj h)
      exact Nat.le_refl _

theorem length_fractionPart?_le {atEnd : Cause} {n n' : Number} {bs rest : List UInt8}
    (h : fractionPart? atEnd n bs = .ok (n', rest)) : rest.length ≤ bs.length := by
  cases bs with
  | nil => simp [fractionPart?] at h; simp [h.2]
  | cons b bs =>
    simp only [fractionPart?] at h
    split at h
    · split at h
      · contradiction
      · next d rest' =>
        split at h
        · exact Nat.le_succ_of_le
            (Nat.le_trans (length_exponentPart?_le h) (length_dropWhile_le isDigit _))
        · contradiction
    · exact length_exponentPart?_le h

theorem length_unsignedNumber_lt {atEnd : Cause} {n : Number} {bs rest : List UInt8}
    (h : unsignedNumber atEnd bs = .ok (n, rest)) : rest.length < bs.length := by
  cases bs with
  | nil => simp [unsignedNumber] at h
  | cons b bs =>
    simp only [unsignedNumber] at h
    split at h
    · split at h
      · obtain ⟨-, rfl⟩ := Prod.mk.inj (Except.ok.inj h)
        simp
      · split at h
        · contradiction
        · exact Nat.lt_succ_of_le (length_fractionPart?_le h)
    · split at h
      · exact Nat.lt_succ_of_le
          (Nat.le_trans (length_fractionPart?_le h) (length_dropWhile_le isDigit _))
      · contradiction

end AdminConsole.Json
