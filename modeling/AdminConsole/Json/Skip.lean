import AdminConsole.Json.Number
import AdminConsole.Json.Quoted

/-!
# Skipping a value

Passes over a value of any kind, checking its syntax only. Brackets may nest to any depth: the open
ones are kept in a list.
-/

namespace AdminConsole.Json

inductive Frame where
  | list
  | object
deriving DecidableEq, Repr

namespace Frame

def close : Frame → UInt8
  | .list => ascii ']'
  | .object => ascii '\x7d'

def part : Frame → Part
  | .list => .list
  | .object => .object

def expectedComma : Frame → Cause
  | .list => .expectedCommaOrBracket
  | .object => .expectedCommaOrBrace

def opening? (b : UInt8) : Option Frame :=
  if b = ascii '[' then some .list else if b = ascii '\x7b' then some .object else none

end Frame

def skipScalar (b : UInt8) (rest : List UInt8) : Except Failure (List UInt8) :=
  if b = ascii 'n' then literal ['u', 'l', 'l'] rest
  else if b = ascii 't' then literal ['r', 'u', 'e'] rest
  else if b = ascii 'f' then literal ['a', 'l', 's', 'e'] rest
  else if b = ascii '"' then skipString rest
  else if b = ascii '-' then (unsignedNumber .invalidNumber rest).map (·.2)
  else if isDigit b then (unsignedNumber .invalidNumber (b :: rest)).map (·.2)
  else .error ⟨.expectedValue, rest⟩

def skipKey (bs : List UInt8) : Except Failure (List UInt8) :=
  match skipBlank bs with
  | [] => .error ⟨.endOf .object, []⟩
  | b :: rest =>
    if b = ascii '"' then
      match skipString rest with
      | .error e => .error e
      | .ok rest =>
        match skipBlank rest with
        | [] => .error ⟨.endOf .object, []⟩
        | c :: rest => if c = ascii ':' then .ok rest else .error ⟨.expectedColon, rest⟩
    else .error ⟨.keyNotString, rest⟩

def enter : List Frame → List UInt8 → Except Failure (List UInt8)
  | .object :: _, bs => skipKey bs
  | _, bs => .ok bs

/-- After a value: closes every bracket that ends here and passes the next comma. -/
def settle : List Frame → List UInt8 → Except Failure (List Frame × List UInt8)
  | [], bs => .ok ([], bs)
  | frame :: outer, bs =>
    match skipBlank bs with
    | [] => .error ⟨.endOf frame.part, []⟩
    | b :: rest =>
      if b = ascii ',' then .ok (frame :: outer, rest)
      else if b = frame.close then settle outer rest
      else .error ⟨frame.expectedComma, rest⟩

def onward (stack : List Frame) (bs : List UInt8) : Except Failure (List Frame × List UInt8) :=
  match settle stack bs with
  | .error e => .error e
  | .ok (stack, rest) => (enter stack rest).map (stack, ·)

def advance (stack : List Frame) (bs : List UInt8) : Except Failure (List Frame × List UInt8) :=
  match skipBlank bs with
  | [] => .error ⟨.endOf .value, []⟩
  | b :: rest =>
    match Frame.opening? b with
    | none =>
      match skipScalar b rest with
      | .error e => .error e
      | .ok rest => onward stack rest
    | some frame =>
      match skipBlank rest with
      | [] => .error ⟨.endOf frame.part, []⟩
      | c :: rest =>
        if c = frame.close then onward stack rest
        else (enter (frame :: stack) (c :: rest)).map (frame :: stack, ·)

theorem length_skipScalar_le {b : UInt8} {bs rest : List UInt8} (h : skipScalar b bs = .ok rest) :
    rest.length ≤ bs.length := by
  simp only [skipScalar] at h
  repeat' split at h
  · exact length_literal_le h
  · exact length_literal_le h
  · exact length_literal_le h
  · exact Nat.le_of_lt (length_skipString_lt h)
  · cases hn : unsignedNumber .invalidNumber bs with
    | error e => rw [hn] at h; contradiction
    | ok p =>
      rw [hn] at h
      obtain rfl := Except.ok.inj h
      exact Nat.le_of_lt (length_unsignedNumber_lt hn)
  · cases hn : unsignedNumber .invalidNumber (b :: bs) with
    | error e => rw [hn] at h; contradiction
    | ok p =>
      rw [hn] at h
      obtain rfl := Except.ok.inj h
      exact Nat.le_of_lt_succ (length_unsignedNumber_lt hn)
  · contradiction

theorem length_skipKey_le {bs rest : List UInt8} (h : skipKey bs = .ok rest) :
    rest.length ≤ bs.length := by
  have hb := length_skipBlank_le bs
  simp only [skipKey] at h
  split at h
  · contradiction
  · next b inner hs =>
    rw [hs, List.length_cons] at hb
    split at h
    · split at h
      · contradiction
      · next after hq =>
        have := length_skipString_lt hq
        have hc := length_skipBlank_le after
        split at h
        · contradiction
        · next c last hl =>
          rw [hl, List.length_cons] at hc
          split at h
          · obtain rfl := Except.ok.inj h
            omega
          · contradiction
    · contradiction

theorem length_enter_le {stack : List Frame} {bs rest : List UInt8}
    (h : enter stack bs = .ok rest) : rest.length ≤ bs.length := by
  unfold enter at h
  split at h
  · exact length_skipKey_le h
  · obtain rfl := Except.ok.inj h
    exact Nat.le_refl _

theorem length_settle_le {stack stack' : List Frame} {bs rest : List UInt8}
    (h : settle stack bs = .ok (stack', rest)) : rest.length ≤ bs.length := by
  induction stack generalizing bs with
  | nil =>
    obtain ⟨-, rfl⟩ := Prod.mk.inj (Except.ok.inj h)
    exact Nat.le_refl _
  | cons frame outer ih =>
    have hb := length_skipBlank_le bs
    simp only [settle] at h
    split at h
    · contradiction
    · next b inner hs =>
      rw [hs, List.length_cons] at hb
      split at h
      · obtain ⟨-, rfl⟩ := Prod.mk.inj (Except.ok.inj h)
        omega
      · split at h
        · have := ih h
          omega
        · contradiction

theorem length_onward_le {stack stack' : List Frame} {bs rest : List UInt8}
    (h : onward stack bs = .ok (stack', rest)) : rest.length ≤ bs.length := by
  simp only [onward] at h
  split at h
  · contradiction
  · next inner after hs =>
    cases he : enter inner after with
    | error e => rw [he] at h; contradiction
    | ok last =>
      rw [he] at h
      obtain ⟨-, rfl⟩ := Prod.mk.inj (Except.ok.inj h)
      exact Nat.le_trans (length_enter_le he) (length_settle_le hs)

theorem length_advance_lt {stack stack' : List Frame} {bs rest : List UInt8}
    (h : advance stack bs = .ok (stack', rest)) : rest.length < bs.length := by
  have hb := length_skipBlank_le bs
  simp only [advance] at h
  split at h
  · contradiction
  · next b inner hs =>
    rw [hs, List.length_cons] at hb
    split at h
    · split at h
      · contradiction
      · next after hv =>
        have := length_skipScalar_le hv
        have := length_onward_le h
        omega
    · next frame hf =>
      have hc := length_skipBlank_le inner
      split at h
      · contradiction
      · next c last hl =>
        rw [hl, List.length_cons] at hc
        split at h
        · have := length_onward_le h
          omega
        · cases he : enter (frame :: stack) (c :: last) with
          | error e => rw [he] at h; contradiction
          | ok final =>
            rw [he] at h
            obtain ⟨-, rfl⟩ := Prod.mk.inj (Except.ok.inj h)
            have := length_enter_le he
            simp only [List.length_cons] at this
            omega

def skipFrom (stack : List Frame) (bs : List UInt8) : Except Failure (List UInt8) :=
  match _h : advance stack bs with
  | .error e => .error e
  | .ok ([], rest) => .ok rest
  | .ok (frame :: outer, rest) => skipFrom (frame :: outer) rest
termination_by bs.length
decreasing_by exact length_advance_lt ‹_›

def skipValue (bs : List UInt8) : Except Failure (List UInt8) := skipFrom [] bs

end AdminConsole.Json
