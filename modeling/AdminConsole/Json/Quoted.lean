import AdminConsole.Utf8
import AdminConsole.Json.Reader

/-!
# Strings

A string is read as bytes first: its escapes are replaced by the bytes they stand for, the other
bytes are kept. The result must be UTF-8. In a string that is passed over, escapes are not combined
into characters and the bytes may be anything but controls.
-/

namespace AdminConsole.Json

def hexByte? (b : UInt8) : Option Nat := Text.hexValue? (Char.ofNat b.toNat)

def hex4 : Reader Nat
  | a :: b :: c :: d :: rest =>
    match hexByte? a, hexByte? b, hexByte? c, hexByte? d with
    | some a, some b, some c, some d => .ok (((a * 16 + b) * 16 + c) * 16 + d, rest)
    | _, _, _, _ => .error ⟨.invalidEscape, rest⟩
  | _ => .error ⟨.endOf .string, []⟩

theorem length_hex4_le {n : Nat} {bs rest : List UInt8} (h : hex4 bs = .ok (n, rest)) :
    rest.length ≤ bs.length := by
  unfold hex4 at h
  split at h
  · split at h
    · obtain ⟨-, rfl⟩ := Prod.mk.inj (Except.ok.inj h)
      simp only [List.length_cons]
      omega
    · contradiction
  · contradiction

def shortEscape? (b : UInt8) : Option UInt8 :=
  if b = ascii '"' ∨ b = ascii '\\' ∨ b = ascii '/' then some b
  else if b = ascii 'b' then some 0x08
  else if b = ascii 'f' then some 0x0C
  else if b = ascii 'n' then some 0x0A
  else if b = ascii 'r' then some 0x0D
  else if b = ascii 't' then some 0x09
  else none

/-- The low half of a surrogate pair, after the high half `high`. -/
def lowSurrogate (high : Nat) : Reader (List UInt8)
  | [] => .error ⟨.endOf .string, []⟩
  | [b] => .error ⟨if b = ascii '\\' then .endOf .string else .unexpectedEndOfEscape, []⟩
  | b :: u :: rest =>
    if b ≠ ascii '\\' then .error ⟨.unexpectedEndOfEscape, u :: rest⟩
    else if u ≠ ascii 'u' then .error ⟨.unexpectedEndOfEscape, rest⟩
    else
      match hex4 rest with
      | .error e => .error e
      | .ok (low, rest) =>
        if low < 0xDC00 ∨ 0xDFFF < low then .error ⟨.loneSurrogate, rest⟩
        else
          let code := 0x10000 + (high - 0xD800) * 0x400 + (low - 0xDC00)
          .ok (Utf8.encode [Char.ofNat code], rest)

def unicodeEscape : Reader (List UInt8) := fun bs =>
  match hex4 bs with
  | .error e => .error e
  | .ok (unit, rest) =>
    if 0xDC00 ≤ unit ∧ unit ≤ 0xDFFF then .error ⟨.loneSurrogate, rest⟩
    else if unit < 0xD800 ∨ 0xDBFF < unit then .ok (Utf8.encode [Char.ofNat unit], rest)
    else lowSurrogate unit rest

def escape : Reader (List UInt8)
  | [] => .error ⟨.endOf .string, []⟩
  | b :: rest =>
    match shortEscape? b with
    | some byte => .ok ([byte], rest)
    | none => if b = ascii 'u' then unicodeEscape rest else .error ⟨.invalidEscape, rest⟩

theorem length_lowSurrogate_le {high : Nat} {out bs rest : List UInt8}
    (h : lowSurrogate high bs = .ok (out, rest)) : rest.length ≤ bs.length := by
  unfold lowSurrogate at h
  split at h
  · contradiction
  · contradiction
  · split at h
    · contradiction
    · split at h
      · contradiction
      · split at h
        · contradiction
        · next hx =>
          split at h
          · contradiction
          · obtain ⟨-, rfl⟩ := Prod.mk.inj (Except.ok.inj h)
            have := length_hex4_le hx
            simp only [List.length_cons]
            omega

theorem length_escape_le {out bs rest : List UInt8} (h : escape bs = .ok (out, rest)) :
    rest.length ≤ bs.length := by
  cases bs with
  | nil => simp [escape] at h
  | cons b bs =>
    simp only [escape] at h
    split at h
    · obtain ⟨-, rfl⟩ := Prod.mk.inj (Except.ok.inj h)
      simp
    · split at h
      · simp only [unicodeEscape] at h
        split at h
        · contradiction
        · next hx =>
          have := length_hex4_le hx
          split at h
          · contradiction
          · split at h
            · obtain ⟨-, rfl⟩ := Prod.mk.inj (Except.ok.inj h)
              simp only [List.length_cons]
              omega
            · have := length_lowSurrogate_le h
              simp only [List.length_cons]
              omega
      · contradiction

def quoted : Reader (List UInt8)
  | [] => .error ⟨.endOf .string, []⟩
  | b :: rest =>
    if b = ascii '"' then .ok ([], rest)
    else if b = ascii '\\' then
      match _h : escape rest with
      | .error e => .error e
      | .ok (out, rest') =>
        match quoted rest' with
        | .error e => .error e
        | .ok (more, rest'') => .ok (out ++ more, rest'')
    else if b < 0x20 then .error ⟨.controlCharacter, rest⟩
    else
      match quoted rest with
      | .error e => .error e
      | .ok (more, rest') => .ok (b :: more, rest')
termination_by bs => bs.length
decreasing_by
  · exact Nat.lt_succ_of_le (length_escape_le ‹_›)
  · simp

def string : Reader (List Char) := fun bs =>
  match quoted bs with
  | .error e => .error e
  | .ok (bytes, rest) =>
    match Utf8.decode? bytes with
    | none => .error ⟨.invalidCodePoint, rest⟩
    | some cs => .ok (cs, rest)

theorem length_quoted_lt {out bs rest : List UInt8} (h : quoted bs = .ok (out, rest)) :
    rest.length < bs.length := by
  fun_induction quoted bs generalizing out rest with
  | case1 => contradiction
  | case2 =>
    obtain ⟨-, rfl⟩ := Prod.mk.inj (Except.ok.inj h)
    simp
  | case3 => contradiction
  | case4 => contradiction
  | case5 =>
    rename_i he _ _ hq _ ih
    obtain ⟨-, rfl⟩ := Prod.mk.inj (Except.ok.inj h)
    have := ih hq
    have := length_escape_le he
    simp only [List.length_cons]
    omega
  | case6 => contradiction
  | case7 => contradiction
  | case8 =>
    rename_i hq ih
    obtain ⟨-, rfl⟩ := Prod.mk.inj (Except.ok.inj h)
    exact Nat.lt_succ_of_lt (ih hq)

theorem length_string_lt {cs : List Char} {bs rest : List UInt8} (h : string bs = .ok (cs, rest)) :
    rest.length < bs.length := by
  simp only [string] at h
  split at h
  · contradiction
  · next hq =>
    split at h
    · contradiction
    · obtain ⟨-, rfl⟩ := Prod.mk.inj (Except.ok.inj h)
      exact length_quoted_lt hq

def skipString : List UInt8 → Except Failure (List UInt8)
  | [] => .error ⟨.endOf .string, []⟩
  | b :: rest =>
    if b = ascii '"' then .ok rest
    else if b = ascii '\\' then
      match rest with
      | [] => .error ⟨.endOf .string, []⟩
      | e :: rest =>
        if (shortEscape? e).isSome then skipString rest
        else if e = ascii 'u' then
          match _h : hex4 rest with
          | .error f => .error f
          | .ok (_, rest) => skipString rest
        else .error ⟨.invalidEscape, rest⟩
    else if b < 0x20 then .error ⟨.controlCharacter, b :: rest⟩
    else skipString rest
termination_by bs => bs.length
decreasing_by
  · simp only [List.length_cons]
    omega
  · have := length_hex4_le ‹_›
    simp only [List.length_cons]
    omega
  · simp

theorem length_skipString_lt {bs rest : List UInt8} (h : skipString bs = .ok rest) :
    rest.length < bs.length := by
  fun_induction skipString bs generalizing rest with
  | case1 => contradiction
  | case2 => obtain rfl := Except.ok.inj h; simp
  | case3 => contradiction
  | case4 =>
    rename_i ih
    have := ih h
    simp only [List.length_cons]
    omega
  | case5 => contradiction
  | case6 =>
    rename_i hx _ _ ih
    have := ih h
    have := length_hex4_le hx
    simp only [List.length_cons]
    omega
  | case7 => contradiction
  | case8 => contradiction
  | case9 =>
    rename_i ih
    exact Nat.lt_succ_of_lt (ih h)

end AdminConsole.Json
