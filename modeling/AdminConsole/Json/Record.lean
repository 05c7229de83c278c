import AdminConsole.Json.List
import AdminConsole.Json.Skip

/-!
# Records

A record is written as an object and read from an object or from a list of its fields in order.
Members with unknown keys are passed over and a known key may appear once. A lenient record starts
from a blank value that its fields replace one by one; a strict one needs them all.
-/

namespace AdminConsole.Json

/-- A field of `ρ`: how its value replaces the one in a record, and how it is written, if it is. -/
structure Field (ρ : Type) where
  key : String
  read : ρ → Reader ρ
  write? : ρ → Option (List Char)
  progress {r : ρ} {bs : List UInt8} {r' : ρ} {rest : List UInt8} :
    read r bs = .ok (r', rest) → rest.length < bs.length

def Field.omitting {ρ α : Type} (isOmitted : α → Bool) (key : String) (c : Codec α) (get : ρ → α)
    (set : α → ρ → ρ) : Field ρ where
  key := key
  read r bs := (c.read bs).map fun (a, rest) => (set a r, rest)
  write? r := if isOmitted (get r) then none else some (c.write (get r))
  progress {r bs r' rest} h := by
    cases hr : c.read bs with
    | error e => rw [hr] at h; contradiction
    | ok p =>
      rw [hr] at h
      obtain ⟨-, rfl⟩ := Prod.mk.inj (Except.ok.inj h)
      exact c.progress hr

def Field.of {ρ α : Type} : String → Codec α → (ρ → α) → (α → ρ → ρ) → Field ρ :=
  .omitting fun _ => false

structure Shape (ρ : Type) where
  name : String
  blank : ρ
  isLenient : Bool
  fields : List (Field ρ)

namespace Shape

variable {ρ : Type}

def write (s : Shape ρ) (r : ρ) : List Char :=
  bracket '\x7b' '\x7d' <| s.fields.filterMap fun f =>
    (f.write? r).map (quote f.key.toList ++ ':' :: ·)

/-! ## From a list -/

def readElements (s : Shape ρ) (count : Nat) (r : ρ) :
    List (Field ρ) → List UInt8 → Except Failure (ρ × List UInt8)
  | [], bs => .ok (r, bs)
  | f :: fs, bs =>
    match nextElement? (count == 0) bs with
    | .error e => .error e
    | .ok (false, rest) =>
      if s.isLenient then .ok (r, rest)
      else
        let expected := "struct " ++ s.name ++ " with " ++ toString s.fields.length ++ " elements"
        .error ⟨.tooFewElements count expected, rest.drop 1⟩
    | .ok (true, rest) =>
      match f.read r rest with
      | .error e => .error e
      | .ok (r, rest) => readElements s (count + 1) r fs rest

theorem length_readElements_le {s : Shape ρ} {count : Nat} {r r' : ρ} {fs : List (Field ρ)}
    {bs rest : List UInt8} (h : s.readElements count r fs bs = .ok (r', rest)) :
    rest.length ≤ bs.length := by
  induction fs generalizing count r bs with
  | nil =>
    obtain ⟨-, rfl⟩ := Prod.mk.inj (Except.ok.inj h)
    exact Nat.le_refl _
  | cons f fs ih =>
    simp only [readElements] at h
    split at h
    · contradiction
    · next hn =>
      split at h
      · obtain ⟨-, rfl⟩ := Prod.mk.inj (Except.ok.inj h)
        exact length_nextElement?_le hn
      · contradiction
    · next hn =>
      split at h
      · contradiction
      · next hr =>
        have := ih h
        have := f.progress hr
        have := length_nextElement?_le hn
        omega

/-! ## From an object -/

def nextKey? (isFirst : Bool) (bs : List UInt8) :
    Except Failure (Option (List Char) × List UInt8) :=
  let key (b : UInt8) (rest : List UInt8) : Except Failure (Option (List Char) × List UInt8) :=
    if b = ascii '"' then (string rest).map fun (cs, rest) => (some cs, rest)
    else .error ⟨.keyNotString, rest⟩
  match skipBlank bs with
  | [] => .error ⟨.endOf .object, []⟩
  | b :: rest =>
    if b = ascii '\x7d' then .ok (none, rest)
    else if isFirst then key b rest
    else if b = ascii ',' then
      match skipBlank rest with
      | [] => .error ⟨.endOf .value, []⟩
      | c :: rest => if c = ascii '\x7d' then .error ⟨.trailingComma, rest⟩ else key c rest
    else .error ⟨.expectedCommaOrBrace, rest⟩

def colon (bs : List UInt8) : Except Failure (List UInt8) :=
  match skipBlank bs with
  | [] => .error ⟨.endOf .object, []⟩
  | b :: rest => if b = ascii ':' then .ok rest else .error ⟨.expectedColon, rest⟩

/-- Takes the closing brace if it comes next: a complaint about the members is placed after it. -/
def pastClose (bs : List UInt8) : List UInt8 :=
  match skipBlank bs with
  | [] => []
  | b :: rest => if b = ascii '\x7d' then rest else b :: rest

theorem length_nextKey?_lt {isFirst : Bool} {key : Option (List Char)} {bs rest : List UInt8}
    (h : nextKey? isFirst bs = .ok (key, rest)) : rest.length < bs.length := by
  have hb := length_skipBlank_le bs
  have taken {b : UInt8} {inner : List UInt8} (hi : inner.length < bs.length)
      (h : (if b = ascii '"' then (string inner).map fun (cs, rest) => (some cs, rest)
        else .error ⟨.keyNotString, inner⟩) = .ok (key, rest)) : rest.length < bs.length := by
    split at h
    · cases hs : string inner with
      | error e => rw [hs] at h; contradiction
      | ok p =>
        rw [hs] at h
        obtain ⟨-, rfl⟩ := Prod.mk.inj (Except.ok.inj h)
        have := length_string_lt hs
        omega
    · contradiction
  simp only [nextKey?] at h
  split at h
  · contradiction
  · next b inner hs =>
    rw [hs, List.length_cons] at hb
    split at h
    · obtain ⟨-, rfl⟩ := Prod.mk.inj (Except.ok.inj h)
      omega
    · split at h
      · exact taken (by omega) h
      · split at h
        · have hc := length_skipBlank_le inner
          split at h
          · contradiction
          · next c last hl =>
            rw [hl, List.length_cons] at hc
            split at h
            · contradiction
            · exact taken (by omega) h
        · contradiction

theorem length_colon_le {bs rest : List UInt8} (h : colon bs = .ok rest) :
    rest.length ≤ bs.length := by
  have hb := length_skipBlank_le bs
  simp only [colon] at h
  split at h
  · contradiction
  · next b inner hs =>
    rw [hs, List.length_cons] at hb
    split at h
    · obtain rfl := Except.ok.inj h
      omega
    · contradiction

/-- A member's value, after its key and colon: it replaces the field of that key, or is passed
over if there is none. -/
def readValue (s : Shape ρ) (key : List Char) (r : ρ) (bs : List UInt8) :
    Except Failure (ρ × List UInt8) :=
  match s.fields.find? (·.key.toList = key) with
  | some f => f.read r bs
  | none => (skipValue bs).map (r, ·)

/-- A member after its key. A known key that was `seen` before is refused. -/
def readMember (s : Shape ρ) (seen : List (List Char)) (key : List Char) (r : ρ)
    (bs : List UInt8) : Except Failure (ρ × List UInt8) :=
  if key ∈ seen ∧ s.fields.any (·.key.toList = key) then
    .error ⟨.duplicateField (String.ofList key), pastClose bs⟩
  else
    match colon bs with
    | .error e => .error e
    | .ok rest => s.readValue key r rest

theorem length_skipFrom_le {stack : List Frame} {bs rest : List UInt8}
    (h : skipFrom stack bs = .ok rest) : rest.length ≤ bs.length := by
  fun_induction skipFrom stack bs generalizing rest with
  | case1 => contradiction
  | case2 stack bs inner ha =>
    obtain rfl := Except.ok.inj h
    exact Nat.le_of_lt (length_advance_lt ha)
  | case3 stack bs frame outer inner ha ih =>
    have := ih h
    have := length_advance_lt ha
    omega

theorem length_readMember_le {s : Shape ρ} {seen : List (List Char)} {key : List Char} {r r' : ρ}
    {bs rest : List UInt8} (h : s.readMember seen key r bs = .ok (r', rest)) :
    rest.length ≤ bs.length := by
  simp only [readMember, readValue] at h
  split at h
  · contradiction
  · split at h
    · contradiction
    · next inner hc =>
      have := length_colon_le hc
      split at h
      · next f _ =>
        have := f.progress h
        omega
      · cases hs : skipValue inner with
        | error e => rw [hs] at h; contradiction
        | ok last =>
          rw [hs] at h
          obtain ⟨-, rfl⟩ := Prod.mk.inj (Except.ok.inj h)
          have := length_skipFrom_le hs
          omega

def readMembers (s : Shape ρ) (seen : List (List Char)) (r : ρ) (bs : List UInt8) :
    Except Failure ((ρ × List (List Char)) × List UInt8) :=
  match _h : nextKey? seen.isEmpty bs with
  | .error e => .error e
  | .ok (none, rest) => .ok ((r, seen), rest)
  | .ok (some key, rest) =>
    match _hm : s.readMember seen key r rest with
    | .error e => .error e
    | .ok (r, rest) => s.readMembers (key :: seen) r rest
termination_by bs.length
decreasing_by exact Nat.lt_of_le_of_lt (length_readMember_le ‹_›) (length_nextKey?_lt ‹_›)

theorem length_readMembers_lt {s : Shape ρ} {seen seen' : List (List Char)} {r r' : ρ}
    {bs rest : List UInt8} (h : s.readMembers seen r bs = .ok ((r', seen'), rest)) :
    rest.length < bs.length := by
  fun_induction readMembers s seen r bs with
  | case1 => contradiction
  | case2 seen r bs inner hn =>
    obtain ⟨-, rfl⟩ := Prod.mk.inj (Except.ok.inj h)
    exact length_nextKey?_lt hn
  | case3 => contradiction
  | case4 seen r bs key inner hn r'' after hm ih =>
    have := ih h
    have := length_readMember_le hm
    have := length_nextKey?_lt hn
    omega

def missing? (s : Shape ρ) (seen : List (List Char)) : Option String :=
  if s.isLenient then none
  else (s.fields.find? fun f => ¬ f.key.toList ∈ seen).map (·.key)

/-! ## Both forms -/

def read (s : Shape ρ) : Reader ρ := fun bs =>
  match skipBlank bs with
  | [] => .error ⟨.endOf .value, []⟩
  | b :: rest =>
    if b = ascii '[' then
      match s.readElements 0 s.blank s.fields rest with
      | .error e => .error e
      | .ok (r, rest) => (endList rest).map (r, ·)
    else if b = ascii '\x7b' then
      match s.readMembers [] s.blank rest with
      | .error e => .error e
      | .ok ((r, seen), rest) =>
        match s.missing? seen with
        | some key => .error ⟨.missingField key, rest⟩
        | none => .ok (r, rest)
    else .error (mismatch ("struct " ++ s.name) b rest)

def codec (s : Shape ρ) : Codec ρ where
  read := s.read
  write := s.write
  progress {bs r rest} h := by
    have hb := length_skipBlank_le bs
    simp only [read] at h
    split at h
    · contradiction
    · next b inner hs =>
      rw [hs, List.length_cons] at hb
      split at h
      · split at h
        · contradiction
        · next he =>
          refine length_of_map_eq_ok (fun rest hl => ?_) h
          have := length_readElements_le he
          have := length_endList_lt hl
          omega
      · split at h
        · split at h
          · contradiction
          · next hm =>
            split at h
            · contradiction
            · obtain ⟨-, rfl⟩ := Prod.mk.inj (Except.ok.inj h)
              have := length_readMembers_lt hm
              omega
        · contradiction

end Shape

end AdminConsole.Json
