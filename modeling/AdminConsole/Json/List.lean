import AdminConsole.Json.Codec

/-!
# Lists

A list is read element by element until its bracket closes. The steps serve records too, which may
be written as the list of their fields.
-/

namespace AdminConsole.Json

def nextElement? (isFirst : Bool) (bs : List UInt8) : Except Failure (Bool × List UInt8) :=
  match skipBlank bs with
  | [] => .error ⟨.endOf .list, []⟩
  | b :: rest =>
    if b = ascii ']' then .ok (false, b :: rest)
    else if isFirst then .ok (true, b :: rest)
    else if b = ascii ',' then
      match skipBlank rest with
      | [] => .error ⟨.endOf .value, []⟩
      | c :: rest =>
        if c = ascii ']' then .error ⟨.trailingComma, rest⟩ else .ok (true, c :: rest)
    else .error ⟨.expectedCommaOrBracket, rest⟩

theorem length_nextElement?_le {isFirst more : Bool} {bs rest : List UInt8}
    (h : nextElement? isFirst bs = .ok (more, rest)) : rest.length ≤ bs.length := by
  have hb := length_skipBlank_le bs
  simp only [nextElement?] at h
  split at h
  · contradiction
  · next b inner hs =>
    rw [hs, List.length_cons] at hb
    split at h
    · obtain ⟨-, rfl⟩ := Prod.mk.inj (Except.ok.inj h)
      simpa using hb
    · split at h
      · obtain ⟨-, rfl⟩ := Prod.mk.inj (Except.ok.inj h)
        simpa using hb
      · split at h
        · have hc := length_skipBlank_le inner
          split at h
          · contradiction
          · next c last hl =>
            rw [hl, List.length_cons] at hc
            split at h
            · contradiction
            · obtain ⟨-, rfl⟩ := Prod.mk.inj (Except.ok.inj h)
              simp only [List.length_cons]
              omega
        · contradiction

def endList (bs : List UInt8) : Except Failure (List UInt8) :=
  match skipBlank bs with
  | [] => .error ⟨.endOf .list, []⟩
  | b :: rest =>
    if b = ascii ']' then .ok rest
    else if b = ascii ',' then
      match skipBlank rest with
      | [] => .error ⟨.trailingCharacters, []⟩
      | c :: rest =>
        if c = ascii ']' then .error ⟨.trailingComma, rest⟩
        else .error ⟨.trailingCharacters, rest⟩
    else .error ⟨.trailingCharacters, rest⟩

theorem length_endList_lt {bs rest : List UInt8} (h : endList bs = .ok rest) :
    rest.length < bs.length := by
  have hb := length_skipBlank_le bs
  simp only [endList] at h
  split at h
  · contradiction
  · next b inner hs =>
    rw [hs, List.length_cons] at hb
    split at h
    · obtain rfl := Except.ok.inj h
      omega
    · split at h
      · split at h
        · contradiction
        · split at h <;> contradiction
      · contradiction

/-- The elements up to the closing bracket, which is left unread. -/
def elements {α : Type} (c : Codec α) (isFirst : Bool) (bs : List UInt8) :
    Except Failure (List α × List UInt8) :=
  match _h : nextElement? isFirst bs with
  | .error e => .error e
  | .ok (false, rest) => .ok ([], rest)
  | .ok (true, rest) =>
    match _hr : c.read rest with
    | .error e => .error e
    | .ok (a, rest) => (elements c false rest).map fun (as, rest) => (a :: as, rest)
termination_by bs.length
decreasing_by exact Nat.lt_of_lt_of_le (c.progress ‹_›) (length_nextElement?_le ‹_›)

theorem length_elements_le {α : Type} {c : Codec α} {isFirst : Bool} {bs rest : List UInt8}
    {as : List α} (h : elements c isFirst bs = .ok (as, rest)) : rest.length ≤ bs.length := by
  fun_induction elements c isFirst bs generalizing as rest with
  | case1 => contradiction
  | case2 =>
    rename_i hn
    obtain ⟨-, rfl⟩ := Prod.mk.inj (Except.ok.inj h)
    exact length_nextElement?_le hn
  | case3 => contradiction
  | case4 isFirst bs inner hn a after hr ih =>
    cases he : elements c false after with
    | error e => rw [he] at h; contradiction
    | ok p =>
      rw [he] at h
      obtain ⟨-, rfl⟩ := Prod.mk.inj (Except.ok.inj h)
      have := ih he
      have := c.progress hr
      have := length_nextElement?_le hn
      omega

def readList {α : Type} (c : Codec α) : Reader (List α) := fun bs =>
  match skipBlank bs with
  | [] => .error ⟨.endOf .value, []⟩
  | b :: rest =>
    if b = ascii '[' then
      match elements c true rest with
      | .error e => .error e
      | .ok (as, rest) => (endList rest).map (as, ·)
    else .error (mismatch "a sequence" b rest)

theorem length_readList_lt {α : Type} {c : Codec α} {bs rest : List UInt8} {as : List α}
    (h : readList c bs = .ok (as, rest)) : rest.length < bs.length := by
  have hb := length_skipBlank_le bs
  simp only [readList] at h
  split at h
  · contradiction
  · next b inner hs =>
    rw [hs, List.length_cons] at hb
    split at h
    · split at h
      · contradiction
      · next he =>
        refine length_of_map_eq_ok (fun rest hl => ?_) h
        have := length_elements_le he
        have := length_endList_lt hl
        omega
    · contradiction

def Codec.list {α : Type} (c : Codec α) : Codec (List α) where
  read := readList c
  write as := bracket '[' ']' (as.map c.write)
  progress := length_readList_lt

end AdminConsole.Json
