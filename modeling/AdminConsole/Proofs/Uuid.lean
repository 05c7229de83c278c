import Mathlib.Algebra.GroupWithZero.Nat
import Mathlib.Data.List.Induction
import AdminConsole.ProviderId
import AdminConsole.Proofs.Text

/-!
# The hyphenated form of a UUID

Reading accepts exactly the texts of the hyphenated form, with digits of either case, and what was
read is printed as the same text in lower case. So texts that differ in case only name the same
UUID.
-/

namespace AdminConsole

namespace Text

def IsHexDigit (c : Char) : Prop :=
  ('0' ≤ c ∧ c ≤ '9') ∨ ('a' ≤ c ∧ c ≤ 'f') ∨ ('A' ≤ c ∧ c ≤ 'F')

theorem isHexDigit_iff {c : Char} : IsHexDigit c ↔ (hexValue? c).isSome = true := by
  have hle (a : Char) : a ≤ c ↔ a.toNat ≤ c.toNat := Iff.rfl
  have hge (a : Char) : c ≤ a ↔ c.toNat ≤ a.toNat := Iff.rfl
  simp only [IsHexDigit, hexValue?, hle, hge, Char.reduceToNat]
  split <;> rename_i h₁
  · simp [h₁]
  · split <;> rename_i h₂
    · simp [h₂]
    · split <;> simp_all

theorem toNat_lt_of_isHexDigit {c : Char} (h : IsHexDigit c) : c.toNat < 0x80 := by
  rcases h with ⟨-, h⟩ | ⟨-, h⟩ | ⟨-, h⟩ <;> exact Nat.lt_of_le_of_lt h (by decide)

theorem hexDigit_of_hexValue? {c : Char} {n : Nat} (h : hexValue? c = some n) :
    hexDigit n = c.toLower := by
  have hsome : (hexValue? c).isSome = true := by simp [h]
  have hlt := toNat_lt_of_isHexDigit (isHexDigit_iff.mpr hsome)
  have hall : ∀ m < 0x80, ∀ n, hexValue? (Char.ofNat m) = some n →
      hexDigit n = (Char.ofNat m).toLower := by decide
  simpa [h] using hall c.toNat hlt n

theorem hexValue?_toLower (c : Char) : hexValue? c.toLower = hexValue? c := by
  have hall : ∀ m < 0x80, hexValue? (Char.ofNat m).toLower = hexValue? (Char.ofNat m) := by decide
  rcases Nat.lt_or_ge c.toNat 0x80 with hlt | hge
  · simpa using hall c.toNat hlt
  · rw [toLower_of_le hge]

theorem lower_join {sep : Char} (hsep : sep.toLower = sep) (pieces : List (List Char)) :
    lower (join sep pieces) = join sep (pieces.map lower) := by
  cases pieces with
  | nil => rfl
  | cons piece pieces => simp [join, lower, List.map_flatMap, List.flatMap_map, hsep]

theorem length_join_cons (sep : Char) (piece : List Char) (pieces : List (List Char)) :
    (join sep (piece :: pieces)).length =
      ((piece :: pieces).map List.length).sum + pieces.length := by
  induction pieces generalizing piece with
  | nil => simp [join]
  | cons next pieces ih =>
    rw [join_cons_of_ne_nil (by simp), List.length_append, List.length_cons, ih]
    simp only [List.map_cons, List.sum_cons, List.length_cons]
    omega

theorem utf8ByteSize_ofList {cs : List Char} (h : ∀ c ∈ cs, c.toNat < 0x80) :
    (String.ofList cs).utf8ByteSize = cs.length := by
  induction cs with
  | nil => rfl
  | cons c cs ih =>
    rw [List.forall_mem_cons] at h
    have hc : c.utf8Size = 1 := Char.utf8Size_eq_one_iff.mpr (Nat.le_of_lt_succ h.1)
    rw [String.ofList_cons, String.utf8ByteSize_append, String.utf8ByteSize_singleton, hc, ih h.2,
      List.length_cons, Nat.add_comm]

theorem exists_values {cs : List Char} (h : ∀ c ∈ cs, IsHexDigit c) :
    ∃ ds : List Nat, cs.map hexValue? = ds.map some := by
  induction cs with
  | nil => exact ⟨[], rfl⟩
  | cons c cs ih =>
    rw [List.forall_mem_cons] at h
    obtain ⟨d, hd⟩ := Option.isSome_iff_exists.mp (isHexDigit_iff.mp h.1)
    obtain ⟨ds, hds⟩ := ih h.2
    exact ⟨d :: ds, by simp [hd, hds]⟩

theorem isHexDigit_of_values {cs : List Char} {ds : List Nat}
    (h : cs.map hexValue? = ds.map some) : ∀ c ∈ cs, IsHexDigit c := by
  intro c hc
  have hmem : hexValue? c ∈ ds.map some := h ▸ List.mem_map_of_mem hc
  obtain ⟨d, -, hd⟩ := List.mem_map.mp hmem
  exact isHexDigit_iff.mpr (by simp [← hd])

theorem map_hexDigit_of_values {cs : List Char} {ds : List Nat}
    (h : cs.map hexValue? = ds.map some) : ds.map hexDigit = lower cs := by
  induction cs generalizing ds with
  | nil =>
    obtain rfl := List.map_eq_nil_iff.mp h.symm
    rfl
  | cons c cs ih =>
    cases ds with
    | nil => cases h
    | cons d ds =>
      obtain ⟨hd, hds⟩ := List.cons.inj h
      simp only [List.map_cons, lower, hexDigit_of_hexValue? hd]
      exact congrArg _ (ih hds)

end Text

namespace Uuid

open Text (hexValue? hexDigit lower join)

-- ---------------------------------------------------------------------------
-- Reading
-- ---------------------------------------------------------------------------

theorem takeHex?_eq_some_iff {count : Nat} {cs rest : List Char} {ds : List Nat} :
    takeHex? count cs = some (ds, rest) ↔
      ∃ head, cs = head ++ rest ∧ head.length = count ∧ head.map hexValue? = ds.map some := by
  induction count generalizing cs ds with
  | zero =>
    simp only [takeHex?, Option.some.injEq, Prod.mk.injEq, List.length_eq_zero_iff]
    constructor
    · rintro ⟨rfl, rfl⟩
      exact ⟨[], rfl, rfl, rfl⟩
    · rintro ⟨head, rfl, rfl, hvalues⟩
      exact ⟨(List.map_eq_nil_iff.mp hvalues.symm).symm, rfl⟩
  | succ count ih =>
    constructor
    · intro h
      cases cs with
      | nil => cases h
      | cons c cs =>
        simp only [takeHex?] at h
        split at h
        · rename_i d ds' rest' hd htake
          obtain ⟨rfl, rfl⟩ := Prod.mk.inj (Option.some.inj h)
          obtain ⟨head, rfl, rfl, hvalues⟩ := ih.mp htake
          exact ⟨c :: head, rfl, rfl, by simp [hd, hvalues]⟩
        · cases h
    · rintro ⟨head, rfl, hlength, hvalues⟩
      cases head with
      | nil => cases hlength
      | cons c head =>
        cases ds with
        | nil => cases hvalues
        | cons d ds =>
          obtain ⟨hd, hds⟩ := List.cons.inj hvalues
          have htake := ih.mpr ⟨head, rfl, Nat.succ.inj hlength, hds⟩
          simp [takeHex?, hd, htake]

theorem readGroups?_eq_some_iff {sizes : List Nat} {cs : List Char} {ds : List Nat} :
    readGroups? sizes cs = some ds ↔
      ∃ groups, cs = join '-' groups ∧ groups.map List.length = sizes ∧
        groups.flatten.map hexValue? = ds.map some := by
  induction sizes generalizing cs ds with
  | nil =>
    simp only [readGroups?, Option.ite_none_right_eq_some, Option.some.injEq, List.map_eq_nil_iff]
    constructor
    · rintro ⟨rfl, rfl⟩
      exact ⟨[], rfl, rfl, rfl⟩
    · rintro ⟨groups, rfl, rfl, hvalues⟩
      exact ⟨rfl, (List.map_eq_nil_iff.mp hvalues.symm).symm⟩
  | cons size sizes ih =>
    cases sizes with
    | nil =>
      simp only [readGroups?]
      constructor
      · intro h
        split at h
        · rename_i ds' htake
          obtain rfl := Option.some.inj h
          obtain ⟨head, rfl, hlength, hvalues⟩ := takeHex?_eq_some_iff.mp htake
          exact ⟨[head], by simp [join], by simp [hlength], by simpa using hvalues⟩
        · cases h
      · rintro ⟨groups, rfl, hlengths, hvalues⟩
        obtain ⟨head, _, rfl, hlength, hnil⟩ := List.map_eq_cons_iff.mp hlengths
        obtain rfl := List.map_eq_nil_iff.mp hnil
        have hvalues : head.map hexValue? = ds.map some := by simpa using hvalues
        have htake : takeHex? size head = some (ds, []) :=
          takeHex?_eq_some_iff.mpr ⟨head, by simp, hlength, hvalues⟩
        simp [join, htake]
    | cons next sizes =>
      simp only [readGroups?]
      constructor
      · intro h
        split at h
        · rename_i ds' rest htake
          obtain ⟨ds'', hrest, rfl⟩ := Option.map_eq_some_iff.mp h
          obtain ⟨head, rfl, hlength, hvalues⟩ := takeHex?_eq_some_iff.mp htake
          obtain ⟨groups, rfl, hlengths, hvalues'⟩ := ih.mp hrest
          have hne : groups ≠ [] := fun hnil => by simp [hnil] at hlengths
          exact ⟨head :: groups, (Text.join_cons_of_ne_nil hne).symm, by simp [hlength, hlengths],
            by simp [hvalues, hvalues']⟩
        · cases h
      · rintro ⟨groups, rfl, hlengths, hvalues⟩
        obtain ⟨head, groups, rfl, hlength, hlengths⟩ := List.map_eq_cons_iff.mp hlengths
        have hne : groups ≠ [] := fun hnil => by simp [hnil] at hlengths
        -- The values fall into those of the first group and those of the others.
        rw [List.flatten_cons, List.map_append] at hvalues
        obtain ⟨ds', ds'', rfl, hhead, hgroups⟩ := List.append_eq_map_iff.mp hvalues
        have hrest := ih.mpr ⟨groups, rfl, hlengths, hgroups.symm⟩
        have htake : takeHex? size (join '-' (head :: groups)) =
            some (ds', '-' :: join '-' groups) :=
          takeHex?_eq_some_iff.mpr ⟨head, Text.join_cons_of_ne_nil hne, hlength, hhead.symm⟩
        simp [htake, hrest]

theorem takeHex?_lower (count : Nat) (cs : List Char) :
    takeHex? count (lower cs) = (takeHex? count cs).map fun (ds, rest) => (ds, lower rest) := by
  induction count generalizing cs with
  | zero => rfl
  | succ count ih =>
    cases cs with
    | nil => rfl
    | cons c cs =>
      have hstep := ih cs
      simp only [lower] at hstep
      simp only [lower, List.map_cons, takeHex?, hstep, Text.hexValue?_toLower]
      cases hexValue? c <;> cases takeHex? count cs <;> rfl

theorem readGroups?_lower (sizes : List Nat) (cs : List Char) :
    readGroups? sizes (lower cs) = readGroups? sizes cs := by
  induction sizes generalizing cs with
  | nil => simp [readGroups?, lower]
  | cons size sizes ih =>
    have htake := takeHex?_lower size cs
    cases sizes with
    | nil =>
      simp only [readGroups?, htake]
      rcases takeHex? size cs with _ | ⟨ds, _ | ⟨c, rest⟩⟩ <;> rfl
    | cons next sizes =>
      simp only [readGroups?, htake]
      rcases takeHex? size cs with _ | ⟨ds, _ | ⟨c, rest⟩⟩
      · rfl
      · rfl
      · by_cases hc : c = '-'
        · subst hc
          exact congrArg (Option.map (ds ++ ·)) (ih rest)
        · have hc' : c.toLower ≠ '-' := mt (Text.toLower_eq_iff (by decide)).mp hc
          simp [lower, hc, hc']

-- ---------------------------------------------------------------------------
-- Printing
-- ---------------------------------------------------------------------------

theorem group_flatten (groups : List (List Char)) :
    group (groups.map List.length) groups.flatten = join '-' groups := by
  induction groups with
  | nil => rfl
  | cons head groups ih =>
    cases groups with
    | nil => simp [group, join]
    | cons next groups =>
      rw [Text.join_cons_of_ne_nil (by simp), ← ih]
      simp [group]

def ofHexDigits (ds : List Nat) : Nat := ds.foldl (fun n d => n * 16 + d) 0

theorem ofHexDigits_concat (ds : List Nat) (d : Nat) :
    ofHexDigits (ds ++ [d]) = ofHexDigits ds * 16 + d := by
  simp [ofHexDigits]

theorem ofHexDigits_lt {ds : List Nat} (h : ∀ d ∈ ds, d < 16) :
    ofHexDigits ds < 16 ^ ds.length := by
  induction ds using List.reverseRecOn with
  | nil => decide
  | append_singleton ds d ih =>
    have hd : d < 16 := h d (by simp)
    have hds := ih fun x hx => h x (by simp [hx])
    rw [ofHexDigits_concat, List.length_append, List.length_singleton, Nat.pow_succ]
    omega

theorem hexDigits_ofHexDigits {ds : List Nat} (h : ∀ d ∈ ds, d < 16) :
    hexDigits ds.length (ofHexDigits ds) = ds.map hexDigit := by
  induction ds using List.reverseRecOn with
  | nil => rfl
  | append_singleton ds d ih =>
    have hd : d < 16 := h d (by simp)
    have hds := ih fun x hx => h x (by simp [hx])
    have hdiv : (ofHexDigits ds * 16 + d) / 16 = ofHexDigits ds := by omega
    have hmod : (ofHexDigits ds * 16 + d) % 16 = d := by omega
    rw [ofHexDigits_concat, List.length_append, List.length_singleton, hexDigits, hdiv, hmod, hds]
    simp

theorem simple_ofDigits {ds : List Nat} (hlength : ds.length = 32) (h : ∀ d ∈ ds, d < 16) :
    (ofDigits ds).simple = ds.map hexDigit := by
  have hlt : ofHexDigits ds < 2 ^ 128 := by
    have := ofHexDigits_lt h
    rwa [hlength] at this
  have hvalue : (ofDigits ds).value.toNat = ofHexDigits ds := by
    rw [ofDigits, BitVec.toNat_ofNat]
    exact Nat.mod_eq_of_lt hlt
  rw [simple, hvalue, ← hlength, hexDigits_ofHexDigits h]

-- ---------------------------------------------------------------------------
-- All digits in groups
-- ---------------------------------------------------------------------------

theorem exists_digits {count n : Nat} (h : n < 16 ^ count) :
    ∃ ds, ds.length = count ∧ (∀ d ∈ ds, d < 16) ∧ ofHexDigits ds = n := by
  induction count generalizing n with
  | zero => exact ⟨[], rfl, nofun, (Nat.lt_one_iff.mp h).symm⟩
  | succ count ih =>
    obtain ⟨ds, hlength, hlt, hvalue⟩ := @ih (n / 16) (by rw [Nat.pow_succ] at h; omega)
    refine ⟨ds ++ [n % 16], by simp [hlength], fun d hd => ?_, ?_⟩
    · rcases List.mem_append.mp hd with hd | hd
      · exact hlt d hd
      · obtain rfl := List.mem_singleton.mp hd
        omega
    · rw [ofHexDigits_concat, hvalue]
      omega

theorem exists_groups {sizes : List Nat} {cs : List Char} (h : cs.length = sizes.sum) :
    ∃ groups : List (List Char), groups.map List.length = sizes ∧ groups.flatten = cs := by
  induction sizes generalizing cs with
  | nil => exact ⟨[], rfl, (List.length_eq_zero_iff.mp h).symm⟩
  | cons size sizes ih =>
    rw [List.sum_cons] at h
    obtain ⟨groups, hlengths, hflat⟩ := @ih (cs.drop size) (by rw [List.length_drop]; omega)
    refine ⟨cs.take size :: groups, ?_, by rw [List.flatten_cons, hflat, List.take_append_drop]⟩
    rw [List.map_cons, hlengths, List.length_take, Nat.min_eq_left (by omega)]

section
variable {sizes : List Nat} (hsizes : sizes.sum = 32)
include hsizes

theorem group_of_readGroups? {cs : List Char} {ds : List Nat}
    (h : readGroups? sizes cs = some ds) : group sizes (ofDigits ds).simple = lower cs := by
  obtain ⟨groups, rfl, hlengths, hvalues⟩ := readGroups?_eq_some_iff.mp h
  have hsize : ds.length = 32 := by
    have hflat : groups.flatten.length = ds.length := by
      have := congrArg List.length hvalues
      rwa [List.length_map, List.length_map] at this
    rw [← hflat, List.length_flatten, hlengths, hsizes]
  have hlt : ∀ d ∈ ds, d < 16 := by
    intro d hd
    have hmem : some d ∈ groups.flatten.map hexValue? := hvalues ▸ List.mem_map_of_mem hd
    obtain ⟨c, -, hc⟩ := List.mem_map.mp hmem
    exact Text.hexValue?_lt hc
  have hlengths' : (groups.map lower).map List.length = sizes := by
    rw [← hlengths]
    simp [lower]
  calc group sizes (ofDigits ds).simple
      = group sizes (lower groups.flatten) := by
        rw [simple_ofDigits hsize hlt, Text.map_hexDigit_of_values hvalues]
    _ = group ((groups.map lower).map List.length) (groups.map lower).flatten := by
        rw [hlengths', lower, List.map_flatten]
        rfl
    _ = lower (join '-' groups) := by rw [group_flatten, Text.lower_join rfl]

theorem readGroups?_group (u : Uuid) :
    (readGroups? sizes (group sizes u.simple)).map ofDigits = some u := by
  obtain ⟨ds, hlength, hlt, hvalue⟩ := @exists_digits 32 u.value.toNat u.value.isLt
  have hdigits : ofDigits ds = u := by
    change (⟨BitVec.ofNat 128 (ofHexDigits ds)⟩ : Uuid) = u
    rw [hvalue, BitVec.ofNat_toNat, BitVec.setWidth_eq]
  obtain ⟨groups, hlengths, hflat⟩ : ∃ groups : List (List Char),
      groups.map List.length = sizes ∧ groups.flatten = ds.map hexDigit :=
    exists_groups (by rw [List.length_map, hlength, hsizes])
  have hprint : group sizes u.simple = join '-' groups := by
    rw [← hdigits, simple_ofDigits hlength hlt, ← hflat, ← hlengths, group_flatten]
  have hvalues : groups.flatten.map hexValue? = ds.map some := by
    rw [hflat, List.map_map]
    exact List.map_congr_left fun d hd => Text.hexValue?_hexDigit (hlt d hd)
  rw [hprint, readGroups?_eq_some_iff.mpr ⟨groups, rfl, hlengths, hvalues⟩, Option.map_some,
    hdigits]

/-- A UUID is read from its own digits in these groups, in either case, and from nothing else. -/
theorem map_ofDigits_eq_some_iff {cs : List Char} {u : Uuid} :
    (readGroups? sizes cs).map ofDigits = some u ↔ lower cs = group sizes u.simple := by
  constructor
  · intro h
    obtain ⟨ds, hread, rfl⟩ := Option.map_eq_some_iff.mp h
    exact (group_of_readGroups? hsizes hread).symm
  · intro h
    rw [← readGroups?_lower, h, readGroups?_group hsizes]

end

-- ---------------------------------------------------------------------------
-- The hyphenated form
-- ---------------------------------------------------------------------------

/-- The hyphenated form: 8, 4, 4, 4 and 12 hexadecimal digits with hyphens between them. -/
def IsHyphenated (cs : List Char) : Prop :=
  ∃ groups, cs = join '-' groups ∧ groups.map List.length = [8, 4, 4, 4, 12] ∧
    ∀ c ∈ groups.flatten, Text.IsHexDigit c

theorem isSome_ofHyphenated?_iff {cs : List Char} :
    (ofHyphenated? cs).isSome = true ↔ IsHyphenated cs := by
  simp only [ofHyphenated?, Option.isSome_map, Option.isSome_iff_exists, readGroups?_eq_some_iff]
  constructor
  · rintro ⟨ds, groups, rfl, hlengths, hvalues⟩
    exact ⟨groups, rfl, hlengths, Text.isHexDigit_of_values hvalues⟩
  · rintro ⟨groups, rfl, hlengths, hdigits⟩
    obtain ⟨ds, hvalues⟩ := Text.exists_values hdigits
    exact ⟨ds, groups, rfl, hlengths, hvalues⟩

theorem ofHyphenated?_eq_some_iff {cs : List Char} {u : Uuid} :
    ofHyphenated? cs = some u ↔ lower cs = u.hyphenated :=
  map_ofDigits_eq_some_iff rfl

theorem hyphenated_of_ofHyphenated? {cs : List Char} {u : Uuid} (h : ofHyphenated? cs = some u) :
    u.hyphenated = lower cs :=
  (ofHyphenated?_eq_some_iff.mp h).symm

theorem ofHyphenated?_hyphenated (u : Uuid) : ofHyphenated? u.hyphenated = some u :=
  readGroups?_group rfl u

theorem ofHyphenated?_congr {cs cs' : List Char} (h : lower cs = lower cs') :
    ofHyphenated? cs = ofHyphenated? cs' := by
  rw [ofHyphenated?, ← readGroups?_lower, h, readGroups?_lower, ← ofHyphenated?]

theorem IsHyphenated.length_eq {cs : List Char} (h : IsHyphenated cs) : cs.length = 36 := by
  obtain ⟨groups, rfl, hlengths, -⟩ := h
  cases groups with
  | nil => cases hlengths
  | cons head groups =>
    have hcount : groups.length = 4 := by
      have := congrArg List.length hlengths
      simpa using this
    rw [Text.length_join_cons, hlengths, hcount]
    rfl

theorem IsHyphenated.mem {cs : List Char} (h : IsHyphenated cs) {c : Char} (hc : c ∈ cs) :
    c = '-' ∨ Text.IsHexDigit c := by
  obtain ⟨groups, rfl, -, hdigits⟩ := h
  exact (Text.mem_join hc).imp_right (hdigits c)

theorem IsHyphenated.utf8ByteSize_eq {s : String} (h : IsHyphenated s.toList) :
    s.utf8ByteSize = ProviderId.textLength := by
  have hascii : ∀ c ∈ s.toList, c.toNat < 0x80 := by
    intro c hc
    rcases h.mem hc with rfl | hdigit
    · decide
    · exact Text.toNat_lt_of_isHexDigit hdigit
  rw [← String.ofList_toList (s := s), Text.utf8ByteSize_ofList hascii, h.length_eq]
  rfl

end Uuid

namespace ProviderId

theorem toOption_ofText (s : String) :
    (ofText s).toOption = (Uuid.ofHyphenated? s.toList).map (⟨·⟩) := by
  simp only [ofText]
  split
  · rename_i hsize
    cases hread : Uuid.ofHyphenated? s.toList with
    | none => rfl
    | some u =>
      have hsome : (Uuid.ofHyphenated? s.toList).isSome = true := by simp [hread]
      exact absurd (Uuid.isSome_ofHyphenated?_iff.mp hsome).utf8ByteSize_eq hsize
  · split
    · rename_i hread
      rw [hread]
      rfl
    · rename_i u hread
      rw [hread]
      rfl

end ProviderId

end AdminConsole
