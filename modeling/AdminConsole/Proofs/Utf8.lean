import AdminConsole.Utf8

/-!
# UTF-8 reads back what it writes

The bytes of a character are read as that character, whatever follows them. So the bytes of a text
are read as that text, and no character outside ASCII has a byte that stands for one inside.
-/

namespace AdminConsole.Utf8

@[simp] theorem encode_nil : encode [] = [] := rfl

theorem encode_append (cs ds : List Char) : encode (cs ++ ds) = encode cs ++ encode ds :=
  List.flatMap_append

theorem encode_cons (c : Char) (cs : List Char) :
    encode (c :: cs) = String.utf8EncodeChar c ++ encode cs := rfl

-- ---------------------------------------------------------------------------
-- One character
-- ---------------------------------------------------------------------------

theorem lead_ofNat {n : Nat} (h : n < 0x100) :
    Lead.ofByte? (UInt8.ofNat n) =
      if n < 0x80 then some ⟨n, 0, 0x80, 0xBF⟩
      else if n < 0xC2 then none
      else if n < 0xE0 then some ⟨n % 32, 1, 0x80, 0xBF⟩
      else if n = 0xE0 then some ⟨0, 2, 0xA0, 0xBF⟩
      else if n = 0xED then some ⟨0xD, 2, 0x80, 0x9F⟩
      else if n < 0xF0 then some ⟨n % 16, 2, 0x80, 0xBF⟩
      else if n = 0xF0 then some ⟨0, 3, 0x90, 0xBF⟩
      else if n < 0xF4 then some ⟨n % 8, 3, 0x80, 0xBF⟩
      else if n = 0xF4 then some ⟨4, 3, 0x80, 0x8F⟩
      else none := by
  have hn : (UInt8.ofNat n).toNat = n := UInt8.toNat_ofNat_of_lt' h
  have hlt (m : UInt8) : UInt8.ofNat n < m ↔ n < m.toNat := by
    rw [UInt8.lt_iff_toNat_lt, hn]
  have heq (m : UInt8) : UInt8.ofNat n = m ↔ n = m.toNat := by
    rw [← UInt8.toNat_inj, hn]
  simp only [Lead.ofByte?, hlt, heq, hn, UInt8.reduceToNat]

theorem utf8EncodeChar_eq (c : Char) :
    String.utf8EncodeChar c =
      if c.toNat < 0x80 then [UInt8.ofNat c.toNat]
      else if c.toNat < 0x800 then
        [UInt8.ofNat (c.toNat / 0x40 + 0xC0), UInt8.ofNat (c.toNat % 0x40 + 0x80)]
      else if c.toNat < 0x10000 then
        [UInt8.ofNat (c.toNat / 0x1000 + 0xE0), UInt8.ofNat (c.toNat / 0x40 % 0x40 + 0x80),
          UInt8.ofNat (c.toNat % 0x40 + 0x80)]
      else
        [UInt8.ofNat (c.toNat / 0x40000 + 0xF0), UInt8.ofNat (c.toNat / 0x1000 % 0x40 + 0x80),
          UInt8.ofNat (c.toNat / 0x40 % 0x40 + 0x80), UInt8.ofNat (c.toNat % 0x40 + 0x80)] := by
  have hvalid : c.toNat < 0xD800 ∨ 0xDFFF < c.toNat ∧ c.toNat < 0x110000 := c.valid
  have hval : c.val.toNat = c.toNat := rfl
  simp only [String.utf8EncodeChar, hval, ← Nat.lt_succ_iff]
  repeat' split
  · rfl
  · rw [Nat.mod_eq_of_lt (b := 32) (by omega)]
  · rw [Nat.mod_eq_of_lt (b := 16) (by omega)]
  · rw [Nat.mod_eq_of_lt (b := 8) (by omega)]

theorem next_of_lead {b low high : UInt8} {bits more : Nat}
    (h : Lead.ofByte? b = some ⟨bits, more, low, high⟩) (rest : List UInt8) :
    next b rest = complete bits more low high rest := by
  rw [next, h]

theorem complete_ofNat (bits more : Nat) {low high : UInt8} {n : Nat} (hn : n < 0x40)
    (hlow : low.toNat ≤ n + 0x80) (hhigh : n + 0x80 ≤ high.toNat) (rest : List UInt8) :
    complete bits (more + 1) low high (UInt8.ofNat (n + 0x80) :: rest) =
      complete (bits * 64 + n) more 0x80 0xBF rest := by
  have hto : (UInt8.ofNat (n + 0x80)).toNat = n + 0x80 :=
    UInt8.toNat_ofNat_of_lt' (Nat.lt_of_le_of_lt hhigh high.toNat_lt)
  simp only [complete, UInt8.le_iff_toNat_le, hto, hlow, hhigh, and_self, if_true]
  rw [show (n + 0x80) % 64 = n by omega]

theorem complete_tail (bits more : Nat) {n : Nat} (hn : n < 0x40) (rest : List UInt8) :
    complete bits (more + 1) 0x80 0xBF (UInt8.ofNat (n + 0x80) :: rest) =
      complete (bits * 64 + n) more 0x80 0xBF rest :=
  complete_ofNat bits more hn (by simp) (by simp; omega) rest

theorem complete_zero {bits n : Nat} (h : bits = n) (low high : UInt8) (rest : List UInt8) :
    complete bits 0 low high rest = (some (Char.ofNat n), rest) := by
  rw [complete, h]

section
variable {n : Nat} (rest : List UInt8)

theorem next_one (h : n < 0x80) :
    next (UInt8.ofNat n) rest = (some (Char.ofNat n), rest) := by
  have hlead : Lead.ofByte? (UInt8.ofNat n) = some ⟨n, 0, 0x80, 0xBF⟩ := by
    rw [lead_ofNat (by omega), if_pos h]
  rw [next_of_lead hlead, complete_zero rfl]

theorem next_two (hlow : 0x80 ≤ n) (hhigh : n < 0x800) :
    next (UInt8.ofNat (n / 0x40 + 0xC0)) (UInt8.ofNat (n % 0x40 + 0x80) :: rest) =
      (some (Char.ofNat n), rest) := by
  have hlead : Lead.ofByte? (UInt8.ofNat (n / 0x40 + 0xC0)) = some ⟨n / 0x40, 1, 0x80, 0xBF⟩ := by
    rw [lead_ofNat (by omega), if_neg (by omega), if_neg (by omega), if_pos (by omega)]
    rw [show (n / 0x40 + 0xC0) % 32 = n / 0x40 by omega]
  rw [next_of_lead hlead, complete_tail _ _ (by omega), complete_zero (n := n) (by omega)]

/-- In the first and the last row the second byte has bounds of its own: they exclude what two bytes
could hold, and the surrogates. -/
theorem next_three (hlow : 0x800 ≤ n) (hhigh : n < 0x10000) (hs : n < 0xD800 ∨ 0xDFFF < n) :
    next (UInt8.ofNat (n / 0x1000 + 0xE0))
        (UInt8.ofNat (n / 0x40 % 0x40 + 0x80) :: UInt8.ofNat (n % 0x40 + 0x80) :: rest) =
      (some (Char.ofNat n), rest) := by
  obtain ⟨low, high, hlead, hl, hh⟩ : ∃ low high : UInt8,
      Lead.ofByte? (UInt8.ofNat (n / 0x1000 + 0xE0)) = some ⟨n / 0x1000, 2, low, high⟩ ∧
        low.toNat ≤ n / 0x40 % 0x40 + 0x80 ∧ n / 0x40 % 0x40 + 0x80 ≤ high.toNat := by
    rw [lead_ofNat (by omega), if_neg (by omega), if_neg (by omega), if_neg (by omega)]
    by_cases hfirst : n / 0x1000 = 0
    · exact ⟨0xA0, 0xBF, by simp [hfirst], by simp; omega, by simp; omega⟩
    · by_cases hlast : n / 0x1000 = 0xD
      · exact ⟨0x80, 0x9F, by simp [hlast], by simp, by simp; omega⟩
      · rw [if_neg (by omega), if_neg (by omega), if_pos (by omega),
          show (n / 0x1000 + 0xE0) % 16 = n / 0x1000 by omega]
        exact ⟨0x80, 0xBF, rfl, by simp, by simp; omega⟩
  rw [next_of_lead hlead, complete_ofNat _ _ (by omega) hl hh, complete_tail _ _ (by omega),
    complete_zero (n := n) (by omega)]

theorem next_four (hlow : 0x10000 ≤ n) (hhigh : n < 0x110000) :
    next (UInt8.ofNat (n / 0x40000 + 0xF0))
        (UInt8.ofNat (n / 0x1000 % 0x40 + 0x80) :: UInt8.ofNat (n / 0x40 % 0x40 + 0x80) ::
          UInt8.ofNat (n % 0x40 + 0x80) :: rest) =
      (some (Char.ofNat n), rest) := by
  obtain ⟨low, high, hlead, hl, hh⟩ : ∃ low high : UInt8,
      Lead.ofByte? (UInt8.ofNat (n / 0x40000 + 0xF0)) = some ⟨n / 0x40000, 3, low, high⟩ ∧
        low.toNat ≤ n / 0x1000 % 0x40 + 0x80 ∧ n / 0x1000 % 0x40 + 0x80 ≤ high.toNat := by
    rw [lead_ofNat (by omega), if_neg (by omega), if_neg (by omega), if_neg (by omega),
      if_neg (by omega), if_neg (by omega), if_neg (by omega)]
    by_cases hfirst : n / 0x40000 = 0
    · exact ⟨0x90, 0xBF, by simp [hfirst], by simp; omega, by simp; omega⟩
    · by_cases hlast : n / 0x40000 = 4
      · exact ⟨0x80, 0x8F, by simp [hlast], by simp, by simp; omega⟩
      · rw [if_neg (by omega), if_pos (by omega),
          show (n / 0x40000 + 0xF0) % 8 = n / 0x40000 by omega]
        exact ⟨0x80, 0xBF, rfl, by simp, by simp; omega⟩
  rw [next_of_lead hlead, complete_ofNat _ _ (by omega) hl hh, complete_tail _ _ (by omega),
    complete_tail _ _ (by omega), complete_zero (n := n) (by omega)]

end

/-- A character is read off the bytes written for it, whatever follows them. -/
theorem next_utf8EncodeChar (c : Char) (rest : List UInt8) :
    ∃ b more, String.utf8EncodeChar c = b :: more ∧ next b (more ++ rest) = (some c, rest) := by
  have hvalid : c.toNat < 0xD800 ∨ 0xDFFF < c.toNat ∧ c.toNat < 0x110000 := c.valid
  have hread (b : UInt8) (more : List UInt8)
      (h : next b (more ++ rest) = (some (Char.ofNat c.toNat), rest)) :
      next b (more ++ rest) = (some c, rest) := by rwa [Char.ofNat_toNat] at h
  rw [utf8EncodeChar_eq]
  split
  · exact ⟨_, _, rfl, hread _ _ (next_one rest ‹_›)⟩
  · split
    · exact ⟨_, _, rfl, hread _ _ (next_two rest (by omega) ‹_›)⟩
    · split
      · exact ⟨_, _, rfl, hread _ _ (next_three rest (by omega) ‹_› (by omega))⟩
      · exact ⟨_, _, rfl, hread _ _ (next_four rest (by omega) (by omega))⟩

-- ---------------------------------------------------------------------------
-- Texts
-- ---------------------------------------------------------------------------

theorem steps_encode (cs : List Char) : steps (encode cs) = cs.map some := by
  induction cs with
  | nil => simp [steps]
  | cons c cs ih =>
    obtain ⟨b, more, hc, hnext⟩ := next_utf8EncodeChar c (encode cs)
    rw [encode_cons, hc, List.cons_append, steps, hnext, ih, List.map_cons]

theorem decode?_encode (cs : List Char) : decode? (encode cs) = some cs := by
  rw [decode?, steps_encode, List.mapM_map]
  exact (List.mapM_pure (m := Option) (f := id)).trans (congrArg some (List.map_id cs))

theorem decodeLossy_encode (cs : List Char) : decodeLossy (encode cs) = cs := by
  rw [decodeLossy, steps_encode, List.map_map]
  exact List.map_id cs

theorem utf8EncodeChar_of_lt {c : Char} (h : c.toNat < 0x80) :
    String.utf8EncodeChar c = [UInt8.ofNat c.toNat] := by
  rw [utf8EncodeChar_eq, if_pos h]

theorem le_of_mem_utf8EncodeChar {c : Char} (h : 0x80 ≤ c.toNat) :
    ∀ b ∈ String.utf8EncodeChar c, 0x80 ≤ b.toNat := by
  have hvalid : c.toNat < 0xD800 ∨ 0xDFFF < c.toNat ∧ c.toNat < 0x110000 := c.valid
  have hto {n : Nat} (hlow : 0x80 ≤ n) (hn : n < 0x100) : 0x80 ≤ (UInt8.ofNat n).toNat := by
    rwa [UInt8.toNat_ofNat_of_lt' hn]
  rw [utf8EncodeChar_eq, if_neg (by omega)]
  repeat' split
  all_goals
    simp only [List.forall_mem_cons]
    refine ⟨hto (by omega) (by omega), hto (by omega) (by omega), ?_⟩
  · simp
  · exact ⟨hto (by omega) (by omega), by simp⟩
  · exact ⟨hto (by omega) (by omega), hto (by omega) (by omega), by simp⟩

end AdminConsole.Utf8
