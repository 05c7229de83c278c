import AdminConsole.Percent
import AdminConsole.Proofs.Utf8

/-!
# Escapes stand for what was escaped

If the percent sign itself is escaped, the escaped form of a text stands for that text: reading the
escapes gives back its bytes.
-/

namespace AdminConsole.Percent

theorem hexDigitUpper_lt {n : Nat} (h : n < 16) : (Text.hexDigitUpper n).toNat < 0x80 :=
  (by decide : ∀ n < 16, (Text.hexDigitUpper n).toNat < 0x80) n h

theorem hexValue?_byte {n : Nat} (h : n < 16) :
    Text.hexValue? (Char.ofNat (UInt8.ofNat (Text.hexDigitUpper n).toNat).toNat) = some n := by
  have hlt := hexDigitUpper_lt h
  rw [UInt8.toNat_ofNat_of_lt' (Nat.lt_trans hlt (by decide)), Char.ofNat_toNat,
    Text.hexValue?_hexDigitUpper h]

theorem decode_cons_of_ne {b : UInt8} (h : b ≠ 0x25) (rest : List UInt8) :
    decode (b :: rest) = b :: decode rest := by
  rw [decode]
  intro _ _ _ hb
  exact absurd hb h

theorem decode_append_of_ne {bs : List UInt8} (h : ∀ b ∈ bs, b ≠ 0x25) (rest : List UInt8) :
    decode (bs ++ rest) = bs ++ decode rest := by
  induction bs with
  | nil => rfl
  | cons b bs ih =>
    rw [List.forall_mem_cons] at h
    rw [List.cons_append, decode_cons_of_ne h.1, ih h.2, List.cons_append]

theorem decode_encodeByte (b : UInt8) (rest : List UInt8) :
    decode (Utf8.encode (encodeByte b) ++ rest) = b :: decode rest := by
  have hhigh : b.toNat / 16 < 16 := by have := b.toNat_lt; omega
  have hlow : b.toNat % 16 < 16 := by omega
  simp only [encodeByte, Utf8.encode_cons, Utf8.encode_nil, List.append_nil,
    Utf8.utf8EncodeChar_of_lt (hexDigitUpper_lt hhigh),
    Utf8.utf8EncodeChar_of_lt (hexDigitUpper_lt hlow),
    Utf8.utf8EncodeChar_of_lt (show '%'.toNat < 0x80 by decide), List.cons_append,
    List.nil_append]
  rw [show UInt8.ofNat '%'.toNat = 0x25 from rfl, decode]
  simp only [hexValue?_byte hhigh, hexValue?_byte hlow]
  rw [show b.toNat / 16 * 16 + b.toNat % 16 = b.toNat by omega, UInt8.ofNat_toNat]

theorem decode_encodeBytes (bs rest : List UInt8) :
    decode (Utf8.encode (bs.flatMap encodeByte) ++ rest) = bs ++ decode rest := by
  induction bs with
  | nil => rfl
  | cons b bs ih =>
    rw [List.flatMap_cons, Utf8.encode_append, List.append_assoc, decode_encodeByte, ih,
      List.cons_append]

theorem ne_of_mem_utf8EncodeChar {c : Char} (h : c ≠ '%') :
    ∀ b ∈ String.utf8EncodeChar c, b ≠ 0x25 := by
  rcases Nat.lt_or_ge c.toNat 0x80 with hlt | hge
  · rw [Utf8.utf8EncodeChar_of_lt hlt, List.forall_mem_singleton]
    intro heq
    have hto := congrArg UInt8.toNat heq
    rw [UInt8.toNat_ofNat_of_lt' (Nat.lt_trans hlt (by decide))] at hto
    exact h (Char.toNat_inj.mp hto)
  · rintro b hb rfl
    exact absurd (Utf8.le_of_mem_utf8EncodeChar hge _ hb) (by decide)

/-- The escaped form of a text is read as the bytes of the text. -/
theorem decode_encode {set : Char → Bool} (h : set '%' = true) (cs : List Char) :
    decode (Utf8.encode (encode set cs)) = Utf8.encode cs := by
  induction cs with
  | nil => simp [encode, decode]
  | cons c cs ih =>
    have hsplit : encode set (c :: cs) =
        (if set c then (Utf8.encode [c]).flatMap encodeByte else [c]) ++ encode set cs := by
      simp [encode]
    rw [hsplit, Utf8.encode_append, Utf8.encode_cons c cs]
    split
    · rw [decode_encodeBytes, ih, Utf8.encode_cons, Utf8.encode_nil, List.append_nil]
    · rename_i hc
      have hne : c ≠ '%' := fun heq => hc (heq ▸ h)
      rw [Utf8.encode_cons, Utf8.encode_nil, List.append_nil,
        decode_append_of_ne (ne_of_mem_utf8EncodeChar hne), ih]

theorem mem_encode {set : Char → Bool} {cs : List Char} {c : Char} (h : c ∈ encode set cs) :
    c = '%' ∨ (∃ n < 16, c = Text.hexDigitUpper n) ∨ set c = false := by
  obtain ⟨source, -, hc⟩ := List.mem_flatMap.mp h
  split at hc
  · obtain ⟨b, -, hb⟩ := List.mem_flatMap.mp hc
    have := b.toNat_lt
    simp only [encodeByte, List.mem_cons, List.not_mem_nil, or_false] at hb
    rcases hb with rfl | rfl | rfl
    · exact .inl rfl
    · exact .inr (.inl ⟨_, by omega, rfl⟩)
    · exact .inr (.inl ⟨_, by omega, rfl⟩)
  · obtain rfl := List.mem_singleton.mp hc
    exact .inr (.inr (by simp_all))

theorem encode_eq_nil_iff {set : Char → Bool} {cs : List Char} : encode set cs = [] ↔ cs = [] := by
  refine ⟨fun h => ?_, by rintro rfl; rfl⟩
  cases cs with
  | nil => rfl
  | cons c cs =>
    have hsize := c.utf8Size_pos
    have hbytes : Utf8.encode [c] ≠ [] := by
      intro hnil
      rw [Utf8.encode, List.flatMap_singleton] at hnil
      have := congrArg List.length hnil
      rw [String.length_utf8EncodeChar, List.length_nil] at this
      omega
    rw [encode, List.flatMap_cons, List.append_eq_nil_iff] at h
    obtain ⟨byte, bytes, hcons⟩ := List.exists_cons_of_ne_nil hbytes
    have hfirst := h.1
    split at hfirst
    · simp [hcons, encodeByte] at hfirst
    · cases hfirst

end AdminConsole.Percent
