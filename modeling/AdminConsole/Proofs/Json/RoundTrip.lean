import AdminConsole.Proofs.Json.Record
import AdminConsole.Proofs.Utf8
import Mathlib.Data.List.Nodup

/-!
# What is written is read back

The text that a codec writes for a value is one JSON value, and it reads as the value it was written
for. For strings that is shown character by character, for lists element by element, and for records
field by field: what is read must lead from the blank record to the one that was written.
-/

namespace AdminConsole.Json

-- ---------------------------------------------------------------------------
-- Characters
-- ---------------------------------------------------------------------------

theorem encode_ascii {c : Char} (h : c.toNat < 0x80) (cs : List Char) :
    Utf8.encode (c :: cs) = ascii c :: Utf8.encode cs := by
  rw [Utf8.encode_cons, Utf8.utf8EncodeChar_of_lt h]
  rfl

theorem toNat_ascii {c : Char} (h : c.toNat < 0x80) : (ascii c).toNat = c.toNat :=
  UInt8.toNat_ofNat_of_lt' (Nat.lt_trans h (by decide))

theorem ascii_inj {c d : Char} (hc : c.toNat < 0x80) (hd : d.toNat < 0x80)
    (h : ascii c = ascii d) : c = d := by
  rw [← UInt8.toNat_inj, toNat_ascii hc, toNat_ascii hd] at h
  exact Char.toNat_inj.mp h

/-- A character that is not escaped has no byte that ends a string, starts an escape or is refused
in a string. -/
theorem plain_of_mem_utf8EncodeChar {c : Char} (hprint : 0x20 ≤ c.toNat) (hquote : c ≠ '"')
    (hescape : c ≠ '\\') :
    ∀ b ∈ String.utf8EncodeChar c, 0x20 ≤ b ∧ b ≠ ascii '"' ∧ b ≠ ascii '\\' := by
  rcases Nat.lt_or_ge c.toNat 0x80 with hlt | hge
  · rw [Utf8.utf8EncodeChar_of_lt hlt, List.forall_mem_singleton]
    refine ⟨UInt8.le_iff_toNat_le.mpr ?_, fun heq => hquote (ascii_inj hlt (by decide) heq),
      fun heq => hescape (ascii_inj hlt (by decide) heq)⟩
    exact (toNat_ascii hlt).symm ▸ hprint
  · intro b hb
    have hb := Utf8.le_of_mem_utf8EncodeChar hge b hb
    refine ⟨UInt8.le_iff_toNat_le.mpr (Nat.le_trans (by decide) hb), ?_, ?_⟩
    · rintro rfl
      exact absurd hb (by decide)
    · rintro rfl
      exact absurd hb (by decide)

theorem quoted_plains {bytes rest rest' out : List UInt8}
    (h : ∀ b ∈ bytes, 0x20 ≤ b ∧ b ≠ ascii '"' ∧ b ≠ ascii '\\')
    (hrest : quoted rest = .ok (out, rest')) :
    quoted (bytes ++ rest) = .ok (bytes ++ out, rest') := by
  induction bytes with
  | nil => exact hrest
  | cons b bytes ih =>
    obtain ⟨⟨hprint, hquote, hescape⟩, hbytes⟩ := List.forall_mem_cons.mp h
    exact quoted_plain _ hprint hquote hescape (ih hbytes)

theorem hexByte?_hexDigit {n : Nat} (h : n < 16) :
    hexByte? (ascii (Text.hexDigit n)) = some n :=
  (by decide : ∀ n < 16, hexByte? (ascii (Text.hexDigit n)) = some n) n h

theorem hexDigit_lt {n : Nat} (h : n < 16) : (Text.hexDigit n).toNat < 0x80 :=
  (by decide : ∀ n < 16, (Text.hexDigit n).toNat < 0x80) n h

theorem escape_control {c : Char} (h : c.toNat < 0x20) (rest : List UInt8) :
    escape (Utf8.encode
        ['u', '0', '0', Text.hexDigit (c.toNat / 16), Text.hexDigit (c.toNat % 16)] ++ rest) =
      .ok (String.utf8EncodeChar c, rest) := by
  have hhigh : c.toNat / 16 < 16 := by omega
  have hlow : c.toNat % 16 < 16 := by omega
  have hzero : hexByte? (ascii '0') = some 0 := by decide
  have hcode : ((0 * 16 + 0) * 16 + c.toNat / 16) * 16 + c.toNat % 16 = c.toNat := by omega
  have hhex : hex4 (ascii '0' :: ascii '0' :: ascii (Text.hexDigit (c.toNat / 16)) ::
      ascii (Text.hexDigit (c.toNat % 16)) :: rest) = .ok (c.toNat, rest) := by
    simp only [hex4, hzero, hexByte?_hexDigit hhigh, hexByte?_hexDigit hlow, hcode]
  rw [encode_ascii (by decide), encode_ascii (by decide), encode_ascii (by decide),
    encode_ascii (hexDigit_lt hhigh), encode_ascii (hexDigit_lt hlow)]
  simp only [Utf8.encode_nil, List.cons_append, List.nil_append, escape,
    (by decide : shortEscape? (ascii 'u') = none), if_true, unicodeEscape, hhex]
  rw [if_neg (by omega), if_pos (by omega), Char.ofNat_toNat, Utf8.encode_cons, Utf8.encode_nil,
    List.append_nil]

theorem escape_short {letter c : Char}
    (h : letter.toNat < 0x80 ∧ c.toNat < 0x80 ∧ shortEscape? (ascii letter) = some (ascii c))
    (rest : List UInt8) :
    escape (Utf8.encode [letter] ++ rest) = .ok (String.utf8EncodeChar c, rest) := by
  obtain ⟨hletter, hc, hshort⟩ := h
  rw [encode_ascii hletter, Utf8.utf8EncodeChar_of_lt hc]
  simp only [Utf8.encode_nil, List.cons_append, List.nil_append, escape, hshort]
  rfl

theorem quoted_escapeChar (c : Char) {rest rest' out : List UInt8}
    (h : quoted rest = .ok (out, rest')) :
    quoted (Utf8.encode (escapeChar c) ++ rest) = .ok (String.utf8EncodeChar c ++ out, rest') := by
  have hescaped {used : List Char}
      (hused : escape (Utf8.encode used ++ rest) = .ok (String.utf8EncodeChar c, rest)) :
      quoted (Utf8.encode ('\\' :: used) ++ rest) =
        .ok (String.utf8EncodeChar c ++ out, rest') := by
    rw [encode_ascii (by decide), List.cons_append]
    exact quoted_escape _ hused h
  have hcode {n : Nat} (hc : c.toNat = n) : c = Char.ofNat n := by rw [← hc, Char.ofNat_toNat]
  -- One case for each row of the escape table, then the other controls, then what is kept.
  rw [escapeChar]
  split
  · rename_i hc; subst hc
    exact hescaped (escape_short (by decide) rest)
  split
  · rename_i hc; subst hc
    exact hescaped (escape_short (by decide) rest)
  split
  · rename_i hc; subst hc
    exact hescaped (escape_short (by decide) rest)
  split
  · rename_i hc; subst hc
    exact hescaped (escape_short (by decide) rest)
  split
  · rename_i hc; subst hc
    exact hescaped (escape_short (by decide) rest)
  split
  · rename_i hc
    obtain rfl := hcode hc
    exact hescaped (escape_short (by decide) rest)
  split
  · rename_i hc
    obtain rfl := hcode hc
    exact hescaped (escape_short (by decide) rest)
  split
  · rename_i hc
    exact hescaped (escape_control hc rest)
  · rename_i hquote hescape _ _ _ _ _ hprint
    rw [Utf8.encode_cons, Utf8.encode_nil, List.append_nil]
    exact quoted_plains (plain_of_mem_utf8EncodeChar (by omega) hquote hescape) h

-- ---------------------------------------------------------------------------
-- Strings
-- ---------------------------------------------------------------------------

def written (cs : List Char) : List UInt8 := Utf8.encode (cs.flatMap escapeChar)

theorem quoted_written (cs : List Char) (more : List UInt8) :
    quoted (written cs ++ ascii '"' :: more) = .ok (Utf8.encode cs, more) := by
  induction cs with
  | nil => exact quoted_quote more
  | cons c cs ih =>
    have hsplit : written (c :: cs) = Utf8.encode (escapeChar c) ++ written cs := by
      rw [written, List.flatMap_cons, Utf8.encode_append]
      rfl
    rw [hsplit, List.append_assoc, Utf8.encode_cons]
    exact quoted_escapeChar c ih

theorem string_written (cs : List Char) (more : List UInt8) :
    string (written cs ++ ascii '"' :: more) = .ok (cs, more) := by
  simp only [string, quoted_written, Utf8.decode?_encode]

-- That this is the inside of a string need not be shown again: the reader took it for one.
theorem isBody_written (cs : List Char) : IsBody (written cs) := by
  obtain ⟨body, hbody, heq, -⟩ := string_eq_ok (string_written cs [])
  exact List.append_cancel_right heq ▸ hbody

theorem bodyText?_written (cs : List Char) : bodyText? (written cs) = some cs :=
  ((string_eq_ok_iff (isBody_written cs)).mp (string_written cs [])).2

theorem encode_quote (cs : List Char) : Utf8.encode (quote cs) = quotedText (written cs) := by
  rw [quote, List.cons_append, encode_ascii (by decide), Utf8.encode_append, quotedText,
    encode_ascii (by decide), Utf8.encode_nil, List.cons_append]
  rfl

-- ---------------------------------------------------------------------------
-- Values
-- ---------------------------------------------------------------------------

section
variable {α β : Type} {c : Codec α}

def Codec.bytes (c : Codec α) (a : α) : List UInt8 := Utf8.encode (c.write a)

/-- What is written for a value is a value, and it is read as that value. -/
structure Codec.Carries (c : Codec α) (a : α) : Prop where
  isValue : IsValue (c.bytes a)
  reads : c.read (c.bytes a) = .ok (a, [])

theorem Codec.Carries.decode_encode {a : α} (h : c.Carries a) :
    c.decode (Utf8.encode (c.encode a).toList) = .ok a := by
  have hbytes : Utf8.encode (c.encode a).toList = c.bytes a := by
    rw [Codec.encode, String.toList_ofList]
    rfl
  rw [hbytes, Codec.decode, h.reads]
  rfl

namespace Codec

theorem text_carries (s : String) : text.Carries s := by
  have hbytes : text.bytes s = quotedText (written s.toList) := encode_quote s.toList
  refine ⟨hbytes ▸ .scalar (.string (isBody_written _)), ?_⟩
  have hread : readText "a string" (quotedText (written s.toList)) = .ok (s.toList, []) := by
    rw [quotedText, List.cons_append, readText, skipBlank_cons (by decide)]
    exact (if_pos rfl).trans (string_written _ [])
  rw [hbytes]
  exact map_eq_ok_iff.mpr ⟨_, hread, String.ofList_toList⟩

theorem bool_carries (b : Bool) : bool.Carries b := by
  cases b with
  | true => exact ⟨.scalar (@IsScalar.word "true".toList (by decide)), rfl⟩
  | false => exact ⟨.scalar (@IsScalar.word "false".toList (by decide)), rfl⟩

theorem iso_carries {pack : α → β} {unpack : β → α} {b : β} (h : c.Carries (unpack b))
    (hpack : pack (unpack b) = b) : (c.iso pack unpack).Carries b :=
  ⟨h.isValue, map_eq_ok_iff.mpr ⟨_, h.reads, hpack⟩⟩

theorem refine_carries {pack : α → Except String β} {unpack : β → α} {b : β}
    (h : c.Carries (unpack b)) (hpack : pack (unpack b) = .ok b) :
    (c.refine pack unpack).Carries b := by
  have hread : c.read ((c.refine pack unpack).bytes b) = .ok (unpack b, []) := h.reads
  refine ⟨h.isValue, ?_⟩
  generalize (c.refine pack unpack).bytes b = bs at hread ⊢
  simp only [refine, hread, hpack]

theorem orNull_carries {absent : β} {pack : α → β} {unpack : β → α} {b : β}
    (h : c.Carries (unpack b)) (hpack : pack (unpack b) = b)
    (hnull : (c.bytes (unpack b)).head? ≠ some (ascii 'n')) :
    (c.orNull absent pack unpack).Carries b := by
  have hiso : (c.iso pack unpack).Carries b := iso_carries h hpack
  exact ⟨h.isValue, (readOrNull_alone absent h.isValue hnull).trans hiso.reads⟩

end Codec

end

-- ---------------------------------------------------------------------------
-- Brackets
-- ---------------------------------------------------------------------------

theorem flatten_separated (close : UInt8) (items : List (List (List UInt8))) :
    (separated close false items).flatten =
      (items.flatMap fun item => ascii ',' :: item.flatten) ++ [close] := by
  induction items with
  | nil => rfl
  | cons item items ih => simp [separated, comma, ih]

theorem encode_bracket {opening closing : Char} (hopening : opening.toNat < 0x80)
    (hclosing : closing.toNat < 0x80) {items : List (List Char)}
    {tokens : List (List (List UInt8))} (h : items.map Utf8.encode = tokens.map List.flatten) :
    Utf8.encode (bracket opening closing items) =
      ascii opening :: (separated (ascii closing) true tokens).flatten := by
  have hmore (items : List (List Char)) :
      Utf8.encode (items.flatMap (',' :: ·)) =
        (items.map Utf8.encode).flatMap (ascii ',' :: ·) := by
    induction items with
    | nil => rfl
    | cons item items ih =>
      rw [List.flatMap_cons, List.map_cons, List.flatMap_cons, Utf8.encode_append,
        encode_ascii (by decide), ih]
  have hlast : Utf8.encode [closing] = [ascii closing] := encode_ascii hclosing []
  rw [bracket, List.cons_append, encode_ascii hopening, Utf8.encode_append, hlast]
  congr 1
  cases items with
  | nil =>
    obtain rfl := List.map_eq_nil_iff.mp h.symm
    rfl
  | cons item items =>
    obtain ⟨token, tokens, rfl, hitem, hitems⟩ := List.map_eq_cons_iff.mp h.symm
    rw [Text.join, Utf8.encode_append, hmore, ← hitem, ← hitems, separated, List.flatten_append,
      List.flatten_append, flatten_separated, List.flatMap_map]
    simp [comma]

-- ---------------------------------------------------------------------------
-- Lists
-- ---------------------------------------------------------------------------

theorem Codec.list_carries {α : Type} {c : Codec α} (hc : Regular c.read) {as : List α}
    (h : ∀ a ∈ as, c.Carries a) : c.list.Carries as := by
  have hbytes : c.list.bytes as =
      ascii '[' :: (separated (ascii ']') true ((as.map c.bytes).map ([·]))).flatten := by
    refine encode_bracket (by decide) (by decide) ?_
    simp only [List.map_map]
    exact List.map_congr_left fun a _ => (List.append_nil _).symm
  have hvalues : ∀ e ∈ as.map c.bytes, IsValue e := by
    rintro _ he
    obtain ⟨a, ha, rfl⟩ := List.mem_map.mp he
    exact (h a ha).isValue
  have hspaced := spaced_flatten (separated (ascii ']') true ((as.map c.bytes).map ([·])))
  refine ⟨hbytes ▸ .list hvalues hspaced, ?_⟩
  rw [hbytes, list_read_iff hc hvalues hspaced, List.map_map]
  exact List.map_congr_left fun a ha => (h a ha).reads

-- ---------------------------------------------------------------------------
-- Records
-- ---------------------------------------------------------------------------

section
variable {ρ : Type}

/-- What is written for the field of `r` leads from the record `v` to `v'` when it is read. A field
that is left out leads nowhere. -/
def Field.Copies (f : Field ρ) (r v v' : ρ) : Prop :=
  match f.write? r with
  | none => v = v'
  | some text => IsValue (Utf8.encode text) ∧ f.read v (Utf8.encode text) = .ok (v', [])

inductive Copies (r : ρ) : List (Field ρ) → ρ → ρ → Prop
  | nil (v : ρ) : Copies r [] v v
  | cons {f : Field ρ} {fs : List (Field ρ)} {v v' v'' : ρ} :
      f.Copies r v v' → Copies r fs v' v'' → Copies r (f :: fs) v v''

theorem Field.omitting_copies {α : Type} {c : Codec α} {isOmitted : α → Bool} {get : ρ → α} {r : ρ}
    (h : isOmitted (get r) = false → c.Carries (get r)) (key : String) (set : α → ρ → ρ) (v : ρ) :
    (Field.omitting isOmitted key c get set).Copies r v
      (if isOmitted (get r) then v else set (get r) v) := by
  rw [Field.Copies]
  cases homit : isOmitted (get r) with
  | true => simp [Field.omitting, homit]
  | false =>
    have hcarries := h homit
    simp only [Field.omitting, homit, Bool.false_eq_true, if_false]
    exact ⟨hcarries.isValue, (map_eq_ok_iff (f := (set · v))).mpr ⟨_, hcarries.reads, rfl⟩⟩

theorem Copies.of {α : Type} {c : Codec α} {key : String} {get : ρ → α} {set : α → ρ → ρ}
    {fs : List (Field ρ)} {r v v' : ρ} (h : c.Carries (get r))
    (hfs : Copies r fs (set (get r) v) v') : Copies r (Field.of key c get set :: fs) v v' :=
  .cons (@Field.omitting_copies _ _ _ (fun _ => false) _ _ (fun _ => h) key set v) hfs

def Field.member? (f : Field ρ) (r : ρ) : Option Member :=
  (f.write? r).map fun text => ⟨written f.key.toList, Utf8.encode text⟩

namespace Shape

variable {s : Shape ρ}

def members (s : Shape ρ) (r : ρ) : List Member := s.fields.filterMap (·.member? r)

theorem foldlM_members (hs : s.Lawful) {r v v' : ρ} {fs : List (Field ρ)}
    (hfs : ∀ f ∈ fs, f ∈ s.fields) (h : Copies r fs v v') :
    (fs.filterMap (·.member? r)).foldlM s.take? v = some v' := by
  induction h with
  | nil => rfl
  | @cons f fs v v' v'' hf _ ih =>
    obtain ⟨hmem, hfs⟩ := List.forall_mem_cons.mp hfs
    rw [Field.Copies] at hf
    rw [List.filterMap_cons, Field.member?]
    cases htext : f.write? r with
    | none =>
      rw [htext] at hf
      exact hf ▸ ih hfs
    | some text =>
      rw [htext] at hf
      have htake : s.take? v ⟨written f.key.toList, Utf8.encode text⟩ = some v' := by
        simp only [take?, bodyText?_written, hs.find?_key hmem]
        exact Field.take?_eq_some_iff.mpr hf.2
      exact Option.bind_eq_some_iff.mpr ⟨v', htake, ih hfs⟩

theorem names_members (r : ρ) :
    (s.members r).filterMap (bodyText? ·.key) =
      (s.fields.filter fun f => (f.write? r).isSome).map (·.key.toList) := by
  rw [members, List.filterMap_filterMap, ← List.filterMap_eq_filter, List.map_filterMap]
  refine List.filterMap_congr fun f _ => ?_
  cases htext : f.write? r with
  | none => simp [Field.member?, Option.guard, htext]
  | some text => simp [Field.member?, Option.guard, htext, bodyText?_written]

theorem isValue_members {r v v' : ρ} {fs : List (Field ρ)} (h : Copies r fs v v') :
    ∀ m ∈ fs.filterMap (·.member? r), IsBody m.key ∧ IsValue m.value := by
  induction h with
  | nil => nofun
  | @cons f fs v v' v'' hf _ ih =>
    rw [Field.Copies] at hf
    rw [List.filterMap_cons, Field.member?]
    cases htext : f.write? r with
    | none => exact ih
    | some text =>
      rw [htext] at hf
      exact List.forall_mem_cons.mpr ⟨⟨isBody_written _, hf.1⟩, ih⟩

theorem fills_members (hs : s.Lawful) {r : ρ} (h : Copies r s.fields s.blank r)
    (hwritten : s.isLenient = true ∨ ∀ f ∈ s.fields, (f.write? r).isSome) :
    s.Fills (s.members r) r := by
  have hnodup : (s.fields.map (·.key.toList)).Nodup := by
    have hmap := hs.keys.map fun _ _ => String.toList_inj.mp
    rwa [List.map_map] at hmap
  refine ⟨⟨foldlM_members hs (fun _ hf => hf) h, ?_, nofun⟩, ?_⟩
  · rw [knownNames, names_members]
    exact (hnodup.sublist (List.filter_sublist.map _)).sublist List.filter_sublist
  · rw [names_members, missing?]
    split
    · rfl
    · rename_i hstrict
      have hall := hwritten.resolve_left hstrict
      rw [List.filter_eq_self.mpr hall, List.find?_eq_none.mpr, Option.map_none]
      intro f hf
      simpa using ⟨f, hf, rfl⟩

theorem codec_carries (hs : s.Lawful) {r : ρ} (h : Copies r s.fields s.blank r)
    (hwritten : s.isLenient = true ∨ ∀ f ∈ s.fields, (f.write? r).isSome) :
    s.codec.Carries r := by
  have hbytes : s.codec.bytes r = ascii '\x7b' ::
      (separated (ascii '\x7d') true ((s.members r).map Member.tokens)).flatten := by
    refine encode_bracket (by decide) (by decide) ?_
    simp only [members, List.map_filterMap]
    refine List.filterMap_congr fun f _ => ?_
    cases htext : f.write? r with
    | none => simp [Field.member?, htext]
    | some text =>
      simp [Field.member?, htext, Utf8.encode_append, encode_quote, Member.tokens,
        encode_ascii (show ':'.toNat < 0x80 by decide)]
  have hmembers := isValue_members h
  have hbodies : ∀ m ∈ s.members r, IsBody m.key := fun m hm => (hmembers m hm).1
  have hvalues : ∀ m ∈ s.members r, IsValue m.value := fun m hm => (hmembers m hm).2
  have hspaced := spaced_flatten (separated (ascii '\x7d') true ((s.members r).map Member.tokens))
  have hread := (@read_object_iff _ _ hs.reads _ [] _ [] [] r hbodies hvalues hspaced Blank.nil).mpr
    ⟨rfl, fills_members hs h hwritten⟩
  rw [List.nil_append, List.append_nil] at hread
  exact ⟨hbytes ▸ .object hbodies hvalues hspaced, hbytes ▸ hread⟩

end Shape

end

end AdminConsole.Json
