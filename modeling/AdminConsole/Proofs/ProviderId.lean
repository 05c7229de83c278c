import AdminConsole.Proofs.Json.Lenient
import AdminConsole.Proofs.Uuid
import AdminConsole.Proofs.Wire.RoundTrip

/-!
# Two ways to read a provider id

In an address a provider id has the hyphenated form and no other; in a body any form of a UUID is
taken. Both ways give the same id where both give one, and an id that came in any form goes out in
the hyphenated one.
-/

namespace AdminConsole

open Json (Codec)
open Text (lower)

namespace Uuid

variable {cs rest : List Char} {u : Uuid}

-- ---------------------------------------------------------------------------
-- Forms
-- ---------------------------------------------------------------------------

def urn : List Char := "urn:uuid:".toList

def forms (u : Uuid) : List (List Char) :=
  [u.hyphenated, u.simple, '\x7b' :: u.hyphenated ++ ['\x7d'], urn ++ u.hyphenated]

theorem length_hexDigits (count n : Nat) : (hexDigits count n).length = count := by
  induction count generalizing n with
  | zero => rfl
  | succ count ih => rw [hexDigits, List.length_append, ih, List.length_singleton]

theorem length_simple (u : Uuid) : u.simple.length = 32 := length_hexDigits 32 _

theorem length_hyphenated (u : Uuid) : u.hyphenated.length = 36 := by
  have hread := ofHyphenated?_hyphenated u
  exact (isSome_ofHyphenated?_iff.mp (by rw [hread]; rfl)).length_eq

theorem ofSimple?_eq_some_iff : ofSimple? cs = some u ↔ lower cs = u.simple := by
  have hgroup : group [32] u.simple = u.simple :=
    List.take_of_length_le (Nat.le_of_eq u.length_simple)
  rw [ofSimple?, map_ofDigits_eq_some_iff rfl, hgroup]

theorem unbrace?_eq_some_iff : unbrace? cs = some rest ↔ cs = '\x7b' :: rest ++ ['\x7d'] := by
  constructor
  · intro h
    unfold unbrace? at h
    split at h
    · split at h
      · rename_i hlast
        obtain ⟨inner, rfl⟩ := List.getLast?_eq_some_iff.mp hlast
        obtain rfl := Option.some.inj h
        simp
      · cases h
    · cases h
  · rintro rfl
    simp [unbrace?]

theorem unbraced_eq_some_iff :
    (unbrace? cs).bind ofHyphenated? = some u ↔
      lower cs = '\x7b' :: u.hyphenated ++ ['\x7d'] := by
  simp only [Option.bind_eq_some_iff, unbrace?_eq_some_iff, ofHyphenated?_eq_some_iff]
  constructor
  · rintro ⟨inner, rfl, hinner⟩
    simp [lower, ← hinner]
  · intro h
    obtain ⟨brace, tail, rfl, hbrace, htail⟩ := List.map_eq_cons_iff.mp h
    obtain ⟨inner, last, rfl, hinner, hlast⟩ := List.map_eq_append_iff.mp htail
    obtain ⟨brace', rfl, hbrace'⟩ := List.map_eq_singleton_iff.mp hlast
    obtain rfl := (Text.toLower_eq_iff (by decide)).mp hbrace
    obtain rfl := (Text.toLower_eq_iff (by decide)).mp hbrace'
    exact ⟨inner, rfl, hinner⟩

theorem dropNamespace?_eq_some_iff :
    dropNamespace? cs = some rest ↔ ∃ name, cs = name ++ rest ∧ lower name = urn := by
  change (if lower (cs.take urn.length) = urn then some (cs.drop urn.length) else none) = _ ↔ _
  constructor
  · intro h
    split at h
    · rename_i hname
      obtain rfl := Option.some.inj h
      exact ⟨_, (List.take_append_drop _ cs).symm, hname⟩
    · cases h
  · rintro ⟨name, rfl, hname⟩
    have hlength : urn.length = name.length := by rw [← hname, Text.length_lower]
    rw [hlength, List.take_left, List.drop_left, if_pos hname]

theorem unnamed_eq_some_iff :
    (dropNamespace? cs).bind ofHyphenated? = some u ↔ lower cs = urn ++ u.hyphenated := by
  simp only [Option.bind_eq_some_iff, dropNamespace?_eq_some_iff, ofHyphenated?_eq_some_iff]
  constructor
  · rintro ⟨inner, ⟨name, rfl, hname⟩, hinner⟩
    rw [← hname, ← hinner]
    exact List.map_append
  · intro h
    obtain ⟨name, inner, rfl, hname, hinner⟩ := List.map_eq_append_iff.mp h
    exact ⟨inner, ⟨name, rfl, hname⟩, hinner⟩

/-- A text is read as a UUID exactly if it is one of its forms, in any case. -/
theorem ofText?_eq_some_iff : ofText? cs = some u ↔ lower cs ∈ u.forms := by
  have hhyphenated := @ofHyphenated?_eq_some_iff cs
  have hsimple := @ofSimple?_eq_some_iff cs
  have hbraced := @unbraced_eq_some_iff cs
  have hnamed := @unnamed_eq_some_iff cs
  -- The forms differ in length, so no form is taken for another one.
  have hnone {read : Option Uuid} {form : Uuid → List Char}
      (hread : ∀ {v}, read = some v ↔ lower cs = form v)
      (hlength : ∀ v, (lower cs).length ≠ (form v).length) : read = none := by
    refine Option.eq_none_iff_forall_ne_some.mpr fun v hv => hlength v ?_
    rw [hread.mp hv]
  have hurn : urn.length = 9 := rfl
  simp only [forms, List.mem_cons, List.not_mem_nil, or_false]
  unfold ofText?
  constructor
  · intro h
    simp only [Option.or_eq_some_iff, hhyphenated, hsimple, hbraced, hnamed] at h
    rcases h with h | ⟨-, h | ⟨-, h | ⟨-, h⟩⟩⟩
    · exact .inl h
    · exact .inr (.inl h)
    · exact .inr (.inr (.inl h))
    · exact .inr (.inr (.inr h))
  · rintro (h | h | h | h)
    · rw [hhyphenated.mpr h, Option.some_or]
    · rw [hnone hhyphenated fun v => by simp [h, length_simple, length_hyphenated],
        Option.none_or, hsimple.mpr h, Option.some_or]
    · rw [hnone hhyphenated fun v => by simp [h, length_hyphenated],
        hnone hsimple fun v => by simp [h, length_simple, length_hyphenated],
        Option.none_or, Option.none_or, hbraced.mpr h, Option.some_or]
    · rw [hnone hhyphenated fun v => by simp [h, length_hyphenated, hurn],
        hnone hsimple fun v => by simp [h, length_simple, length_hyphenated, hurn],
        hnone hbraced fun v => by simp [h, length_hyphenated, hurn],
        Option.none_or, Option.none_or, Option.none_or, hnamed.mpr h]

end Uuid

-- ---------------------------------------------------------------------------
-- Both readers
-- ---------------------------------------------------------------------------

theorem Json.Codec.refine_decode_eq_ok_iff {α β : Type} {c : Codec α} {pack : α → Except String β}
    {unpack : β → α} {body : List UInt8} {b : β} :
    (c.refine pack unpack).decode body = .ok b ↔
      ∃ a, c.decode body = .ok a ∧ pack a = .ok b := by
  simp only [decode_eq_ok_iff]
  unfold refine
  constructor
  · rintro ⟨gap, hgap, hread⟩
    dsimp only at hread
    split at hread
    · cases hread
    · rename_i a rest hc
      split at hread
      · cases hread
      · rename_i hpack
        obtain ⟨rfl, rfl⟩ := Prod.mk.inj (Except.ok.inj hread)
        exact ⟨a, ⟨rest, hgap, hc⟩, hpack⟩
  · rintro ⟨a, ⟨gap, hgap, hc⟩, hpack⟩
    exact ⟨gap, hgap, by simp only [hc, hpack]⟩

namespace ProviderId

theorem ofText_eq_ok_iff {s : String} {id : ProviderId} :
    ofText s = .ok id ↔ Uuid.ofHyphenated? s.toList = some id.uuid := by
  have hoption : ofText s = .ok id ↔ (ofText s).toOption = some id := by
    cases ofText s <;> simp [Except.toOption]
  rw [hoption, toOption_ofText, Option.map_eq_some_iff]
  constructor
  · rintro ⟨u, hread, rfl⟩
    exact hread
  · intro hread
    exact ⟨_, hread, rfl⟩

theorem toList_text (id : ProviderId) : id.text.toList = id.uuid.hyphenated := String.toList_ofList

theorem ofText_eq_ok_iff_lower {s : String} {id : ProviderId} :
    ofText s = .ok id ↔ lower s.toList = id.text.toList := by
  rw [ofText_eq_ok_iff, toList_text, Uuid.ofHyphenated?_eq_some_iff]

theorem exists_ofText_iff {s : String} :
    (∃ id, ofText s = .ok id) ↔ Uuid.IsHyphenated s.toList := by
  simp only [ofText_eq_ok_iff]
  rw [← Uuid.isSome_ofHyphenated?_iff, Option.isSome_iff_exists]
  constructor
  · rintro ⟨id, hread⟩
    exact ⟨id.uuid, hread⟩
  · rintro ⟨u, hread⟩
    exact ⟨⟨u⟩, hread⟩

theorem decode_eq_ok_iff {body : List UInt8} {id : ProviderId} :
    codec.decode body = .ok id ↔
      ∃ s, Codec.text.decode body = .ok s ∧ lower s.toList ∈ id.uuid.forms := by
  unfold codec
  rw [Codec.refine_decode_eq_ok_iff]
  refine exists_congr fun s => and_congr_right fun _ => ?_
  rw [← Uuid.ofText?_eq_some_iff]
  cases Uuid.ofText? s.toList with
  | none => simp
  | some u =>
    obtain ⟨v⟩ := id
    simp

/-- A text names an id in an address exactly if it has the hyphenated form, and the id is then
printed as the same text in lower case; what is printed names the id. In a body every form of the id
is taken. That agrees with what the text names in an address, if it names anything there, and what
is written for the id names it. -/
theorem reads_agree :
    (∀ id : ProviderId, ofText id.text = .ok id) ∧
    (∀ s : String, ((∃ id, ofText s = .ok id) ↔ Uuid.IsHyphenated s.toList) ∧
      ∀ id, ofText s = .ok id → id.text.toList = lower s.toList) ∧
    (∀ (body : List UInt8) (s : String), Codec.text.decode body = .ok s →
      (∀ id, ofText s = .ok id → codec.decode body = .ok id) ∧
      ∀ id, codec.decode body = .ok id ↔ lower s.toList ∈ id.uuid.forms) ∧
    ∀ (body : List UInt8) (id : ProviderId), codec.decode body = .ok id →
      ∃ written, Codec.text.decode (Utf8.encode (codec.encode id).toList) = .ok written ∧
        ofText written = .ok id := by
  have hprinted (id : ProviderId) : ofText id.text = .ok id := by
    rw [ofText_eq_ok_iff, toList_text, Uuid.ofHyphenated?_hyphenated]
  refine ⟨hprinted, fun s => ⟨exists_ofText_iff, fun id hread => ?_⟩, fun body s hbody => ?_,
    fun body id _ => ⟨id.text, (Codec.text_carries id.text).decode_encode, hprinted id⟩⟩
  · exact (ofText_eq_ok_iff_lower.mp hread).symm
  · have hform (id : ProviderId) : codec.decode body = .ok id ↔ lower s.toList ∈ id.uuid.forms := by
      rw [decode_eq_ok_iff, hbody]
      simp
    refine ⟨fun id hread => (hform id).mpr ?_, hform⟩
    rw [ofText_eq_ok_iff_lower.mp hread, toList_text]
    exact List.mem_cons_self

end ProviderId

end AdminConsole
