import AdminConsole.Proofs.Json.Skip

/-!
# Regular readers

A reader is regular if what it takes is a value and if nothing around the value matters for what it
is read as. So reading a value inside a longer text comes to reading it alone. All readers of bodies
are regular, since none of them takes a number, which would go on with the digits that follow.
-/

namespace AdminConsole.Json

-- ---------------------------------------------------------------------------
-- Where a value ends
-- ---------------------------------------------------------------------------

theorem IsNumber.head {w : List UInt8} (h : IsNumber w) :
    ∃ b rest, w = b :: rest ∧ (isDigit b = true ∨ b = ascii '-') := by
  rcases h with h | ⟨v, -, rfl⟩
  · obtain ⟨d, ds, rfl, hd⟩ := h.head
    exact ⟨d, ds, rfl, .inl hd⟩
  · exact ⟨_, v, rfl, .inr rfl⟩

theorem IsValue.isNumber_of_head {b : UInt8} {rest : List UInt8} (h : IsValue (b :: rest))
    (hb : isDigit b = true ∨ b = ascii '-') : IsNumber (b :: rest) := by
  have hne {c : Char} (hc : isDigit (ascii c) = false ∧ ascii c ≠ ascii '-') : b ≠ ascii c := by
    rintro rfl
    rcases hb with hb | hb
    · rw [hc.1] at hb
      cases hb
    · exact hc.2 hb
  generalize hw : b :: rest = w at h
  cases h with
  | scalar h =>
    cases h with
    | word hword =>
      simp only [List.map_cons, List.map_nil, List.mem_cons, List.not_mem_nil, or_false] at hword
      rcases hword with rfl | rfl | rfl
      · exact absurd (List.cons.inj hw).1 (hne (by decide))
      · exact absurd (List.cons.inj hw).1 (hne (by decide))
      · exact absurd (List.cons.inj hw).1 (hne (by decide))
    | string => exact absurd (List.cons.inj hw).1 (hne (by decide))
    | number h => exact h
  | list => exact absurd (List.cons.inj hw).1 (hne (by decide))
  | object => exact absurd (List.cons.inj hw).1 (hne (by decide))

/-- One text cannot start with two values, unless with a number that is cut short. -/
theorem IsValue.unique {w w' more rest : List UInt8} (h : IsValue w) (h' : IsValue w')
    (hnumber : ¬ IsNumber w') (heq : w ++ more = w' ++ rest) : w = w' ∧ more = rest := by
  have hplain : ¬ IsNumber w := by
    intro hw
    obtain ⟨b, bs, rfl, hb⟩ := hw.head
    obtain ⟨c, cs, rfl, -⟩ := h'.passes.starts
    obtain ⟨rfl, -⟩ := List.cons.inj heq
    exact hnumber (h'.isNumber_of_head hb)
  have hskip := @skipValue_of_isValue w [] more h Blank.nil fun hw => absurd hw hplain
  have hskip' := @skipValue_of_isValue w' [] rest h' Blank.nil fun hw => absurd hw hnumber
  simp only [List.nil_append] at hskip hskip'
  rw [heq, hskip'] at hskip
  obtain rfl := Except.ok.inj hskip
  exact ⟨List.append_cancel_right heq, rfl⟩

theorem skipBlank_value {w gap more : List UInt8} (h : IsValue w) (hgap : Blank gap) :
    skipBlank (gap ++ w ++ more) = w ++ more := by
  obtain ⟨b, rest, rfl, hb⟩ := h.passes.starts
  rw [List.append_assoc, List.cons_append, skipBlank_gap hgap (isBlank_of_startsValue hb)]

-- ---------------------------------------------------------------------------
-- Regular readers
-- ---------------------------------------------------------------------------

structure Regular {α : Type} (read : Reader α) : Prop where
  reads {bs rest : List UInt8} {a : α} : read bs = .ok (a, rest) →
    ∃ gap w, Blank gap ∧ IsValue w ∧ ¬ IsNumber w ∧ bs = gap ++ w ++ rest ∧
      ∀ gap' more, Blank gap' → read (gap' ++ w ++ more) = .ok (a, more)

/-- Reading a value inside a text comes to reading it alone. -/
theorem Regular.read_iff {α : Type} {read : Reader α} (h : Regular read)
    {gap w more rest : List UInt8} {a : α} (hw : IsValue w) (hgap : Blank gap) :
    read (gap ++ w ++ more) = .ok (a, rest) ↔ rest = more ∧ read w = .ok (a, []) := by
  constructor
  · intro hread
    obtain ⟨gap', w', hgap', hw', hnumber, heq, hmore⟩ := h.reads hread
    have hskip := congrArg skipBlank heq
    rw [skipBlank_value hw hgap, skipBlank_value hw' hgap'] at hskip
    obtain ⟨rfl, rfl⟩ := hw.unique hw' hnumber hskip
    exact ⟨rfl, by simpa using hmore [] [] Blank.nil⟩
  · rintro ⟨rfl, hread⟩
    obtain ⟨gap', w', hgap', hw', -, heq, hmore⟩ := h.reads hread
    have hskip := congrArg skipBlank heq
    have halone := @skipBlank_value w [] [] hw Blank.nil
    rw [List.nil_append, List.append_nil] at halone
    rw [halone, skipBlank_value hw' hgap', List.append_nil] at hskip
    exact hskip ▸ hmore gap rest hgap

-- ---------------------------------------------------------------------------
-- Readers of scalars
-- ---------------------------------------------------------------------------

theorem not_isNumber_cons {b : UInt8} {rest : List UInt8} (hdigit : isDigit b = false)
    (hminus : b ≠ ascii '-') : ¬ IsNumber (b :: rest) := by
  intro h
  obtain ⟨c, cs, heq, hc⟩ := h.head
  obtain ⟨rfl, -⟩ := List.cons.inj heq
  rcases hc with hc | hc
  · rw [hdigit] at hc
    cases hc
  · exact hminus hc

theorem Regular.of_skipBlank {α : Type} {read : Reader α} {atEnd : Failure}
    {body : UInt8 → Reader α}
    (hread : ∀ bs, read bs =
      match skipBlank bs with
      | [] => .error atEnd
      | b :: rest => body b rest)
    (h : ∀ {b bs a rest}, body b bs = .ok (a, rest) →
      ∃ w, IsValue (b :: w) ∧ ¬ IsNumber (b :: w) ∧ bs = w ++ rest ∧
        ∀ more, body b (w ++ more) = .ok (a, more)) : Regular read := by
  constructor
  intro bs rest a hok
  rw [hread] at hok
  split at hok
  · contradiction
  · rename_i b after hb
    obtain ⟨w, hw, hnumber, rfl, hmore⟩ := h hok
    obtain ⟨gap, hgap, rfl⟩ := exists_gap_of_skipBlank hb
    refine ⟨gap, b :: w, hgap, hw, hnumber, by simp, fun gap' more hgap' => ?_⟩
    rw [hread, skipBlank_value hw hgap']
    exact hmore more

theorem readText_regular (expected : String) : Regular (readText expected) := by
  refine Regular.of_skipBlank (fun _ => rfl) fun {b bs cs rest} h => ?_
  split at h
  · rename_i hquote
    subst hquote
    obtain ⟨body, hbody, rfl, hmore⟩ := string_eq_ok h
    refine ⟨body ++ [ascii '"'], .scalar (.string hbody),
      not_isNumber_cons (by decide) (by decide), by simp, fun more => ?_⟩
    rw [if_pos rfl, List.append_assoc]
    exact hmore more
  · contradiction

theorem isValue_word {α : Type} (c : Char) {cs : List Char} {a a' : α} {bs rest : List UInt8}
    (hword : c :: cs ∈ ["null", "true", "false"].map String.toList)
    (h : (literal cs bs).map (a, ·) = .ok (a', rest)) :
    ∃ w, IsValue (ascii c :: w) ∧ ¬ IsNumber (ascii c :: w) ∧ bs = w ++ rest ∧
      ∀ more, (literal cs (w ++ more)).map (a, ·) = .ok (a', more) := by
  cases hliteral : literal cs bs with
  | error e => rw [hliteral] at h; contradiction
  | ok after =>
    rw [hliteral] at h
    obtain ⟨rfl, rfl⟩ := Prod.mk.inj (Except.ok.inj h)
    have hdigit : isDigit (ascii c) = false ∧ ascii c ≠ ascii '-' := by
      simp only [List.map_cons, List.map_nil, List.mem_cons, List.not_mem_nil, or_false] at hword
      rcases hword with heq | heq | heq <;> obtain ⟨rfl, -⟩ := List.cons.inj heq <;> decide
    refine ⟨cs.map ascii, .scalar (.word hword), not_isNumber_cons hdigit.1 hdigit.2,
      literal_eq_ok_iff.mp hliteral, fun more => ?_⟩
    rw [literal_eq_ok_iff.mpr rfl]
    rfl

theorem readBool_regular : Regular readBool := by
  refine Regular.of_skipBlank (fun _ => rfl) fun {b bs a rest} h => ?_
  split at h
  · rename_i htrue
    subst htrue
    exact isValue_word 't' (by decide) h
  · split at h
    · rename_i hfalse
      subst hfalse
      exact isValue_word 'f' (by decide) h
    · contradiction

-- ---------------------------------------------------------------------------
-- Readers made of readers
-- ---------------------------------------------------------------------------

theorem map_eq_ok_iff {α β : Type} {f : α → β} {r : Except Failure (α × List UInt8)} {b : β}
    {rest : List UInt8} :
    (r.map fun (a, rest) => (f a, rest)) = .ok (b, rest) ↔ ∃ a, r = .ok (a, rest) ∧ f a = b := by
  cases r with
  | error e => simp [Except.map]
  | ok p =>
    obtain ⟨a, rest'⟩ := p
    simp only [Except.map, Except.ok.injEq, Prod.mk.injEq]
    exact ⟨fun ⟨hb, hrest⟩ => ⟨a, ⟨rfl, hrest⟩, hb⟩, fun ⟨_, ⟨ha, hrest⟩, hb⟩ => ⟨ha ▸ hb, hrest⟩⟩

theorem Regular.map {α β : Type} {read : Reader α} (h : Regular read) (f : α → β) :
    Regular fun bs => (read bs).map fun (a, rest) => (f a, rest) := by
  constructor
  intro bs rest b hok
  obtain ⟨a, hread, rfl⟩ := map_eq_ok_iff.mp hok
  obtain ⟨gap, w, hgap, hw, hnumber, rfl, hmore⟩ := h.reads hread
  exact ⟨gap, w, hgap, hw, hnumber, rfl, fun gap' more hgap' =>
    map_eq_ok_iff.mpr ⟨a, hmore gap' more hgap', rfl⟩⟩

namespace Codec

variable {α β : Type}

theorem text_regular : Regular text.read := (readText_regular _).map _

theorem bool_regular : Regular bool.read := readBool_regular

theorem iso_regular {c : Codec α} (h : Regular c.read) (pack : α → β) (unpack : β → α) :
    Regular (c.iso pack unpack).read := h.map pack

theorem readOrNull_of_ne {c : Codec α} (absent : α) {gap w : List UInt8} (hgap : Blank gap)
    (hw : IsValue w) (hnull : w.head? ≠ some (ascii 'n')) (more : List UInt8) :
    c.readOrNull absent (gap ++ w ++ more) = c.read (gap ++ w ++ more) := by
  obtain ⟨b, ws, rfl, -⟩ := hw.passes.starts
  have hb : b ≠ ascii 'n' := fun heq => hnull (by rw [heq]; rfl)
  simp only [readOrNull, skipBlank_value hw hgap, List.cons_append, if_neg hb]

theorem readOrNull_alone {c : Codec α} (absent : α) {w : List UInt8} (hw : IsValue w)
    (hnull : w.head? ≠ some (ascii 'n')) : c.readOrNull absent w = c.read w := by
  have hread := @readOrNull_of_ne _ c absent [] w Blank.nil hw hnull []
  rwa [List.nil_append, List.append_nil] at hread

theorem readOrNull_regular {c : Codec α} (h : Regular c.read) (absent : α) :
    Regular (c.readOrNull absent) := by
  constructor
  intro bs rest a hok
  have hinner (hread : c.read bs = .ok (a, rest))
      (hnull : ∀ b after, skipBlank bs = b :: after → b ≠ ascii 'n') :
      ∃ gap w, Blank gap ∧ IsValue w ∧ ¬ IsNumber w ∧ bs = gap ++ w ++ rest ∧
        ∀ gap' more, Blank gap' → c.readOrNull absent (gap' ++ w ++ more) = .ok (a, more) := by
    obtain ⟨gap, w, hgap, hw, hnumber, rfl, hmore⟩ := h.reads hread
    refine ⟨gap, w, hgap, hw, hnumber, rfl, fun gap' more hgap' => ?_⟩
    rw [readOrNull_of_ne absent hgap' hw, hmore gap' more hgap']
    intro hhead
    obtain ⟨ws, rfl⟩ := List.head?_eq_some_iff.mp hhead
    exact hnull _ _ (skipBlank_value hw hgap) rfl
  simp only [readOrNull] at hok
  split at hok
  · rename_i hend
    exact hinner hok fun b after hb => by rw [hend] at hb; cases hb
  · rename_i b after hb
    split at hok
    · rename_i hnull
      subst hnull
      obtain ⟨gap, hgap, rfl⟩ := exists_gap_of_skipBlank hb
      obtain ⟨w, hw, hnumber, rfl, hmore⟩ := isValue_word 'n' (by decide) hok
      refine ⟨gap, _, hgap, hw, hnumber, by simp, fun gap' more hgap' => ?_⟩
      simp only [readOrNull, skipBlank_value hw hgap', List.cons_append, if_true]
      exact hmore more
    · rename_i hnull
      exact hinner hok fun b' after' hb' => by
        rw [hb] at hb'
        exact (List.cons.inj hb').1 ▸ hnull

theorem orNull_regular {c : Codec α} (h : Regular c.read) (absent : β) (pack : α → β)
    (unpack : β → α) : Regular (c.orNull absent pack unpack).read :=
  readOrNull_regular (iso_regular h pack unpack) absent

end Codec

end AdminConsole.Json
