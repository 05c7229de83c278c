import AdminConsole.Proofs.Json.Syntax

/-!
# Scanning scalars

The scanners for words, strings and numbers take what the grammar allows and nothing else, and what
they take does not depend on what follows, except that a number goes on as long as it can.
-/

namespace AdminConsole.Json

-- ---------------------------------------------------------------------------
-- Words
-- ---------------------------------------------------------------------------

theorem literal_eq_ok_iff {cs : List Char} {bs rest : List UInt8} :
    literal cs bs = .ok rest ↔ bs = cs.map ascii ++ rest := by
  induction cs generalizing bs with
  | nil => simp [literal]
  | cons c cs ih =>
    cases bs with
    | nil => simp [literal]
    | cons b bs =>
      simp only [literal, List.map_cons, List.cons_append, List.cons.injEq, ← ih]
      split
      · simp [*]
      · simp [*]

-- ---------------------------------------------------------------------------
-- Strings
-- ---------------------------------------------------------------------------

theorem shortEscape?_isSome_iff {b : UInt8} :
    (shortEscape? b).isSome ↔ b ∈ ['"', '\\', '/', 'b', 'f', 'n', 'r', 't'].map ascii := by
  simp only [shortEscape?, List.map_cons, List.map_nil, List.mem_cons, List.not_mem_nil, or_false]
  split
  · rename_i hself
    rcases hself with rfl | rfl | rfl <;> decide
  · repeat' split
    all_goals simp_all

theorem hex4_eq_ok {bs rest : List UInt8} {n : Nat} (h : hex4 bs = .ok (n, rest)) :
    ∃ digits, digits.length = 4 ∧ (∀ d ∈ digits, (hexByte? d).isSome) ∧ bs = digits ++ rest ∧
      ∀ more, hex4 (digits ++ more) = .ok (n, more) := by
  unfold hex4 at h
  split at h
  · rename_i a b c d _
    split at h
    · rename_i ha hb hc hd
      obtain ⟨rfl, rfl⟩ := Prod.mk.inj (Except.ok.inj h)
      refine ⟨[a, b, c, d], rfl, by simp [ha, hb, hc, hd], rfl, fun more => ?_⟩
      simp only [List.cons_append, List.nil_append, hex4, ha, hb, hc, hd]
    · contradiction
  · contradiction

theorem hex4_of_digits {digits : List UInt8} (hlength : digits.length = 4)
    (h : ∀ d ∈ digits, (hexByte? d).isSome) :
    ∃ n, ∀ more, hex4 (digits ++ more) = .ok (n, more) := by
  match digits, hlength with
  | [a, b, c, d], _ =>
    simp only [List.forall_mem_cons, Option.isSome_iff_exists] at h
    obtain ⟨⟨a', ha⟩, ⟨b', hb⟩, ⟨c', hc⟩, ⟨d', hd⟩, -⟩ := h
    exact ⟨((a' * 16 + b') * 16 + c') * 16 + d', fun more => by simp [hex4, ha, hb, hc, hd]⟩

section
variable (rest : List UInt8)

theorem skipString_quote : skipString (ascii '"' :: rest) = .ok rest := by
  rw [skipString.eq_def]
  exact if_pos rfl

theorem skipString_plain {b : UInt8} (hprint : 0x20 ≤ b) (hquote : b ≠ ascii '"')
    (hescape : b ≠ ascii '\\') : skipString (b :: rest) = skipString rest := by
  rw [skipString.eq_def]
  dsimp only
  rw [if_neg hquote, if_neg hescape, if_neg (UInt8.not_lt.mpr hprint)]

theorem skipString_short {letter : UInt8} (h : (shortEscape? letter).isSome) :
    skipString (ascii '\\' :: letter :: rest) = skipString rest := by
  rw [skipString.eq_def]
  dsimp only
  rw [if_neg (by decide), if_pos rfl, if_pos h]

theorem skipString_unicode {digits : List UInt8} {n : Nat}
    (h : hex4 (digits ++ rest) = .ok (n, rest)) :
    skipString (ascii '\\' :: ascii 'u' :: digits ++ rest) = skipString rest := by
  rw [List.cons_append, List.cons_append, skipString.eq_def]
  dsimp only
  rw [if_neg (by decide), if_pos rfl, if_neg (by decide), if_pos rfl]
  split
  · rename_i hfail
    rw [h] at hfail
    cases hfail
  · rename_i htaken
    rw [h] at htaken
    cases htaken
    rfl

end

theorem skipString_of_isBody {body : List UInt8} (h : IsBody body) (more : List UInt8) :
    skipString (body ++ ascii '"' :: more) = .ok more := by
  induction h with
  | nil => exact skipString_quote more
  | plain hprint hquote hescape _ ih =>
    rw [List.cons_append, skipString_plain _ hprint hquote hescape, ih]
  | short hletter _ ih =>
    rw [List.cons_append, List.cons_append,
      skipString_short _ (shortEscape?_isSome_iff.mpr hletter), ih]
  | @unicode digits body hlength hdigits _ ih =>
    obtain ⟨n, hhex⟩ := hex4_of_digits hlength hdigits
    rw [List.append_assoc, skipString_unicode _ (hhex _), ih]

theorem skipString_eq_ok {bs rest : List UInt8} (h : skipString bs = .ok rest) :
    ∃ body, IsBody body ∧ bs = body ++ ascii '"' :: rest := by
  fun_induction skipString bs with
  | case1 => contradiction
  | case2 =>
    obtain rfl := Except.ok.inj h
    exact ⟨[], .nil, rfl⟩
  | case3 => contradiction
  | case4 =>
    rename_i hshort _ ih
    obtain ⟨body, hbody, rfl⟩ := ih h
    exact ⟨_, .short (shortEscape?_isSome_iff.mp hshort) hbody, rfl⟩
  | case5 => contradiction
  | case6 =>
    rename_i hx _ _ ih
    obtain ⟨body, hbody, rfl⟩ := ih h
    obtain ⟨digits, hlength, hdigits, rfl, -⟩ := hex4_eq_ok hx
    exact ⟨_, .unicode hlength hdigits hbody, by simp⟩
  | case7 => contradiction
  | case8 => contradiction
  | case9 =>
    rename_i hquote hescape hprint ih
    obtain ⟨body, hbody, rfl⟩ := ih h
    exact ⟨_, .plain (UInt8.not_lt.mp hprint) hquote hescape hbody, rfl⟩

theorem IsBody.unique {body body' more more' : List UInt8} (h : IsBody body) (h' : IsBody body')
    (heq : body ++ ascii '"' :: more = body' ++ ascii '"' :: more') :
    body = body' ∧ more = more' := by
  have hskip := skipString_of_isBody h more
  rw [heq, skipString_of_isBody h'] at hskip
  obtain rfl := Except.ok.inj hskip
  exact ⟨List.append_cancel_right heq, rfl⟩

theorem lowSurrogate_eq_ok {high : Nat} {bs out rest : List UInt8}
    (h : lowSurrogate high bs = .ok (out, rest)) :
    ∃ used, bs = used ++ rest ∧ (∀ body, IsBody body → IsBody (used ++ body)) ∧
      ∀ more, lowSurrogate high (used ++ more) = .ok (out, more) := by
  unfold lowSurrogate at h
  split at h
  · contradiction
  · contradiction
  · rename_i b u after
    split at h
    · contradiction
    · rename_i hslash
      split at h
      · contradiction
      · rename_i hletter
        obtain rfl : b = ascii '\\' := Decidable.not_not.mp hslash
        obtain rfl : u = ascii 'u' := Decidable.not_not.mp hletter
        split at h
        · contradiction
        · rename_i hx
          obtain ⟨digits, hlength, hdigits, rfl, hmore⟩ := hex4_eq_ok hx
          split at h
          · contradiction
          · rename_i hrange
            obtain ⟨rfl, rfl⟩ := Prod.mk.inj (Except.ok.inj h)
            refine ⟨ascii '\\' :: ascii 'u' :: digits, rfl, fun body => .unicode hlength hdigits,
              fun more => ?_⟩
            simp only [List.cons_append, lowSurrogate, hmore, if_neg hrange]
            simp

theorem escape_eq_ok {bs out rest : List UInt8} (h : escape bs = .ok (out, rest)) :
    ∃ used, bs = used ++ rest ∧ (∀ body, IsBody body → IsBody (ascii '\\' :: used ++ body)) ∧
      ∀ more, escape (used ++ more) = .ok (out, more) := by
  cases bs with
  | nil => contradiction
  | cons b bs =>
    simp only [escape] at h
    split at h
    · rename_i hshort
      obtain ⟨rfl, rfl⟩ := Prod.mk.inj (Except.ok.inj h)
      refine ⟨[b], rfl, fun body => .short (shortEscape?_isSome_iff.mp (by simp [hshort])),
        fun more => ?_⟩
      simp only [List.cons_append, escape, hshort, List.nil_append]
    · rename_i hshort
      split at h
      · rename_i hletter
        subst hletter
        simp only [unicodeEscape] at h
        split at h
        · contradiction
        · rename_i hx
          obtain ⟨digits, hlength, hdigits, rfl, hmore⟩ := hex4_eq_ok hx
          split at h
          · contradiction
          · rename_i hlow
            split at h
            · rename_i hsingle
              obtain ⟨rfl, rfl⟩ := Prod.mk.inj (Except.ok.inj h)
              refine ⟨ascii 'u' :: digits, rfl, fun body => .unicode hlength hdigits,
                fun more => ?_⟩
              simp only [List.cons_append, escape, hshort, if_true, unicodeEscape, hmore,
                if_neg hlow, if_pos hsingle]
            · rename_i hpair
              obtain ⟨used, rfl, hbody, hmore'⟩ := lowSurrogate_eq_ok h
              refine ⟨ascii 'u' :: digits ++ used, by simp, fun body hb => ?_, fun more => ?_⟩
              · simpa using IsBody.unicode hlength hdigits (hbody body hb)
              · simp only [List.cons_append, List.append_assoc, escape, hshort, if_true,
                  unicodeEscape, hmore, if_neg hlow, if_neg hpair, hmore']
      · contradiction

section
variable (rest : List UInt8)

theorem quoted_quote : quoted (ascii '"' :: rest) = .ok ([], rest) := by
  rw [quoted.eq_def]
  exact if_pos rfl

theorem quoted_plain {b : UInt8} (hprint : 0x20 ≤ b) (hquote : b ≠ ascii '"')
    (hescape : b ≠ ascii '\\') {out rest' : List UInt8} (h : quoted rest = .ok (out, rest')) :
    quoted (b :: rest) = .ok (b :: out, rest') := by
  rw [quoted.eq_def]
  dsimp only
  rw [if_neg hquote, if_neg hescape, if_neg (UInt8.not_lt.mpr hprint), h]

theorem quoted_escape {out more rest' rest'' : List UInt8} (h : escape rest = .ok (out, rest'))
    (hmore : quoted rest' = .ok (more, rest'')) :
    quoted (ascii '\\' :: rest) = .ok (out ++ more, rest'') := by
  rw [quoted.eq_def]
  dsimp only
  rw [if_neg (by decide), if_pos rfl]
  split
  · rename_i hfail
    rw [h] at hfail
    cases hfail
  · rename_i htaken
    rw [h] at htaken
    cases htaken
    rw [hmore]

end

/-- Reading a string takes what stands between its quotes. What it stands for does not depend on
what follows. -/
theorem quoted_eq_ok {bs out rest : List UInt8} (h : quoted bs = .ok (out, rest)) :
    ∃ body, IsBody body ∧ bs = body ++ ascii '"' :: rest ∧
      ∀ more, quoted (body ++ ascii '"' :: more) = .ok (out, more) := by
  fun_induction quoted bs generalizing out rest with
  | case1 => contradiction
  | case2 =>
    obtain ⟨rfl, rfl⟩ := Prod.mk.inj (Except.ok.inj h)
    exact ⟨[], .nil, rfl, quoted_quote⟩
  | case3 => contradiction
  | case4 => contradiction
  | case5 =>
    rename_i he _ _ hq _ ih
    obtain ⟨rfl, rfl⟩ := Prod.mk.inj (Except.ok.inj h)
    obtain ⟨used, rfl, hused, hmore⟩ := escape_eq_ok he
    obtain ⟨body, hbody, rfl, hmore'⟩ := ih hq
    refine ⟨ascii '\\' :: used ++ body, hused body hbody, by simp, fun more => ?_⟩
    rw [List.append_assoc, List.cons_append]
    exact quoted_escape _ (hmore _) (hmore' more)
  | case6 => contradiction
  | case7 => contradiction
  | case8 =>
    rename_i hquote hescape hprint _ _ hq ih
    obtain ⟨rfl, rfl⟩ := Prod.mk.inj (Except.ok.inj h)
    obtain ⟨body, hbody, rfl, hmore⟩ := ih hq
    exact ⟨_, .plain (UInt8.not_lt.mp hprint) hquote hescape hbody, rfl,
      fun more => quoted_plain _ (UInt8.not_lt.mp hprint) hquote hescape (hmore more)⟩

theorem string_eq_ok {bs rest : List UInt8} {cs : List Char} (h : string bs = .ok (cs, rest)) :
    ∃ body, IsBody body ∧ bs = body ++ ascii '"' :: rest ∧
      ∀ more, string (body ++ ascii '"' :: more) = .ok (cs, more) := by
  simp only [string] at h
  split at h
  · contradiction
  · rename_i hq
    split at h
    · contradiction
    · rename_i hdecode
      obtain ⟨rfl, rfl⟩ := Prod.mk.inj (Except.ok.inj h)
      obtain ⟨body, hbody, rfl, hmore⟩ := quoted_eq_ok hq
      exact ⟨body, hbody, rfl, fun more => by simp only [string, hmore, hdecode]⟩

def bodyText? (body : List UInt8) : Option (List Char) :=
  match string (body ++ [ascii '"']) with
  | .ok (cs, _) => some cs
  | .error _ => none

theorem string_eq_ok_iff {body more rest : List UInt8} {cs : List Char} (h : IsBody body) :
    string (body ++ ascii '"' :: more) = .ok (cs, rest) ↔
      rest = more ∧ bodyText? body = some cs := by
  constructor
  · intro hread
    obtain ⟨body', hbody', heq, hmore⟩ := string_eq_ok hread
    obtain ⟨rfl, rfl⟩ := h.unique hbody' heq
    exact ⟨rfl, by rw [bodyText?, hmore []]⟩
  · rintro ⟨rfl, htext⟩
    simp only [bodyText?] at htext
    split at htext
    · rename_i hread
      obtain rfl := Option.some.inj htext
      obtain ⟨body', hbody', heq, hmore⟩ := string_eq_ok hread
      obtain ⟨rfl, -⟩ := h.unique hbody' heq
      exact hmore _
    · cases htext

-- ---------------------------------------------------------------------------
-- Numbers
-- ---------------------------------------------------------------------------

def NoDigit (more : List UInt8) : Prop := ∀ b ∈ more.head?, isDigit b = false

theorem span_digits {ds more : List UInt8} (h : ∀ d ∈ ds, isDigit d = true) (hmore : NoDigit more) :
    (ds ++ more).takeWhile isDigit = ds ∧ (ds ++ more).dropWhile isDigit = more := by
  rw [List.takeWhile_append_of_pos h, List.dropWhile_append_of_pos h]
  cases more with
  | nil => simp
  | cons b more => simp [hmore b rfl]

theorem isDigits_takeWhile {b : UInt8} (h : isDigit b = true) (bs : List UInt8) :
    IsDigits ((b :: bs).takeWhile isDigit) := by
  refine ⟨by simp [h], fun d hd => ?_⟩
  exact List.all_eq_true.mp List.all_takeWhile d hd

theorem exponentPart_append {sign ds more : List UInt8} (cause : Cause) (n : Number)
    (hsign : sign = [] ∨ sign = [ascii '+'] ∨ sign = [ascii '-']) (hds : IsDigits ds)
    (hmore : NoDigit more) :
    ∃ n', exponentPart cause n (sign ++ ds ++ more) = .ok (n', more) := by
  obtain ⟨hne, hdigits⟩ := hds
  obtain ⟨d, ds, rfl⟩ := List.exists_cons_of_ne_nil hne
  have hd := hdigits d List.mem_cons_self
  have hplus : d ≠ ascii '+' := by rintro rfl; exact absurd hd (by decide)
  have hminus : d ≠ ascii '-' := by rintro rfl; exact absurd hd (by decide)
  have hrest := (span_digits (List.forall_mem_cons.mp hdigits).2 hmore).2
  have hsigns : ascii '-' ≠ ascii '+' := by decide
  rcases hsign with rfl | rfl | rfl
  · exact ⟨_, by simp [exponentPart, hplus, hminus, hd, hrest]; rfl⟩
  · exact ⟨_, by simp [exponentPart, hd, hrest]; rfl⟩
  · exact ⟨_, by simp [exponentPart, hsigns, hd, hrest]; rfl⟩

theorem exponentPart?_append {exponent more : List UInt8} (cause : Cause) (n : Number)
    (h : IsExponent exponent) (hmore : Stops more) :
    ∃ n', exponentPart? cause n (exponent ++ more) = .ok (n', more) := by
  rcases h with rfl | ⟨letter, sign, ds, hletter, hsign, hds, rfl⟩
  · cases more with
    | nil => exact ⟨n, rfl⟩
    | cons b more =>
      obtain ⟨-, -, he, he'⟩ := hmore b rfl
      exact ⟨n, by simp [exponentPart?, he, he']⟩
  · obtain ⟨n', hpart⟩ := exponentPart_append cause n hsign hds fun b hb => (hmore b hb).1
    exact ⟨n', by rw [List.cons_append, List.cons_append, exponentPart?, if_pos hletter, hpart]⟩

theorem IsExponent.head {exponent more : List UInt8} (h : IsExponent exponent)
    (hmore : Stops more) :
    ∀ b ∈ (exponent ++ more).head?, isDigit b = false ∧ b ≠ ascii '.' := by
  rcases h with rfl | ⟨letter, sign, ds, hletter, -, -, rfl⟩
  · exact fun b hb => ⟨(hmore b hb).1, (hmore b hb).2.1⟩
  · rintro b hb
    obtain rfl : letter = b := by simpa using hb
    rcases hletter with rfl | rfl <;> exact ⟨by decide, by decide⟩

theorem fractionPart?_append {fraction exponent more : List UInt8} (cause : Cause) (n : Number)
    (h : IsFraction fraction) (hexponent : IsExponent exponent) (hmore : Stops more) :
    ∃ n', fractionPart? cause n (fraction ++ exponent ++ more) = .ok (n', more) := by
  have hhead := hexponent.head hmore
  rcases h with rfl | ⟨ds, hds, rfl⟩
  · obtain ⟨n', hpart⟩ := exponentPart?_append cause n hexponent hmore
    rw [List.nil_append]
    generalize exponent ++ more = rest at *
    cases rest with
    | nil => exact ⟨n', hpart⟩
    | cons b rest =>
      refine ⟨n', ?_⟩
      rw [fractionPart?.eq_def]
      exact (if_neg (hhead b rfl).2).trans hpart
  · obtain ⟨hne, hdigits⟩ := hds
    obtain ⟨d, ds, rfl⟩ := List.exists_cons_of_ne_nil hne
    have hspan := span_digits hdigits fun b hb => (hhead b hb).1
    have hd := hdigits d List.mem_cons_self
    let n₁ : Number := { n with fraction := d :: ds, isReal := true }
    obtain ⟨n', hpart⟩ := exponentPart?_append cause n₁ hexponent hmore
    refine ⟨n', ?_⟩
    rw [List.append_assoc, List.cons_append, fractionPart?.eq_def]
    rw [List.cons_append] at hspan ⊢
    dsimp only
    rw [if_pos rfl, if_pos hd, hspan.1, hspan.2]
    exact hpart

theorem unsignedNumber_append {w more : List UInt8} (cause : Cause) (h : IsUnsigned w)
    (hmore : Stops more) : ∃ n, unsignedNumber cause (w ++ more) = .ok (n, more) := by
  obtain ⟨whole, fraction, exponent, ⟨⟨hne, hdigits⟩, hzero⟩, hfraction, hexponent, rfl⟩ := h
  obtain ⟨d, ds, rfl⟩ := List.exists_cons_of_ne_nil hne
  have hd := hdigits d List.mem_cons_self
  have hhead : NoDigit (fraction ++ exponent ++ more) := by
    rcases hfraction with rfl | ⟨fs, -, rfl⟩
    · exact fun b hb => (hexponent.head hmore b hb).1
    · intro b hb
      obtain rfl : ascii '.' = b := by simpa using hb
      decide
  rw [List.append_assoc, List.append_assoc, ← List.append_assoc fraction, List.cons_append]
  by_cases hd0 : d = ascii '0'
  · obtain rfl : ds = [] := by simpa [hd0] using hzero
    obtain ⟨n, hpart⟩ :=
      fractionPart?_append cause ⟨[d], [], false, [], false⟩ hfraction hexponent hmore
    generalize fraction ++ exponent ++ more = rest at *
    refine ⟨n, ?_⟩
    rw [List.nil_append, unsignedNumber.eq_def]
    dsimp only
    rw [if_pos hd0]
    cases rest with
    | nil => exact hpart
    | cons b rest =>
      dsimp only
      rw [if_neg (Bool.eq_false_iff.mp (hhead b rfl)), hpart]
  · have hspan := span_digits (List.forall_mem_cons.mp hdigits).2 hhead
    obtain ⟨n, hpart⟩ :=
      fractionPart?_append cause ⟨d :: ds, [], false, [], false⟩ hfraction hexponent hmore
    refine ⟨n, ?_⟩
    rw [unsignedNumber.eq_def]
    dsimp only
    rw [if_neg hd0, if_pos hd, hspan.1, hspan.2, hpart]

theorem exponentPart_eq_ok {cause : Cause} {n n' : Number} {bs rest : List UInt8}
    (h : exponentPart cause n bs = .ok (n', rest)) :
    ∃ sign ds, (sign = [] ∨ sign = [ascii '+'] ∨ sign = [ascii '-']) ∧ IsDigits ds ∧
      bs = sign ++ ds ++ rest := by
  have hdigits {sign : List UInt8} {b : UInt8} {after : List UInt8}
      (hsign : sign = [] ∨ sign = [ascii '+'] ∨ sign = [ascii '-']) (hb : isDigit b = true) :
      ∃ sign' ds, (sign' = [] ∨ sign' = [ascii '+'] ∨ sign' = [ascii '-']) ∧ IsDigits ds ∧
        sign ++ b :: after = sign' ++ ds ++ after.dropWhile isDigit := by
    refine ⟨sign, _, hsign, isDigits_takeWhile hb after, ?_⟩
    rw [List.append_assoc, List.takeWhile_cons_of_pos hb, List.cons_append,
      List.takeWhile_append_dropWhile]
  cases bs with
  | nil => contradiction
  | cons c cs =>
    simp only [exponentPart] at h
    by_cases hplus : c = ascii '+'
    · rw [if_pos hplus] at h
      split at h
      · contradiction
      · rename_i b after hafter
        split at h
        · rename_i hb
          obtain ⟨-, rfl⟩ := Prod.mk.inj (Except.ok.inj h)
          obtain rfl : cs = b :: after := hafter
          exact hdigits (.inr (.inl (congrArg (fun b => [b]) hplus))) hb
        · contradiction
    · rw [if_neg hplus] at h
      by_cases hminus : c = ascii '-'
      · rw [if_pos hminus] at h
        split at h
        · contradiction
        · rename_i b after hafter
          split at h
          · rename_i hb
            obtain ⟨-, rfl⟩ := Prod.mk.inj (Except.ok.inj h)
            obtain rfl : cs = b :: after := hafter
            exact hdigits (.inr (.inr (congrArg (fun b => [b]) hminus))) hb
          · contradiction
      · rw [if_neg hminus] at h
        dsimp only at h
        split at h
        · rename_i hc
          obtain ⟨-, rfl⟩ := Prod.mk.inj (Except.ok.inj h)
          exact hdigits (.inl rfl) hc
        · contradiction

theorem exponentPart?_eq_ok {cause : Cause} {n n' : Number} {bs rest : List UInt8}
    (h : exponentPart? cause n bs = .ok (n', rest)) :
    ∃ exponent, IsExponent exponent ∧ bs = exponent ++ rest := by
  cases bs with
  | nil =>
    obtain ⟨-, rfl⟩ := Prod.mk.inj (Except.ok.inj h)
    exact ⟨[], .inl rfl, rfl⟩
  | cons b bs =>
    simp only [exponentPart?] at h
    split at h
    · rename_i hletter
      obtain ⟨sign, ds, hsign, hds, rfl⟩ := exponentPart_eq_ok h
      exact ⟨_, .inr ⟨b, sign, ds, hletter, hsign, hds, rfl⟩, rfl⟩
    · obtain ⟨-, rfl⟩ := Prod.mk.inj (Except.ok.inj h)
      exact ⟨[], .inl rfl, rfl⟩

theorem fractionPart?_eq_ok {cause : Cause} {n n' : Number} {bs rest : List UInt8}
    (h : fractionPart? cause n bs = .ok (n', rest)) :
    ∃ fraction exponent, IsFraction fraction ∧ IsExponent exponent ∧
      bs = fraction ++ exponent ++ rest := by
  cases bs with
  | nil =>
    obtain ⟨-, rfl⟩ := Prod.mk.inj (Except.ok.inj h)
    exact ⟨[], [], .inl rfl, .inl rfl, rfl⟩
  | cons b bs =>
    simp only [fractionPart?] at h
    split at h
    · rename_i hpoint
      split at h
      · contradiction
      · rename_i d after
        split at h
        · rename_i hd
          obtain ⟨exponent, hexponent, hrest⟩ := exponentPart?_eq_ok h
          refine ⟨_, exponent, .inr ⟨_, isDigits_takeWhile hd after, rfl⟩, hexponent, ?_⟩
          rw [hpoint, List.cons_append, List.cons_append, List.append_assoc, ← hrest,
            List.takeWhile_append_dropWhile]
        · contradiction
    · obtain ⟨exponent, hexponent, hrest⟩ := exponentPart?_eq_ok h
      exact ⟨[], exponent, .inl rfl, hexponent, hrest⟩

theorem unsignedNumber_eq_ok {cause : Cause} {n : Number} {bs rest : List UInt8}
    (h : unsignedNumber cause bs = .ok (n, rest)) : ∃ w, IsUnsigned w ∧ bs = w ++ rest := by
  cases bs with
  | nil => contradiction
  | cons b bs =>
    simp only [unsignedNumber] at h
    split at h
    · rename_i hzero
      have hwhole : IsWhole [b] := ⟨⟨by simp, by simp [hzero]; decide⟩, fun _ => by rw [hzero]⟩
      split at h
      · obtain ⟨-, rfl⟩ := Prod.mk.inj (Except.ok.inj h)
        exact ⟨_, ⟨[b], [], [], hwhole, .inl rfl, .inl rfl, rfl⟩, rfl⟩
      · split at h
        · contradiction
        · obtain ⟨fraction, exponent, hfraction, hexponent, hrest⟩ := fractionPart?_eq_ok h
          exact ⟨_, ⟨[b], fraction, exponent, hwhole, hfraction, hexponent, rfl⟩, by simp [hrest]⟩
    · rename_i hzero
      split at h
      · rename_i hb
        obtain ⟨fraction, exponent, hfraction, hexponent, hrest⟩ := fractionPart?_eq_ok h
        have hdigits := isDigits_takeWhile hb bs
        have hwhole : IsWhole (b :: bs.takeWhile isDigit) := by
          rw [List.takeWhile_cons_of_pos hb] at hdigits
          exact ⟨hdigits, fun hhead => absurd (Option.some.inj hhead) hzero⟩
        refine ⟨_, ⟨_, fraction, exponent, hwhole, hfraction, hexponent, rfl⟩, ?_⟩
        rw [List.append_assoc, List.append_assoc, ← List.append_assoc fraction, ← hrest,
          List.cons_append, List.takeWhile_append_dropWhile]
      · contradiction

end AdminConsole.Json
