import Mathlib.Data.List.DropRight
import AdminConsole.Text

/-!
# Cutting, splitting and trimming texts

What a text is cut, split or trimmed to, told by what stands in it, and what becomes of it when more
is written behind it.
-/

namespace AdminConsole

namespace Text

variable {sep : Char} {p : Char → Bool} {cs : List Char}

-- ---------------------------------------------------------------------------
-- Lower case
-- ---------------------------------------------------------------------------

theorem length_lower (cs : List Char) : (lower cs).length = cs.length := List.length_map _

theorem toLower_of_le {c : Char} (h : 0x80 ≤ c.toNat) : c.toLower = c := by
  delta Char.toLower
  split
  · rename_i hc
    have : c.toNat ≤ 'Z'.toNat := hc.2
    have : 'Z'.toNat < 0x80 := by decide
    omega
  · rfl

theorem toLower_eq_iff {c d : Char} (hd : d.isAlpha = false) : c.toLower = d ↔ c = d := by
  have hall : ∀ m < 0x80, (Char.ofNat m).toLower = Char.ofNat m ∨
      (Char.ofNat m).isAlpha = true ∧ (Char.ofNat m).toLower.isAlpha = true := by decide
  rcases Nat.lt_or_ge c.toNat 0x80 with hlt | hge
  · have hc := hall c.toNat hlt
    rw [Char.ofNat_toNat] at hc
    rcases hc with hsame | ⟨hletter, hlower⟩
    · rw [hsame]
    · refine iff_of_false ?_ ?_ <;> rintro rfl <;> simp_all
  · rw [toLower_of_le hge]

theorem isAlpha_of_toLower {c : Char} (h : c.toLower.isAlpha = true) : c.isAlpha = true := by
  by_contra hletter
  rw [Bool.not_eq_true] at hletter
  rw [(toLower_eq_iff hletter).mpr rfl, hletter] at h
  cases h

-- ---------------------------------------------------------------------------
-- Separators
-- ---------------------------------------------------------------------------

theorem cut_of_notMem (h : sep ∉ cs) : cut sep cs = (cs, none) := by
  induction cs with
  | nil => rfl
  | cons c cs ih =>
    obtain ⟨hc, hcs⟩ := not_or.mp (mt List.mem_cons.mpr h)
    rw [cut, if_neg (Ne.symm hc), ih hcs]

theorem cut_append_cons (h : sep ∉ cs) (after : List Char) :
    cut sep (cs ++ sep :: after) = (cs, some after) := by
  induction cs with
  | nil => rw [List.nil_append, cut, if_pos rfl]
  | cons c cs ih =>
    obtain ⟨hc, hcs⟩ := not_or.mp (mt List.mem_cons.mpr h)
    rw [List.cons_append, cut, if_neg (Ne.symm hc), ih hcs]

theorem cut_of_mem (h : sep ∈ cs) :
    ∃ before after, cs = before ++ sep :: after ∧
      ∀ more, cut sep (cs ++ more) = (before, some (after ++ more)) := by
  obtain ⟨before, after, rfl, hbefore⟩ := List.eq_append_cons_of_mem h
  refine ⟨before, after, rfl, fun more => ?_⟩
  rw [List.append_assoc, List.cons_append, cut_append_cons hbefore]

theorem cut_eq_some {before after : List Char} (h : cut sep cs = (before, some after)) :
    cs = before ++ sep :: after ∧
      ∀ more, cut sep (cs ++ more) = (before, some (after ++ more)) := by
  by_cases hmem : sep ∈ cs
  · obtain ⟨before', after', hcs, hmore⟩ := cut_of_mem hmem
    have hnone := hmore []
    rw [List.append_nil, List.append_nil, h] at hnone
    cases hnone
    exact ⟨hcs, hmore⟩
  · rw [cut_of_notMem hmem] at h
    cases h

theorem dropHead?_eq_some_iff {head rest : List Char} :
    dropHead? head cs = some rest ↔ cs = head ++ rest := by
  induction head generalizing cs with
  | nil => simp [dropHead?]
  | cons h head ih =>
    cases cs with
    | nil => simp [dropHead?]
    | cons c cs =>
      rw [dropHead?, List.cons_append, List.cons.injEq]
      split
      · rename_i hc
        rw [ih, and_iff_right hc.symm]
      · rename_i hc
        exact iff_of_false nofun fun hcons => hc hcons.1.symm

theorem notMem_cut (sep : Char) (cs : List Char) : sep ∉ (cut sep cs).1 := by
  induction cs with
  | nil => exact List.not_mem_nil
  | cons c cs ih =>
    rw [cut]
    split
    · exact List.not_mem_nil
    · rename_i hc
      exact List.not_mem_cons_of_ne_of_not_mem (Ne.symm hc) ih

theorem join_cons_of_ne_nil {piece : List Char} {pieces : List (List Char)} (h : pieces ≠ []) :
    join sep (piece :: pieces) = piece ++ sep :: join sep pieces := by
  cases pieces with
  | nil => exact absurd rfl h
  | cons next pieces => simp [join]

theorem join_eq_nil_iff {pieces : List (List Char)} :
    join sep pieces = [] ↔ pieces = [] ∨ pieces = [[]] := by
  cases pieces with
  | nil => simp [join]
  | cons piece pieces => cases pieces <;> simp [join]

theorem mem_join {c : Char} {pieces : List (List Char)} (h : c ∈ join sep pieces) :
    c = sep ∨ c ∈ pieces.flatten := by
  cases pieces with
  | nil => cases h
  | cons piece pieces =>
    simp only [join, List.mem_append, List.mem_flatMap, List.mem_cons] at h
    rcases h with h | ⟨next, hnext, rfl | h⟩
    · exact .inr (List.mem_flatten.mpr ⟨piece, by simp, h⟩)
    · exact .inl rfl
    · exact .inr (List.mem_flatten.mpr ⟨next, by simp [hnext], h⟩)

theorem split_of_notMem (h : sep ∉ cs) : split sep cs = [cs] := by
  induction cs with
  | nil => rfl
  | cons c cs ih =>
    obtain ⟨hc, hcs⟩ := not_or.mp (mt List.mem_cons.mpr h)
    simp only [split, if_neg (Ne.symm hc), ih hcs]

theorem split_append (cs ds : List Char) :
    split sep (cs ++ sep :: ds) = split sep cs ++ split sep ds := by
  induction cs with
  | nil => simp [split]
  | cons c cs ih =>
    rw [List.cons_append, split, split, ih]
    split
    · rfl
    · cases hcs : split sep cs with
      | nil => exact absurd hcs (split_ne_nil sep cs)
      | cons piece pieces => rfl

theorem split_eq_iff {pieces : List (List Char)} :
    split sep cs = pieces ↔
      pieces ≠ [] ∧ join sep pieces = cs ∧ ∀ piece ∈ pieces, sep ∉ piece := by
  constructor
  · rintro rfl
    refine ⟨split_ne_nil sep cs, join_split sep cs, ?_⟩
    induction cs with
    | nil => simp [split]
    | cons c cs ih =>
      simp only [split]
      split
      · simpa using ih
      · rename_i hc
        cases hcs : split sep cs with
        | nil => exact absurd hcs (split_ne_nil sep cs)
        | cons piece pieces =>
          rw [hcs, List.forall_mem_cons] at ih
          simpa [Ne.symm hc] using ih
  · rintro ⟨hne, rfl, hfree⟩
    induction pieces with
    | nil => exact absurd rfl hne
    | cons piece pieces ih =>
      rw [List.forall_mem_cons] at hfree
      cases pieces with
      | nil => simp [join, split_of_notMem hfree.1]
      | cons next pieces =>
        rw [join_cons_of_ne_nil (List.cons_ne_nil _ _), split_append, split_of_notMem hfree.1,
          ih (List.cons_ne_nil _ _) hfree.2, List.singleton_append]

theorem getLast?_split_iff :
    (split sep cs).getLast? = some [] ↔ cs = [] ∨ cs.getLast? = some sep := by
  constructor
  · intro h
    obtain ⟨pieces, hsplit⟩ := List.getLast?_eq_some_iff.mp h
    have hjoin := join_split sep cs
    rw [hsplit] at hjoin
    cases pieces with
    | nil => exact .inl hjoin.symm
    | cons piece pieces =>
      right
      rw [← hjoin, List.cons_append, join, List.flatMap_append, ← List.append_assoc]
      simp
  · rintro (rfl | h)
    · rfl
    · obtain ⟨front, rfl⟩ := List.getLast?_eq_some_iff.mp h
      rw [split_append]
      simp [split]

-- ---------------------------------------------------------------------------
-- The start of a text
-- ---------------------------------------------------------------------------

/-- Where a text is cut is told by the characters in front of it and the first one behind it. -/
theorem span_eq_iff {before after : List Char} :
    cs.takeWhile p = before ∧ cs.dropWhile p = after ↔
      cs = before ++ after ∧ (∀ c ∈ before, p c = true) ∧ ∀ c ∈ after.head?, p c = false := by
  constructor
  · rintro ⟨rfl, rfl⟩
    refine ⟨List.takeWhile_append_dropWhile.symm, fun c hc => List.mem_takeWhile_imp hc,
      fun c hc => ?_⟩
    have hstop := List.head?_dropWhile_not p cs
    rw [Option.mem_def.mp hc] at hstop
    simpa using hstop
  · rintro ⟨rfl, hbefore, hafter⟩
    rw [List.takeWhile_append_of_pos hbefore, List.dropWhile_append_of_pos hbefore]
    cases after with
    | nil => simp
    | cons c after => simp [hafter c rfl]

-- ---------------------------------------------------------------------------
-- The end of a text
-- ---------------------------------------------------------------------------

theorem dropEndWhile_eq (p : Char → Bool) (cs : List Char) :
    dropEndWhile p cs = cs.rdropWhile p := by
  induction cs with
  | nil => rfl
  | cons c cs ih =>
    simp only [dropEndWhile, ih, List.rdropWhile, List.reverse_cons, List.dropWhile_append]
    cases hkept : cs.reverse.dropWhile p with
    | nil => cases hc : p c <;> simp [hc]
    | cons kept rest => simp

theorem dropEndWhile_prefix (p : Char → Bool) (cs : List Char) : dropEndWhile p cs <+: cs := by
  rw [dropEndWhile_eq]
  exact List.rdropWhile_prefix p cs

theorem getLast?_dropEndWhile {last : Char} (h : (dropEndWhile p cs).getLast? = some last) :
    p last = false := by
  rw [dropEndWhile_eq] at h
  have hne : cs.rdropWhile p ≠ [] := by
    intro hnil
    simp [hnil] at h
  rw [List.getLast?_eq_getLast_of_ne_nil hne, Option.some.injEq] at h
  simpa [h] using List.rdropWhile_last_not p cs hne

theorem dropEndWhile_eq_self_iff :
    dropEndWhile p cs = cs ↔ ∀ last ∈ cs.getLast?, p last = false := by
  constructor
  · intro h last hlast
    rw [← h] at hlast
    exact getLast?_dropEndWhile hlast
  · intro h
    rw [dropEndWhile_eq, List.rdropWhile_eq_self_iff]
    intro hne
    simp [h _ (List.getLast?_eq_getLast_of_ne_nil hne)]

theorem dropEndWhile_concat {last : Char} (h : p last = false) :
    dropEndWhile p (cs ++ [last]) = cs ++ [last] :=
  dropEndWhile_eq_self_iff.mpr (by simp [h])

theorem exists_dropEndWhile (p : Char → Bool) (cs : List Char) :
    ∃ dropped, cs = dropEndWhile p cs ++ dropped ∧ ∀ c ∈ dropped, p c = true := by
  rw [dropEndWhile_eq]
  exact ⟨cs.rtakeWhile p, List.rdropWhile_append_rtakeWhile.symm, fun _ => List.mem_rtakeWhile_imp⟩

theorem dropEndWhile_append {dropped : List Char} (hdropped : ∀ c ∈ dropped, p c = true)
    (hkept : ∀ last ∈ cs.getLast?, p last = false) : dropEndWhile p (cs ++ dropped) = cs := by
  induction dropped using List.reverseRecOn with
  | nil => rw [List.append_nil, dropEndWhile_eq_self_iff.mpr hkept]
  | append_singleton dropped c ih =>
    rw [dropEndWhile_eq, ← List.append_assoc, List.rdropWhile_concat_pos p _ c (by simp [hdropped]),
      ← dropEndWhile_eq]
    exact ih fun c hc => hdropped c (by simp [hc])

theorem dropEndWhile_append_left {front : List Char} (h : ∀ last ∈ front.getLast?, p last = false) :
    dropEndWhile p (front ++ cs) = front ++ dropEndWhile p cs := by
  obtain ⟨dropped, hcs, hdropped⟩ := exists_dropEndWhile p cs
  conv_lhs => rw [hcs, ← List.append_assoc]
  refine dropEndWhile_append hdropped fun last hlast => ?_
  rw [List.getLast?_append, Option.mem_def, Option.or_eq_some_iff] at hlast
  rcases hlast with hkept | ⟨-, hfront⟩
  · exact getLast?_dropEndWhile hkept
  · exact h last hfront

-- ---------------------------------------------------------------------------
-- Both ends of a text
-- ---------------------------------------------------------------------------

structure IsTrimmed (cs : List Char) : Prop where
  front : ∀ first ∈ cs.head?, isSpace first = false
  back : ∀ last ∈ cs.getLast?, isSpace last = false

theorem isTrimmed_trim (cs : List Char) : IsTrimmed (trim cs) := by
  refine ⟨fun first hfirst => ?_, fun last hlast => getLast?_dropEndWhile hlast⟩
  obtain ⟨dropped, hdropped⟩ := dropEndWhile_prefix isSpace (cs.dropWhile isSpace)
  have hhead : (cs.dropWhile isSpace).head? = some first := by
    rw [← hdropped, List.head?_append, ← trim, Option.mem_def.mp hfirst, Option.some_or]
  have hstop := List.head?_dropWhile_not isSpace cs
  simpa [hhead] using hstop

theorem trim_eq_self_iff : trim cs = cs ↔ IsTrimmed cs := by
  constructor
  · intro h
    rw [← h]
    exact isTrimmed_trim cs
  · rintro ⟨hfront, hback⟩
    have hdrop : cs.dropWhile isSpace = cs :=
      (span_eq_iff.mpr ⟨(List.nil_append cs).symm, by simp, hfront⟩).2
    rw [trim, hdrop, dropEndWhile_eq_self_iff.mpr hback]

theorem trim_cons_of_isSpace {c : Char} (h : isSpace c = true) : trim (c :: cs) = trim cs := by
  rw [trim, List.dropWhile_cons_of_pos h, ← trim]

theorem mem_of_mem_trim {c : Char} (h : c ∈ trim cs) : c ∈ cs := by
  have hkept := dropEndWhile_prefix isSpace (cs.dropWhile isSpace)
  exact (List.dropWhile_suffix isSpace).subset (hkept.subset h)

theorem trim_eq_nil_iff : trim cs = [] ↔ ∀ c ∈ cs, isSpace c = true := by
  rw [← List.dropWhile_eq_nil_iff]
  constructor
  · intro h
    obtain ⟨dropped, hcs, hdropped⟩ := exists_dropEndWhile isSpace (cs.dropWhile isSpace)
    rw [← trim, h, List.nil_append] at hcs
    -- What is left of the front would begin with a character that is none of white space.
    have hstop := List.head?_dropWhile_not isSpace cs
    rw [hcs] at hstop ⊢
    cases dropped with
    | nil => rfl
    | cons c dropped => simp [hdropped c List.mem_cons_self] at hstop
  · intro h
    rw [trim, h]
    rfl

end Text

end AdminConsole
