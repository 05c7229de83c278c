import AdminConsole.Proofs.Percent
import AdminConsole.Proofs.Url.Append

/-!
# Segments that are read back

Whatever a segment holds, it is escaped so that it can be read back. Only two things are lost on the
way: tabs and line breaks, and dot segments, which a path follows instead of keeping them. So a text
of any other kind stands behind the path as one segment that stands for it, and no text of these
kinds does.
-/

namespace AdminConsole.Url

/-- The text that a segment of a path stands for. -/
def meaning? (segment : List Char) : Option (List Char) :=
  Utf8.decode? (Percent.decode (Utf8.encode segment))

theorem meaning?_encode (text : List Char) :
    meaning? (Percent.encode inSegment text) = some text := by
  rw [meaning?, Percent.decode_encode (by decide), Utf8.decode?_encode]

/-- Nothing of the text is lost when it is appended as a segment. -/
structure IsKept (text : List Char) : Prop where
  ne_dot : text ≠ ['.']
  ne_dots : text ≠ ['.', '.']
  any_isDropped : text.any isDropped = false

instance (text : List Char) : Decidable (IsKept text) :=
  decidable_of_iff (text ≠ ['.'] ∧ text ≠ ['.', '.'] ∧ text.any isDropped = false)
    ⟨fun ⟨h₁, h₂, h₃⟩ => ⟨h₁, h₂, h₃⟩, fun h => ⟨h.ne_dot, h.ne_dots, h.any_isDropped⟩⟩

theorem filter_eq_self_iff {text : List Char} :
    text.filter (!isDropped ·) = text ↔ text.any isDropped = false := by
  simp [List.filter_eq_self, List.any_eq_false]

theorem appendSegment_of_isKept {text : List Char} (h : IsKept text) (path : List (List Char)) :
    appendSegment path text = push path (Percent.encode inSegment text) := by
  simp only [appendSegment, filter_eq_self_iff.mpr h.any_isDropped, h.ne_dot, h.ne_dots, or_self,
    if_false]

theorem push_of_ne {path : List (List Char)} (h : path ≠ [[]]) (segment : List Char) :
    push path segment = path ++ [segment] := if_neg h

/-- One segment is put behind the path, or the path gets no longer. A text that is put there stands
for itself only if nothing of it is lost. -/
theorem appendSegment_cases {path : List (List Char)} (hpath : path ≠ [[]]) (text : List Char) :
    (∃ segment, appendSegment path text = path ++ [segment] ∧
      (meaning? segment = some text ↔ IsKept text)) ∨
    ¬ IsKept text ∧ (appendSegment path text).length ≤ path.length := by
  by_cases hdots : text = ['.'] ∨ text = ['.', '.']
  · have hlost : ¬ IsKept text := fun h => hdots.elim h.ne_dot h.ne_dots
    exact .inr ⟨hlost, by simp only [appendSegment, if_pos hdots, Nat.le_refl]⟩
  · obtain ⟨hdot, hdots'⟩ := not_or.mp hdots
    -- What is left is a dot segment: it was none before, so something was dropped from it.
    have hlost (kept : List Char) (hkept : text.filter (!isDropped ·) = kept)
        (hdotted : kept = ['.'] ∨ kept = ['.', '.']) : ¬ IsKept text := by
      intro h
      rw [filter_eq_self_iff.mpr h.any_isDropped] at hkept
      exact hdots (hkept ▸ hdotted)
    have hempty (h : ¬ IsKept text) : meaning? [] = some text ↔ IsKept text := by
      refine iff_of_false (fun hmeans => h ?_) h
      obtain rfl : [] = text := Option.some.inj ((meaning?_encode []).symm.trans hmeans)
      exact ⟨hdot, hdots', rfl⟩
    simp only [appendSegment, if_neg hdots]
    split
    · rename_i hup
      have hkept := hlost _ hup (.inr rfl)
      rcases hback : path.reverse with _ | ⟨last, before⟩
      · left
        obtain rfl : path = [] := by simpa using hback
        exact ⟨[], rfl, hempty hkept⟩
      · obtain rfl : path = before.reverse ++ [last] := by
          rw [← List.reverse_reverse path, hback, List.reverse_cons]
        simp only [parent]
        split
        · left
          exact ⟨[], by simp, hempty hkept⟩
        · right
          exact ⟨hkept, by simp⟩
    · split
      · rename_i _ hstay
        left
        exact ⟨[], push_of_ne hpath [], hempty (hlost _ hstay (.inl rfl))⟩
      · left
        refine ⟨_, push_of_ne hpath _, ?_⟩
        rw [meaning?_encode, Option.some_inj, filter_eq_self_iff]
        exact ⟨fun h => ⟨hdot, hdots', h⟩, fun h => h.any_isDropped⟩

theorem appendSegment_root (text : List Char) : (appendSegment [[]] text).length ≤ 1 := by
  simp only [appendSegment]
  repeat' split
  all_goals simp [push, parent, isDisk]

theorem length_appendSegment_le (path : List (List Char)) (text : List Char) :
    (appendSegment path text).length ≤ path.length + 1 := by
  by_cases hroot : path = [[]]
  · subst hroot
    exact Nat.le_succ_of_le (appendSegment_root text)
  · rcases appendSegment_cases hroot text with ⟨segment, happend, -⟩ | ⟨-, hle⟩
    · simp [happend]
    · omega

theorem appendSegment_of_length {path : List (List Char)} {text : List Char}
    (h : path.length < (appendSegment path text).length) :
    ∃ segment, appendSegment path text = path ++ [segment] ∧
      (meaning? segment = some text ↔ IsKept text) := by
  have hroot : path ≠ [[]] := by
    rintro rfl
    exact absurd h (Nat.not_lt.mpr (appendSegment_root text))
  exact (appendSegment_cases hroot text).resolve_right fun hlost =>
    absurd h (Nat.not_lt.mpr hlost.2)

theorem IsPlain.isKept {text : List Char} (h : IsPlain text) : IsKept text := by
  refine ⟨h.ne_dot, h.ne_dots, List.any_eq_false.mpr fun c hc => ?_⟩
  simp [isDropped_of_not_inSegment (h.not_inSegment c hc)]

-- ---------------------------------------------------------------------------
-- Several segments
-- ---------------------------------------------------------------------------

theorem length_foldl_appendSegment_le (texts path : List (List Char)) :
    (texts.foldl appendSegment path).length ≤ path.length + texts.length := by
  induction texts generalizing path with
  | nil => exact Nat.le_refl _
  | cons text texts ih =>
    rw [List.foldl_cons, List.length_cons]
    have hstep := length_appendSegment_le path text
    have hrest := ih (appendSegment path text)
    omega

theorem foldl_appendSegment_of_length {texts path : List (List Char)}
    (h : (texts.foldl appendSegment path).length = path.length + texts.length) :
    ∃ segments, texts.foldl appendSegment path = path ++ segments ∧
      (segments.map meaning? = texts.map some ↔ ∀ text ∈ texts, IsKept text) := by
  induction texts generalizing path with
  | nil => exact ⟨[], by simp, by simp⟩
  | cons text texts ih =>
    rw [List.foldl_cons, List.length_cons] at h
    have hrest := length_foldl_appendSegment_le texts (appendSegment path text)
    have hgrown : path.length < (appendSegment path text).length := by omega
    obtain ⟨segment, happend, hkept⟩ := appendSegment_of_length hgrown
    rw [happend] at h
    obtain ⟨segments, hpath, hmeans⟩ := ih (by rw [h, List.length_append]; simp; omega)
    refine ⟨segment :: segments, ?_, ?_⟩
    · rw [List.foldl_cons, happend, hpath, List.append_assoc, List.singleton_append]
    · rw [List.map_cons, List.map_cons, List.cons.injEq, hkept, hmeans, List.forall_mem_cons]

theorem foldl_appendSegment_of_isKept {texts path : List (List Char)}
    (h : ∀ text ∈ texts, IsKept text) (hpath : ∀ segments, path ++ segments ≠ [[]]) :
    texts.foldl appendSegment path = path ++ texts.map (Percent.encode inSegment) := by
  induction texts generalizing path with
  | nil => simp
  | cons text texts ih =>
    rw [List.forall_mem_cons] at h
    have hroot : path ≠ [[]] := by simpa using hpath []
    rw [List.foldl_cons, appendSegment_of_isKept h.1, push_of_ne hroot, ih h.2, List.append_assoc]
    · rfl
    · intro segments
      rw [List.append_assoc]
      exact hpath _

-- ---------------------------------------------------------------------------
-- Behind a URL
-- ---------------------------------------------------------------------------

def StandsFor (u : Url) (texts : List (List Char)) (v : Url) : Prop :=
  ∃ segments, v = { u with path := dropEmptyLast u.path ++ segments } ∧
    segments.map meaning? = texts.map some

section
variable (u : Url) {first : List Char} (hfirst : IsPlain first) {texts : List (List Char)}
include hfirst

theorem append_eq :
    u.append (first :: texts) =
      { u with
        path := texts.foldl appendSegment
          ((if u.path = [[], []] then [] else dropEmptyLast u.path) ++ [first]) } := by
  rw [append, List.foldl_cons, appendSegment_of_isPlain hfirst, push_eq,
    segmentsOf_withoutEmptyLast]

theorem append_of_isKept (h : ∀ text ∈ texts, IsKept text) :
    u.append (first :: texts) =
      { u with
        path := (if u.path = [[], []] then [] else dropEmptyLast u.path) ++
          (first :: texts).map (Percent.encode inSegment) } := by
  rw [append_eq u hfirst, foldl_appendSegment_of_isKept h, List.map_cons,
    Percent.encode_of_forall_not hfirst.not_inSegment, List.append_assoc]
  · rfl
  · intro segments heq
    exact hfirst.ne_nil (List.mem_singleton.mp (heq ▸ by simp))

/-- The appended segments stand for their texts if nothing of any text is lost. Of the path `//`
nothing is left in front of them. -/
theorem standsFor_append_iff :
    u.StandsFor (first :: texts) (u.append (first :: texts)) ↔
      u.path ≠ [[], []] ∧ ∀ text ∈ texts, IsKept text := by
  constructor
  · rintro ⟨segments, hsame, hmeans⟩
    have hcount : segments.length = texts.length + 1 := by
      simpa using congrArg List.length hmeans
    have hpath := congrArg Url.path hsame
    rw [append_eq u hfirst] at hpath
    dsimp only at hpath
    by_cases hroot : u.path = [[], []]
    · have hle := length_foldl_appendSegment_le texts ([] ++ [first])
      rw [if_pos hroot, hroot] at hpath
      rw [hpath] at hle
      simp [dropEmptyLast] at hle
      omega
    · rw [if_neg hroot] at hpath
      obtain ⟨appended, happended, hiff⟩ := foldl_appendSegment_of_length
        (show _ = (dropEmptyLast u.path ++ [first]).length + texts.length by
          rw [hpath]; simp; omega)
      rw [happended, List.append_assoc] at hpath
      obtain rfl := List.append_cancel_left hpath
      rw [List.singleton_append, List.map_cons, List.map_cons, List.cons.injEq] at hmeans
      exact ⟨hroot, hiff.mp hmeans.2⟩
  · rintro ⟨hroot, hkept⟩
    rw [append_of_isKept u hfirst hkept, if_neg hroot]
    refine ⟨_, rfl, ?_⟩
    rw [List.map_map]
    exact List.map_congr_left fun text _ => meaning?_encode text

theorem append_injective {other : List Char} (hother : IsPlain other) {others : List (List Char)}
    (h : ∀ text ∈ texts, IsKept text) (h' : ∀ text ∈ others, IsKept text)
    (hsame : u.append (first :: texts) = u.append (other :: others)) :
    first :: texts = other :: others := by
  rw [append_of_isKept u hfirst h, append_of_isKept u hother h'] at hsame
  have hpath := List.append_cancel_left (congrArg Url.path hsame)
  have hmeans := congrArg (List.map meaning?) hpath
  simp only [List.map_map] at hmeans
  have hsome : meaning? ∘ Percent.encode inSegment = some := funext meaning?_encode
  rw [hsome] at hmeans
  exact (List.map_inj_right fun _ _ => Option.some.inj).mp hmeans

end

end AdminConsole.Url
