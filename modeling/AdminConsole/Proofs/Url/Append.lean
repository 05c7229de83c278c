import AdminConsole.Url

/-!
# Appending segments

A segment without dots for a name and without characters that a path has to escape is put behind
the path as it stands. The path in front of it loses an empty last segment.
-/

namespace AdminConsole.Url

/-- The segment can stand in a path as it is. -/
structure IsPlain (segment : List Char) : Prop where
  ne_nil : segment ≠ []
  ne_dot : segment ≠ ['.']
  ne_dots : segment ≠ ['.', '.']
  any_inSegment : segment.any inSegment = false

theorem IsPlain.not_inSegment {segment : List Char} (h : IsPlain segment) :
    ∀ c ∈ segment, inSegment c = false :=
  fun c hc => Bool.eq_false_iff.mpr (List.any_eq_false.mp h.any_inSegment c hc)

theorem isDropped_of_not_inSegment {c : Char} (h : inSegment c = false) : isDropped c = false := by
  refine Bool.eq_false_iff.mpr fun hc => ?_
  have hdropped : c = '\t' ∨ c = '\n' ∨ c = '\r' := by simpa [isDropped, or_assoc] using hc
  rcases hdropped with rfl | rfl | rfl <;> exact absurd h (by decide)

theorem appendSegment_of_isPlain {segment : List Char} (h : IsPlain segment)
    (path : List (List Char)) : appendSegment path segment = push path segment := by
  have hkept : segment.filter (!isDropped ·) = segment := by
    refine List.filter_eq_self.mpr fun c hc => ?_
    rw [isDropped_of_not_inSegment (h.not_inSegment c hc)]
    rfl
  simp only [appendSegment, hkept, h.ne_dot, h.ne_dots, if_false, or_self]
  rw [Percent.encode_of_forall_not h.not_inSegment]

def segmentsOf (path : List (List Char)) : List (List Char) := if path = [[]] then [] else path

theorem push_eq (path : List (List Char)) (segment : List Char) :
    push path segment = segmentsOf path ++ [segment] := by
  simp only [push, segmentsOf]
  split <;> rfl

theorem segmentsOf_concat (path : List (List Char)) {segment : List Char} (h : segment ≠ []) :
    segmentsOf (path ++ [segment]) = path ++ [segment] := by
  refine if_neg fun heq => ?_
  obtain ⟨-, hsegment⟩ := List.append_inj' (heq.trans (List.nil_append _).symm) rfl
  exact h (List.singleton_inj.mp hsegment)

theorem foldl_appendSegment {segment : List Char} {segments : List (List Char)}
    (h : ∀ s ∈ segment :: segments, IsPlain s) (path : List (List Char)) :
    (segment :: segments).foldl appendSegment path = segmentsOf path ++ segment :: segments := by
  induction segments generalizing path segment with
  | nil =>
    rw [List.foldl_cons, List.foldl_nil, appendSegment_of_isPlain (h _ List.mem_cons_self), push_eq]
  | cons next segments ih =>
    rw [List.forall_mem_cons] at h
    rw [List.foldl_cons, ih h.2, appendSegment_of_isPlain h.1, push_eq,
      segmentsOf_concat _ h.1.ne_nil, List.append_assoc]
    rfl

def dropEmptyLast (path : List (List Char)) : List (List Char) :=
  if path.getLast? = some [] then path.dropLast else path

/-- Of `//` only `/` is left, which has no segment either. -/
theorem segmentsOf_withoutEmptyLast (path : List (List Char)) :
    segmentsOf (withoutEmptyLast path) = if path = [[], []] then [] else dropEmptyLast path := by
  by_cases hlast : path.getLast? = some []
  · obtain ⟨before, rfl⟩ := List.getLast?_eq_some_iff.mp hlast
    have hroot : before ++ [[]] = [[], []] ↔ before = [[]] :=
      @List.append_left_inj _ before [[]] [[]]
    cases before with
    | nil => rfl
    | cons first before =>
      have hkept : withoutEmptyLast (first :: before ++ [[]]) = first :: before := by
        rw [withoutEmptyLast, if_pos ⟨by simp, hlast⟩, List.dropLast_concat]
      have hdrop : dropEmptyLast (first :: before ++ [[]]) = first :: before := by
        rw [dropEmptyLast, if_pos hlast, List.dropLast_concat]
      simp only [hkept, hdrop, segmentsOf, hroot]
  · have hroot : path ≠ [[]] := fun heq => hlast (heq ▸ rfl)
    have hroot' : path ≠ [[], []] := fun heq => hlast (heq ▸ rfl)
    simp only [segmentsOf, withoutEmptyLast, dropEmptyLast, hlast, hroot, hroot', and_false,
      if_false]

/-- Plain segments stand behind the path unchanged. Everything but the path stays. -/
theorem append_of_isPlain {segment : List Char} {segments : List (List Char)}
    (h : ∀ s ∈ segment :: segments, IsPlain s) (u : Url) :
    u.append (segment :: segments) =
      { u with
        path :=
          (if u.path = [[], []] then [] else dropEmptyLast u.path) ++ segment :: segments } := by
  rw [append, foldl_appendSegment h, segmentsOf_withoutEmptyLast]

end AdminConsole.Url
