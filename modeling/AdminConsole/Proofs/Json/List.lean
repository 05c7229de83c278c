import AdminConsole.Proofs.Json.Regular

/-!
# Reading lists

A list is read element by element, each as it is read alone.
-/

namespace AdminConsole.Json

-- ---------------------------------------------------------------------------
-- Steps
-- ---------------------------------------------------------------------------

theorem nextElement?_close {gap : List UInt8} (hgap : Blank gap) (isFirst : Bool)
    (more : List UInt8) :
    nextElement? isFirst (gap ++ ascii ']' :: more) = .ok (false, ascii ']' :: more) := by
  simp only [nextElement?, skipBlank_gap hgap (by decide : isBlank (ascii ']') = false), if_true]

theorem nextElement?_element {isFirst : Bool} {e text more : List UInt8}
    {tokens : List (List UInt8)} (he : Starts e)
    (h : Spaced (comma isFirst ++ [e] ++ tokens) text) :
    ∃ rear, Spaced tokens rear ∧
      nextElement? isFirst (text ++ more) = .ok (true, e ++ (rear ++ more)) := by
  obtain ⟨b, rest, rfl, hb⟩ := he
  have hblank := isBlank_of_startsValue hb
  have hclose : b ≠ ascii ']' := ne_of_startsValue hb (by decide)
  cases isFirst with
  | true =>
    obtain ⟨gap, rear, hgap, hrear, rfl⟩ := h
    refine ⟨rear, hrear, ?_⟩
    rw [List.append_assoc, List.append_assoc, List.cons_append]
    simp only [nextElement?, skipBlank_gap hgap hblank, if_neg hclose, if_true]
  | false =>
    obtain ⟨gap, _, hgap, ⟨gap', rear, hgap', hrear, rfl⟩, rfl⟩ := h
    refine ⟨rear, hrear, ?_⟩
    simp only [List.append_assoc, List.cons_append, List.nil_append]
    simp only [nextElement?, skipBlank_gap hgap (by decide : isBlank (ascii ',') = false),
      skipBlank_gap hgap' hblank, if_neg hclose, Bool.false_eq_true, if_false,
      (by decide : ascii ',' ≠ ascii ']'), if_true]

theorem nextElement?_eq_ok_false {isFirst : Bool} {bs rest : List UInt8}
    (h : nextElement? isFirst bs = .ok (false, rest)) :
    ∃ gap after, Blank gap ∧ bs = gap ++ ascii ']' :: after ∧ rest = ascii ']' :: after := by
  simp only [nextElement?] at h
  split at h
  · contradiction
  · rename_i b after hb
    obtain ⟨gap, hgap, rfl⟩ := exists_gap_of_skipBlank hb
    split at h
    · rename_i hclose
      obtain ⟨-, rfl⟩ := Prod.mk.inj (Except.ok.inj h)
      exact ⟨gap, after, hgap, by rw [hclose], by rw [hclose]⟩
    · split at h
      · cases h
      · split at h
        · split at h
          · contradiction
          · split at h <;> cases h
        · contradiction

theorem nextElement?_eq_ok_true {isFirst : Bool} {bs rest : List UInt8}
    (h : nextElement? isFirst bs = .ok (true, rest)) :
    ∃ lead, bs = lead ++ rest ∧ ∀ e tokens gap rear, Blank gap → Spaced tokens rear →
      Spaced (comma isFirst ++ [e] ++ tokens) (lead ++ gap ++ e ++ rear) := by
  simp only [nextElement?] at h
  split at h
  · contradiction
  · rename_i b after hb
    obtain ⟨gap, hgap, rfl⟩ := exists_gap_of_skipBlank hb
    split at h
    · cases h
    · split at h
      · rename_i hfirst
        obtain ⟨-, rfl⟩ := Prod.mk.inj (Except.ok.inj h)
        subst hfirst
        exact ⟨gap, rfl, fun e tokens gap' rear hgap' hrear =>
          ⟨gap ++ gap', rear, hgap.append hgap', hrear, rfl⟩⟩
      · rename_i hfirst
        obtain rfl : isFirst = false := Bool.eq_false_iff.mpr hfirst
        split at h
        · rename_i hcomma
          subst hcomma
          split at h
          · contradiction
          · rename_i c last hc
            obtain ⟨gap', hgap', rfl⟩ := exists_gap_of_skipBlank hc
            split at h
            · contradiction
            · obtain ⟨-, rfl⟩ := Prod.mk.inj (Except.ok.inj h)
              refine ⟨gap ++ ascii ',' :: gap', by simp, fun e tokens gap'' rear hgap'' hrear => ?_⟩
              exact ⟨gap, _, hgap, ⟨gap' ++ gap'', rear, hgap'.append hgap'', hrear, rfl⟩, by simp⟩
        · contradiction

theorem endList_close {gap : List UInt8} (hgap : Blank gap) (more : List UInt8) :
    endList (gap ++ ascii ']' :: more) = .ok more := by
  simp only [endList, skipBlank_gap hgap (by decide : isBlank (ascii ']') = false), if_true]

theorem endList_eq_ok {bs rest : List UInt8} (h : endList bs = .ok rest) :
    ∃ gap, Blank gap ∧ bs = gap ++ ascii ']' :: rest := by
  simp only [endList] at h
  split at h
  · contradiction
  · rename_i b after hb
    obtain ⟨gap, hgap, rfl⟩ := exists_gap_of_skipBlank hb
    split at h
    · rename_i hclose
      obtain rfl := Except.ok.inj h
      exact ⟨gap, hgap, by rw [hclose]⟩
    · split at h
      · split at h
        · contradiction
        · split at h <;> contradiction
      · contradiction

-- ---------------------------------------------------------------------------
-- Elements
-- ---------------------------------------------------------------------------

section
variable {α : Type} {c : Codec α}

theorem elements_eq (isFirst : Bool) (bs : List UInt8) :
    elements c isFirst bs =
      match nextElement? isFirst bs with
      | .error e => .error e
      | .ok (false, rest) => .ok ([], rest)
      | .ok (true, rest) =>
        match c.read rest with
        | .error e => .error e
        | .ok (a, rest) => (elements c false rest).map fun (as, rest) => (a :: as, rest) := by
  rw [elements.eq_def]
  split
  · simp_all
  · simp_all
  · rename_i hnext
    rw [hnext]
    dsimp only
    split <;> simp_all

variable (hc : Regular c.read)
include hc

theorem elements_iff {isFirst : Bool} {es : List (List UInt8)} {inner more rest : List UInt8}
    {as : List α} (hes : ∀ e ∈ es, IsValue e)
    (h : Spaced (separated (ascii ']') isFirst (es.map ([·]))) inner) :
    elements c isFirst (inner ++ more) = .ok (as, rest) ↔
      rest = ascii ']' :: more ∧ es.map c.read = as.map fun a => .ok (a, []) := by
  induction es generalizing isFirst inner as rest with
  | nil =>
    obtain ⟨gap, hgap, rfl⟩ := spaced_singleton.mp h
    rw [List.append_assoc, elements_eq]
    simp only [List.cons_append, List.nil_append, nextElement?_close hgap, Except.ok.injEq,
      Prod.mk.injEq, List.map_nil, List.nil_eq, List.map_eq_nil_iff]
    exact ⟨fun ⟨has, hrest⟩ => ⟨hrest.symm, has⟩, fun ⟨hrest, has⟩ => ⟨has, hrest.symm⟩⟩
  | cons e es ih =>
    obtain ⟨he, hes⟩ := List.forall_mem_cons.mp hes
    obtain ⟨rear, hrear, hnext⟩ := @nextElement?_element isFirst e inner more _ he.passes.starts h
    have halone {a : α} {rest : List UInt8} : c.read (e ++ (rear ++ more)) = .ok (a, rest) ↔
        rest = rear ++ more ∧ c.read e = .ok (a, []) := hc.read_iff he Blank.nil
    rw [elements_eq, hnext]
    dsimp only
    constructor
    · intro hread
      split at hread
      · contradiction
      · rename_i a after htaken
        obtain ⟨rfl, hvalue⟩ := halone.mp htaken
        obtain ⟨as', hmore, rfl⟩ := map_eq_ok_iff.mp hread
        obtain ⟨hrest, has⟩ := (ih hes hrear).mp hmore
        exact ⟨hrest, by rw [List.map_cons, List.map_cons, hvalue, has]⟩
    · rintro ⟨hrest, has⟩
      cases as with
      | nil => cases has
      | cons a as =>
        obtain ⟨hvalue, hvalues⟩ := List.cons.inj has
        rw [halone.mpr ⟨rfl, hvalue⟩]
        exact map_eq_ok_iff.mpr ⟨as, (ih hes hrear).mpr ⟨hrest, hvalues⟩, rfl⟩

theorem elements_eq_ok {isFirst : Bool} {bs rest : List UInt8} {as : List α}
    (h : elements c isFirst bs = .ok (as, rest)) :
    ∃ (es : List (List UInt8)) (inner after : List UInt8), (∀ e ∈ es, IsValue e) ∧
      Spaced (separated (ascii ']') isFirst (es.map ([·]))) inner ∧ bs = inner ++ after ∧
      rest = ascii ']' :: after := by
  fun_induction elements c isFirst bs generalizing as rest with
  | case1 => contradiction
  | case2 =>
    rename_i hnext
    obtain ⟨-, rfl⟩ := Prod.mk.inj (Except.ok.inj h)
    obtain ⟨gap, after, hgap, rfl, rfl⟩ := nextElement?_eq_ok_false hnext
    exact ⟨[], gap ++ [ascii ']'], after, by simp, spaced_singleton.mpr ⟨gap, hgap, rfl⟩, by simp,
      rfl⟩
  | case3 => contradiction
  | case4 isFirst bs inner hnext a after hread ih =>
    obtain ⟨as', hmore, rfl⟩ := map_eq_ok_iff.mp h
    obtain ⟨es, text, last, hes, hspaced, rfl, rfl⟩ := ih hmore
    obtain ⟨gap, e, hgap, he, -, rfl, -⟩ := hc.reads hread
    obtain ⟨lead, rfl, hitem⟩ := nextElement?_eq_ok_true hnext
    exact ⟨e :: es, _, last, List.forall_mem_cons.mpr ⟨he, hes⟩, hitem e _ gap text hgap hspaced,
      by simp, rfl⟩

theorem Codec.list_regular : Regular c.list.read := by
  refine Regular.of_skipBlank (fun _ => rfl) fun {b bs as rest} h => ?_
  split at h
  · rename_i hopening
    subst hopening
    split at h
    · contradiction
    · rename_i as' mid hread
      obtain ⟨es, inner, after, hes, hspaced, rfl, rfl⟩ := elements_eq_ok hc hread
      have hclose (more : List UInt8) : endList (ascii ']' :: more) = .ok more :=
        endList_close Blank.nil more
      rw [hclose] at h
      obtain ⟨rfl, rfl⟩ := Prod.mk.inj (Except.ok.inj h)
      have hvalues := ((elements_iff hc hes hspaced).mp hread).2
      refine ⟨inner, .list hes hspaced, not_isNumber_cons (by decide) (by decide), rfl,
        fun more => ?_⟩
      rw [if_pos rfl, (elements_iff hc hes hspaced).mpr ⟨rfl, hvalues⟩]
      dsimp only
      rw [hclose]
      rfl
  · contradiction

/-- A list is read as its elements are. -/
theorem list_read_iff {es : List (List UInt8)} {inner : List UInt8} {as : List α}
    (hes : ∀ e ∈ es, IsValue e)
    (h : Spaced (separated (ascii ']') true (es.map ([·]))) inner) :
    c.list.read (ascii '[' :: inner) = .ok (as, []) ↔
      es.map c.read = as.map fun a => .ok (a, []) := by
  have hiff {as : List α} {rest : List UInt8} : elements c true inner = .ok (as, rest) ↔
      rest = [ascii ']'] ∧ es.map c.read = as.map fun a => .ok (a, []) := by
    simpa using @elements_iff _ _ hc true es inner [] rest as hes h
  have hclose : endList [ascii ']'] = .ok [] := endList_close Blank.nil []
  show readList c (ascii '[' :: inner) = _ ↔ _
  rw [readList, skipBlank_cons (by decide)]
  dsimp only
  rw [if_pos rfl]
  constructor
  · intro hok
    split at hok
    · contradiction
    · rename_i as' rest helements
      obtain ⟨rfl, hvalues⟩ := hiff.mp helements
      rw [hclose] at hok
      obtain ⟨rfl, -⟩ := Prod.mk.inj (Except.ok.inj hok)
      exact hvalues
  · intro hvalues
    rw [hiff.mpr ⟨rfl, hvalues⟩]
    dsimp only
    rw [hclose]
    rfl

end

end AdminConsole.Json
