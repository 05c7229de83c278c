import AdminConsole.Proofs.Json.List

/-!
# Reading objects

What is read from an object is told by its members alone: each replaces the field of its key, or
nothing if there is no such field, and a key that has a field stands once.
-/

namespace AdminConsole.Json

def Field.take? {ρ : Type} (f : Field ρ) (r : ρ) (value : List UInt8) : Option ρ :=
  match f.read r value with
  | .ok (r', []) => some r'
  | _ => none

theorem Field.take?_eq_some_iff {ρ : Type} {f : Field ρ} {r r' : ρ} {value : List UInt8} :
    f.take? r value = some r' ↔ f.read r value = .ok (r', []) := by
  rw [take?]
  split
  · rename_i hread
    simp [hread]
  · rename_i hread
    exact iff_of_false nofun (hread r')

namespace Shape

-- ---------------------------------------------------------------------------
-- Steps
-- ---------------------------------------------------------------------------

theorem nextKey?_close {gap : List UInt8} (hgap : Blank gap) (isFirst : Bool) (more : List UInt8) :
    nextKey? isFirst (gap ++ ascii '\x7d' :: more) = .ok (none, more) := by
  simp only [nextKey?, skipBlank_gap hgap (by decide : isBlank (ascii '\x7d') = false), if_true]

theorem nextKey?_member {isFirst : Bool} {body text more : List UInt8} {tokens : List (List UInt8)}
    (h : Spaced (comma isFirst ++ [quotedText body] ++ tokens) text) :
    ∃ rear, Spaced tokens rear ∧
      nextKey? isFirst (text ++ more) =
        (string (body ++ ascii '"' :: (rear ++ more))).map fun (cs, rest) => (some cs, rest) := by
  have hquote : isBlank (ascii '"') = false := by decide
  cases isFirst with
  | true =>
    obtain ⟨gap, rear, hgap, hrear, rfl⟩ := h
    refine ⟨rear, hrear, ?_⟩
    simp only [quotedText, List.append_assoc, List.cons_append, List.nil_append]
    simp only [nextKey?, skipBlank_gap hgap hquote, (by decide : ascii '"' ≠ ascii '\x7d'),
      if_false, if_true]
  | false =>
    obtain ⟨gap, _, hgap, ⟨gap', rear, hgap', hrear, rfl⟩, rfl⟩ := h
    refine ⟨rear, hrear, ?_⟩
    simp only [quotedText, List.append_assoc, List.cons_append, List.nil_append]
    simp only [nextKey?, skipBlank_gap hgap (by decide : isBlank (ascii ',') = false),
      skipBlank_gap hgap' hquote, (by decide : ascii '"' ≠ ascii '\x7d'),
      (by decide : ascii ',' ≠ ascii '\x7d'), Bool.false_eq_true, if_false, if_true]

theorem nextKey?_eq_ok_none {isFirst : Bool} {bs rest : List UInt8}
    (h : nextKey? isFirst bs = .ok (none, rest)) :
    ∃ gap, Blank gap ∧ bs = gap ++ ascii '\x7d' :: rest := by
  have hkey {b : UInt8} {inner : List UInt8}
      (h : (if b = ascii '"' then (string inner).map fun (cs, rest) => (some cs, rest)
        else .error ⟨.keyNotString, inner⟩) = .ok (none, rest)) : False := by
    split at h
    · obtain ⟨_, -, hname⟩ := map_eq_ok_iff.mp h
      cases hname
    · cases h
  simp only [nextKey?] at h
  split at h
  · contradiction
  · rename_i b after hb
    obtain ⟨gap, hgap, rfl⟩ := exists_gap_of_skipBlank hb
    split at h
    · rename_i hclose
      obtain ⟨-, rfl⟩ := Prod.mk.inj (Except.ok.inj h)
      exact ⟨gap, hgap, by rw [hclose]⟩
    · split at h
      · exact (hkey h).elim
      · split at h
        · split at h
          · contradiction
          · split at h
            · contradiction
            · exact (hkey h).elim
        · contradiction

theorem nextKey?_eq_ok_some {isFirst : Bool} {bs rest : List UInt8} {name : List Char}
    (h : nextKey? isFirst bs = .ok (some name, rest)) :
    ∃ lead body, IsBody body ∧ bs = lead ++ quotedText body ++ rest ∧
      ∀ tokens rear, Spaced tokens rear → Spaced (comma isFirst ++ [quotedText body] ++ tokens)
        (lead ++ quotedText body ++ rear) := by
  have hkey {b : UInt8} {inner : List UInt8}
      (h : (if b = ascii '"' then (string inner).map fun (cs, rest) => (some cs, rest)
        else .error ⟨.keyNotString, inner⟩) = .ok (some name, rest)) :
      ∃ body, IsBody body ∧ b :: inner = quotedText body ++ rest := by
    split at h
    · rename_i hquote
      obtain ⟨cs, hstring, -⟩ := map_eq_ok_iff.mp h
      obtain ⟨body, hbody, rfl, -⟩ := string_eq_ok hstring
      exact ⟨body, hbody, by simp [quotedText, hquote]⟩
    · cases h
  simp only [nextKey?] at h
  split at h
  · contradiction
  · rename_i b after hb
    obtain ⟨gap, hgap, rfl⟩ := exists_gap_of_skipBlank hb
    split at h
    · cases h
    · split at h
      · rename_i hfirst
        subst hfirst
        obtain ⟨body, hbody, heq⟩ := hkey h
        exact ⟨gap, body, hbody, by rw [heq, List.append_assoc],
          fun tokens rear hrear => ⟨gap, rear, hgap, hrear, rfl⟩⟩
      · rename_i hfirst
        obtain rfl : isFirst = false := Bool.eq_false_iff.mpr hfirst
        split at h
        · rename_i hcomma
          subst hcomma
          split at h
          · contradiction
          · rename_i c last hc
            obtain ⟨gap', hgap', rfl⟩ := exists_gap_of_skipBlank hc
            split at h
            · contradiction
            · obtain ⟨body, hbody, heq⟩ := hkey h
              refine ⟨gap ++ ascii ',' :: gap', body, hbody, by simp [heq],
                fun tokens rear hrear => ?_⟩
              exact ⟨gap, _, hgap, ⟨gap', rear, hgap', hrear, rfl⟩, by simp⟩
        · contradiction

theorem colon_append {gap : List UInt8} (hgap : Blank gap) (more : List UInt8) :
    colon (gap ++ ascii ':' :: more) = .ok more := by
  simp only [colon, skipBlank_gap hgap (by decide : isBlank (ascii ':') = false), if_true]

theorem colon_eq_ok {bs rest : List UInt8} (h : colon bs = .ok rest) :
    ∃ gap, Blank gap ∧ bs = gap ++ ascii ':' :: rest := by
  simp only [colon] at h
  split at h
  · contradiction
  · rename_i b after hb
    obtain ⟨gap, hgap, rfl⟩ := exists_gap_of_skipBlank hb
    split at h
    · rename_i hcolon
      obtain rfl := Except.ok.inj h
      exact ⟨gap, hgap, by rw [hcolon]⟩
    · contradiction

variable {ρ : Type} (s : Shape ρ)

theorem readMembers_eq (seen : List (List Char)) (r : ρ) (bs : List UInt8) :
    s.readMembers seen r bs =
      match nextKey? seen.isEmpty bs with
      | .error e => .error e
      | .ok (none, rest) => .ok ((r, seen), rest)
      | .ok (some key, rest) =>
        match s.readMember seen key r rest with
        | .error e => .error e
        | .ok (r, rest) => s.readMembers (key :: seen) r rest := by
  rw [readMembers.eq_def]
  split
  · simp_all
  · simp_all
  · rename_i hnext
    rw [hnext]
    dsimp only
    split <;> simp_all

-- ---------------------------------------------------------------------------
-- What the members say
-- ---------------------------------------------------------------------------

def knows (name : List Char) : Bool := s.fields.any (·.key.toList = name)

def take? (r : ρ) (m : Member) : Option ρ :=
  match bodyText? m.key with
  | none => none
  | some name =>
    match s.fields.find? (·.key.toList = name) with
    | none => some r
    | some f => f.take? r m.value

def knownNames (ms : List Member) : List (List Char) :=
  (ms.filterMap (bodyText? ·.key)).filter s.knows

/-- The members lead from one record to the other, and no key that has a field stands twice, or once
more after the keys that were met. -/
structure Leads (met : List (List Char)) (r : ρ) (ms : List Member) (v : ρ) : Prop where
  value : ms.foldlM s.take? r = some v
  nodup : (s.knownNames ms).Nodup
  fresh : ∀ name ∈ s.knownNames ms, name ∉ met

variable {s}

theorem exists_name_of_take? {r r' : ρ} {m : Member} (h : s.take? r m = some r') :
    ∃ name, bodyText? m.key = some name := by
  cases hname : bodyText? m.key with
  | none =>
    rw [take?, hname] at h
    cases h
  | some name => exact ⟨name, rfl⟩

theorem knownNames_cons {m : Member} {name : List Char} (h : bodyText? m.key = some name)
    (ms : List Member) :
    s.knownNames (m :: ms) =
      if s.knows name then name :: s.knownNames ms else s.knownNames ms := by
  simp only [knownNames, List.filterMap_cons, h, List.filter_cons]

theorem knows_of_mem {ms : List Member} {name : List Char} (h : name ∈ s.knownNames ms) :
    s.knows name = true := (List.mem_filter.mp h).2

theorem leads_nil {met : List (List Char)} {r v : ρ} : s.Leads met r [] v ↔ r = v := by
  constructor
  · intro h
    exact Option.some.inj h.value
  · rintro rfl
    exact ⟨rfl, List.nodup_nil, nofun⟩

theorem leads_cons {met : List (List Char)} {r v : ρ} {m : Member} {ms : List Member} :
    s.Leads met r (m :: ms) v ↔
      ∃ name r', bodyText? m.key = some name ∧ ¬ (name ∈ met ∧ s.knows name = true) ∧
        s.take? r m = some r' ∧ s.Leads (name :: met) r' ms v := by
  constructor
  · rintro ⟨hvalue, hnodup, hfresh⟩
    obtain ⟨r', htake, hrest⟩ := Option.bind_eq_some_iff.mp hvalue
    obtain ⟨name, hname⟩ := exists_name_of_take? htake
    rw [knownNames_cons hname] at hnodup hfresh
    refine ⟨name, r', hname, fun ⟨hmet, hknown⟩ => ?_, htake, hrest, ?_, ?_⟩
    · rw [if_pos hknown] at hfresh
      exact hfresh name List.mem_cons_self hmet
    · split at hnodup
      · exact hnodup.tail
      · exact hnodup
    · intro name' hmem hmet
      rcases List.mem_cons.mp hmet with rfl | hmet
      · rw [if_pos (knows_of_mem hmem)] at hnodup
        exact (List.nodup_cons.mp hnodup).1 hmem
      · refine hfresh name' ?_ hmet
        split
        · exact List.mem_cons_of_mem _ hmem
        · exact hmem
  · rintro ⟨name, r', hname, hmet, htake, hvalue, hnodup, hfresh⟩
    refine ⟨Option.bind_eq_some_iff.mpr ⟨r', htake, hvalue⟩, ?_, ?_⟩
    · rw [knownNames_cons hname]
      split
      · exact List.nodup_cons.mpr ⟨fun hmem => hfresh name hmem List.mem_cons_self, hnodup⟩
      · exact hnodup
    · rw [knownNames_cons hname]
      intro name' hmem hmem'
      split at hmem
      · rename_i hknown
        rcases List.mem_cons.mp hmem with rfl | hmem
        · exact hmet ⟨hmem', hknown⟩
        · exact hfresh name' hmem (List.mem_cons_of_mem _ hmem')
      · exact hfresh name' hmem (List.mem_cons_of_mem _ hmem')

-- ---------------------------------------------------------------------------
-- Members
-- ---------------------------------------------------------------------------

section
variable (hf : ∀ f ∈ s.fields, ∀ r, Regular (f.read r))
include hf

theorem readValue_iff {m : Member} {name : List Char} {r v : ρ} {gap more rest : List UInt8}
    (hname : bodyText? m.key = some name) (hvalue : IsValue m.value) (hgap : Blank gap)
    (hmore : Stops more) :
    s.readValue name r (gap ++ m.value ++ more) = .ok (v, rest) ↔
      rest = more ∧ s.take? r m = some v := by
  simp only [readValue, take?, hname]
  cases hfind : s.fields.find? (·.key.toList = name) with
  | none =>
    rw [skipValue_of_isValue hvalue hgap fun _ => hmore]
    simp only [Except.map, Except.ok.injEq, Prod.mk.injEq, Option.some.injEq]
    rw [and_comm]
    exact and_congr_left fun _ => eq_comm
  | some f =>
    dsimp only
    rw [(hf f (List.mem_of_find?_eq_some hfind) r).read_iff hvalue hgap, Field.take?_eq_some_iff]

theorem readMember_iff {m : Member} {name : List Char} {seen : List (List Char)} {r v : ρ}
    {gap gap' more rest : List UInt8} (hname : bodyText? m.key = some name)
    (hvalue : IsValue m.value) (hgap : Blank gap) (hgap' : Blank gap') (hmore : Stops more) :
    s.readMember seen name r (gap ++ ascii ':' :: (gap' ++ m.value ++ more)) = .ok (v, rest) ↔
      rest = more ∧ ¬ (name ∈ seen ∧ s.knows name = true) ∧ s.take? r m = some v := by
  simp only [readMember, colon_append hgap]
  split
  · rename_i hdouble
    exact iff_of_false (fun h => by cases h) fun h => h.2.1 hdouble
  · rename_i hsingle
    rw [readValue_iff hf hname hvalue hgap' hmore]
    exact and_congr_right fun _ => (and_iff_right hsingle).symm

theorem readMembers_cons {seen : List (List Char)} {r : ρ} {m : Member}
    {items : List (List (List UInt8))} {inner : List UInt8} (hkey : IsBody m.key)
    (hvalue : IsValue m.value)
    (h : Spaced (separated (ascii '\x7d') seen.isEmpty (m.tokens :: items)) inner)
    (more : List UInt8) :
    ∃ rear, Spaced (separated (ascii '\x7d') false items) rear ∧
      ∀ result, s.readMembers seen r (inner ++ more) = .ok result ↔
        ∃ name r', bodyText? m.key = some name ∧ ¬ (name ∈ seen ∧ s.knows name = true) ∧
          s.take? r m = some r' ∧ s.readMembers (name :: seen) r' (rear ++ more) = .ok result := by
  have htokens : Spaced (comma seen.isEmpty ++ [quotedText m.key] ++ ([ascii ':'] :: m.value ::
      separated (ascii '\x7d') false items)) inner := by
    simpa [separated, Member.tokens] using h
  obtain ⟨mid, ⟨gap, _, hgap, ⟨gap', rear, hgap', hrear, rfl⟩, rfl⟩, hnext⟩ :=
    @nextKey?_member seen.isEmpty m.key inner more _ htokens
  have hmid : gap ++ [ascii ':'] ++ (gap' ++ m.value ++ rear) ++ more =
      gap ++ ascii ':' :: (gap' ++ m.value ++ (rear ++ more)) := by simp
  have hstops : Stops (rear ++ more) := @stops_of_separated .object _ _ hrear more
  have hmember {name : List Char} {r' : ρ} {rest : List UInt8}
      (hname : bodyText? m.key = some name) :=
    @readMember_iff _ _ hf m name seen r r' gap gap' (rear ++ more) rest hname hvalue hgap hgap'
      hstops
  refine ⟨rear, hrear, fun result => ?_⟩
  rw [readMembers_eq, hnext, hmid]
  constructor
  · intro hread
    split at hread
    · contradiction
    · rename_i hkeyread
      obtain ⟨_, -, hnone⟩ := map_eq_ok_iff.mp hkeyread
      cases hnone
    · rename_i name after hkeyread
      obtain ⟨_, hstring, hsome⟩ := map_eq_ok_iff.mp hkeyread
      obtain rfl := Option.some.inj hsome
      obtain ⟨rfl, hname⟩ := (string_eq_ok_iff hkey).mp hstring
      split at hread
      · contradiction
      · rename_i r' after hmemberread
        obtain ⟨rfl, hmet, htake⟩ := (hmember hname).mp hmemberread
        exact ⟨_, r', hname, hmet, htake, hread⟩
  · rintro ⟨name, r', hname, hmet, htake, hread⟩
    rw [(string_eq_ok_iff hkey).mpr ⟨rfl, hname⟩]
    simp only [Except.map]
    rw [(hmember hname).mpr ⟨rfl, hmet, htake⟩]
    exact hread

/-- The members are taken one by one. -/
theorem readMembers_iff {seen seen' : List (List Char)} {r v : ρ} {ms : List Member}
    {inner more rest : List UInt8} (hkeys : ∀ m ∈ ms, IsBody m.key)
    (hvalues : ∀ m ∈ ms, IsValue m.value)
    (h : Spaced (separated (ascii '\x7d') seen.isEmpty (ms.map Member.tokens)) inner) :
    s.readMembers seen r (inner ++ more) = .ok ((v, seen'), rest) ↔
      rest = more ∧ s.Leads seen r ms v ∧
        seen' = (ms.filterMap (bodyText? ·.key)).reverse ++ seen := by
  induction ms generalizing seen r inner with
  | nil =>
    obtain ⟨gap, hgap, rfl⟩ := spaced_singleton.mp h
    rw [List.append_assoc, readMembers_eq]
    simp only [List.cons_append, List.nil_append, nextKey?_close hgap, Except.ok.injEq,
      Prod.mk.injEq, leads_nil, List.filterMap_nil, List.reverse_nil]
    exact ⟨fun ⟨⟨hv, hseen⟩, hrest⟩ => ⟨hrest.symm, hv, hseen.symm⟩,
      fun ⟨hrest, hv, hseen⟩ => ⟨⟨hv, hseen.symm⟩, hrest.symm⟩⟩
  | cons m ms ih =>
    obtain ⟨hkey, hkeys⟩ := List.forall_mem_cons.mp hkeys
    obtain ⟨hvalue, hvalues⟩ := List.forall_mem_cons.mp hvalues
    obtain ⟨rear, hrear, hstep⟩ := readMembers_cons hf hkey hvalue h more
    have hmore (name : List Char) (r : ρ) := @ih (name :: seen) r rear hkeys hvalues hrear
    have hnames {name : List Char} (hname : bodyText? m.key = some name) :
        ((m :: ms).filterMap (bodyText? ·.key)).reverse ++ seen =
          (ms.filterMap (bodyText? ·.key)).reverse ++ name :: seen := by
      simp [hname]
    rw [hstep, leads_cons]
    constructor
    · rintro ⟨name, r', hname, hmet, htake, hread⟩
      obtain ⟨hrest, hleads, hseen⟩ := (hmore name r').mp hread
      exact ⟨hrest, ⟨name, r', hname, hmet, htake, hleads⟩, by rw [hseen, hnames hname]⟩
    · rintro ⟨hrest, ⟨name, r', hname, hmet, htake, hleads⟩, hseen⟩
      exact ⟨name, r', hname, hmet, htake,
        (hmore name r').mpr ⟨hrest, hleads, by rw [hseen, hnames hname]⟩⟩

theorem readMember_eq_ok {seen : List (List Char)} {name : List Char} {r r' : ρ}
    {bs rest : List UInt8} (h : s.readMember seen name r bs = .ok (r', rest)) :
    ∃ gap gap' w, Blank gap ∧ Blank gap' ∧ IsValue w ∧
      bs = gap ++ ascii ':' :: (gap' ++ w ++ rest) := by
  simp only [readMember, readValue] at h
  split at h
  · contradiction
  · split at h
    · contradiction
    · rename_i hcolon
      obtain ⟨gap, hgap, rfl⟩ := colon_eq_ok hcolon
      split at h
      · rename_i f hfind
        obtain ⟨gap', w, hgap', hw, -, rfl, -⟩ :=
          (hf f (List.mem_of_find?_eq_some hfind) r).reads h
        exact ⟨gap, gap', w, hgap, hgap', hw, rfl⟩
      · rename_i inner _ _
        cases hskip : skipValue inner with
        | error e => rw [hskip] at h; contradiction
        | ok last =>
          rw [hskip] at h
          obtain ⟨-, rfl⟩ := Prod.mk.inj (Except.ok.inj h)
          obtain ⟨gap', w, hgap', hw, rfl⟩ := skipValue_eq_ok hskip
          exact ⟨gap, gap', w, hgap, hgap', hw, rfl⟩

theorem readMembers_eq_ok {seen seen' : List (List Char)} {r v : ρ} {bs rest : List UInt8}
    (h : s.readMembers seen r bs = .ok ((v, seen'), rest)) :
    ∃ (ms : List Member) (inner : List UInt8), (∀ m ∈ ms, IsBody m.key) ∧
      (∀ m ∈ ms, IsValue m.value) ∧
      Spaced (separated (ascii '\x7d') seen.isEmpty (ms.map Member.tokens)) inner ∧
      bs = inner ++ rest := by
  fun_induction readMembers s seen r bs with
  | case1 => contradiction
  | case2 seen r bs inner hnext =>
    obtain ⟨-, rfl⟩ := Prod.mk.inj (Except.ok.inj h)
    obtain ⟨gap, hgap, rfl⟩ := nextKey?_eq_ok_none hnext
    exact ⟨[], gap ++ [ascii '\x7d'], by simp, by simp, spaced_singleton.mpr ⟨gap, hgap, rfl⟩,
      by simp⟩
  | case3 => contradiction
  | case4 seen r bs key inner hnext r' after hmember ih =>
    obtain ⟨ms, text, hkeys, hvalues, hspaced, rfl⟩ := ih h
    obtain ⟨gap, gap', w, hgap, hgap', hw, rfl⟩ := readMember_eq_ok hf hmember
    obtain ⟨lead, body, hbody, rfl, htokens⟩ := nextKey?_eq_ok_some hnext
    have htext : Spaced ([ascii ':'] :: w :: separated (ascii '\x7d') false (ms.map Member.tokens))
        (gap ++ [ascii ':'] ++ (gap' ++ w ++ text)) :=
      ⟨gap, _, hgap, ⟨gap', text, hgap', hspaced, rfl⟩, rfl⟩
    refine ⟨⟨body, w⟩ :: ms, lead ++ quotedText body ++ (gap ++ [ascii ':'] ++ (gap' ++ w ++ text)),
      List.forall_mem_cons.mpr ⟨hbody, hkeys⟩, List.forall_mem_cons.mpr ⟨hw, hvalues⟩, ?_, by simp⟩
    simpa [separated, Member.tokens] using htokens _ _ htext

end

end Shape

end AdminConsole.Json
