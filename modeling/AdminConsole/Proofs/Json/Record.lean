import AdminConsole.Proofs.Json.Object

/-!
# Reading records

A record is read from an object or from a list of values for its fields. Either way what is read is
told by the parts alone, so the reader of a record is regular if those of its fields are.
-/

namespace AdminConsole.Json

namespace Shape

variable {ρ : Type}

-- ---------------------------------------------------------------------------
-- From a list
-- ---------------------------------------------------------------------------

def takeList? (s : Shape ρ) : ρ → List (Field ρ) → List (List UInt8) → Option ρ
  | r, [], [] => some r
  | _, [], _ :: _ => none
  | r, _ :: _, [] => if s.isLenient then some r else none
  | r, f :: fs, e :: es => (f.take? r e).bind (s.takeList? · fs es)

def readList (s : Shape ρ) (count : Nat) (r : ρ) (fs : List (Field ρ)) (bs : List UInt8) :
    Except Failure (ρ × List UInt8) :=
  match s.readElements count r fs bs with
  | .error e => .error e
  | .ok (r, rest) => (endList rest).map (r, ·)

section
variable {s : Shape ρ}

theorem map_pair_eq_ok_iff {α : Type} {a a' : α} {r : Except Failure (List UInt8)}
    {rest : List UInt8} : r.map (a, ·) = .ok (a', rest) ↔ r = .ok rest ∧ a = a' := by
  cases r with
  | error e => simp [Except.map]
  | ok last => simp [Except.map, and_comm]

theorem endList_item {isFirst : Bool} {e text : List UInt8} {tokens : List (List UInt8)}
    (he : Starts e) (h : Spaced (comma isFirst ++ [e] ++ tokens) text) (more rest : List UInt8) :
    endList (text ++ more) ≠ .ok rest := by
  intro hend
  obtain ⟨gap, hgap, heq⟩ := endList_eq_ok hend
  have hskip := congrArg skipBlank heq
  rw [skipBlank_gap hgap (by decide)] at hskip
  obtain ⟨b, e, rfl, hb⟩ := he
  cases isFirst with
  | true =>
    obtain ⟨gap', rear, hgap', -, rfl⟩ := h
    rw [List.append_assoc, List.append_assoc, List.cons_append,
      skipBlank_gap hgap' (isBlank_of_startsValue hb)] at hskip
    exact ne_of_startsValue hb (by decide) (List.cons.inj hskip).1
  | false =>
    obtain ⟨gap', _, hgap', -, rfl⟩ := h
    rw [List.append_assoc, List.append_assoc, List.cons_append,
      skipBlank_gap hgap' (by decide)] at hskip
    exact absurd (List.cons.inj hskip).1 (by decide)

theorem readList_nil (count : Nat) (r : ρ) (bs : List UInt8) :
    s.readList count r [] bs = (endList bs).map (r, ·) := rfl

theorem readList_cons (count : Nat) (r : ρ) (f : Field ρ) (fs : List (Field ρ))
    {bs rest : List UInt8} (h : nextElement? (count == 0) bs = .ok (true, rest)) :
    s.readList count r (f :: fs) bs =
      match f.read r rest with
      | .error e => .error e
      | .ok (r, rest) => s.readList (count + 1) r fs rest := by
  rw [readList, readElements, h]
  dsimp only
  cases f.read r rest <;> rfl

theorem readList_close (count : Nat) (r : ρ) (f : Field ρ) (fs : List (Field ρ)) {gap : List UInt8}
    (hgap : Blank gap) (more rest : List UInt8) (v : ρ) :
    s.readList count r (f :: fs) (gap ++ ascii ']' :: more) = .ok (v, rest) ↔
      rest = more ∧ s.isLenient = true ∧ r = v := by
  have hclose : endList (ascii ']' :: more) = .ok more := endList_close Blank.nil more
  rw [readList, readElements, nextElement?_close hgap]
  dsimp only
  cases s.isLenient with
  | true =>
    simp only [if_true, hclose, map_pair_eq_ok_iff, Except.ok.injEq, true_and]
    exact and_congr_left fun _ => eq_comm
  | false => simp

theorem readList_iff {fs : List (Field ρ)} (hf : ∀ f ∈ fs, ∀ r, Regular (f.read r)) {count : Nat}
    {r v : ρ} {es : List (List UInt8)} {inner more rest : List UInt8} (hes : ∀ e ∈ es, IsValue e)
    (h : Spaced (separated (ascii ']') (count == 0) (es.map ([·]))) inner) :
    s.readList count r fs (inner ++ more) = .ok (v, rest) ↔
      rest = more ∧ s.takeList? r fs es = some v := by
  induction fs generalizing count r es inner with
  | nil =>
    rw [readList_nil, map_pair_eq_ok_iff]
    cases es with
    | nil =>
      obtain ⟨gap, hgap, rfl⟩ := spaced_singleton.mp h
      rw [List.append_assoc]
      simp only [List.cons_append, List.nil_append, endList_close hgap, Except.ok.injEq, takeList?,
        Option.some.injEq]
      exact and_congr_left fun _ => eq_comm
    | cons e es =>
      have he := (hes e List.mem_cons_self).passes.starts
      exact iff_of_false (fun hread => endList_item he h more rest hread.1) nofun
  | cons f fs ih =>
    obtain ⟨hfirst, hfs⟩ := List.forall_mem_cons.mp hf
    cases es with
    | nil =>
      obtain ⟨gap, hgap, rfl⟩ := spaced_singleton.mp h
      rw [List.append_assoc]
      refine (readList_close count r f fs hgap more rest v).trans (and_congr_right fun _ => ?_)
      simp only [takeList?]
      split <;> simp_all
    | cons e es =>
      obtain ⟨he, hes⟩ := List.forall_mem_cons.mp hes
      obtain ⟨rear, hrear, hnext⟩ :=
        @nextElement?_element (count == 0) e inner more _ he.passes.starts h
      have halone {r' : ρ} {rest : List UInt8} : f.read r (e ++ (rear ++ more)) = .ok (r', rest) ↔
          rest = rear ++ more ∧ f.read r e = .ok (r', []) := (hfirst r).read_iff he Blank.nil
      have hrear' : Spaced (separated (ascii ']') (count + 1 == 0) (es.map ([·]))) rear := hrear
      rw [readList_cons count r f fs hnext, takeList?]
      constructor
      · intro hread
        split at hread
        · contradiction
        · rename_i r' after htaken
          obtain ⟨rfl, hvalue⟩ := halone.mp htaken
          rw [Field.take?_eq_some_iff.mpr hvalue]
          exact (ih hfs hes hrear').mp hread
      · rintro ⟨hrest, htake⟩
        obtain ⟨r', hvalue, htakes⟩ := Option.bind_eq_some_iff.mp htake
        rw [halone.mpr ⟨rfl, Field.take?_eq_some_iff.mp hvalue⟩]
        exact (ih hfs hes hrear').mpr ⟨hrest, htakes⟩

theorem readList_eq_ok {fs : List (Field ρ)} (hf : ∀ f ∈ fs, ∀ r, Regular (f.read r)) {count : Nat}
    {r v : ρ} {bs rest : List UInt8} (h : s.readList count r fs bs = .ok (v, rest)) :
    ∃ (es : List (List UInt8)) (inner : List UInt8), (∀ e ∈ es, IsValue e) ∧
      Spaced (separated (ascii ']') (count == 0) (es.map ([·]))) inner ∧ bs = inner ++ rest := by
  induction fs generalizing count r bs with
  | nil =>
    obtain ⟨hend, -⟩ := map_pair_eq_ok_iff.mp (readList_nil count r bs ▸ h)
    obtain ⟨gap, hgap, rfl⟩ := endList_eq_ok hend
    exact ⟨[], gap ++ [ascii ']'], by simp, spaced_singleton.mpr ⟨gap, hgap, rfl⟩, by simp⟩
  | cons f fs ih =>
    obtain ⟨hfirst, hfs⟩ := List.forall_mem_cons.mp hf
    cases hnext : nextElement? (count == 0) bs with
    | error e =>
      rw [readList, readElements, hnext] at h
      contradiction
    | ok p =>
      obtain ⟨more, after⟩ := p
      cases more with
      | false =>
        obtain ⟨gap, last, hgap, rfl, rfl⟩ := nextElement?_eq_ok_false hnext
        obtain ⟨rfl, -⟩ := (readList_close count r f fs hgap last rest v).mp h
        exact ⟨[], gap ++ [ascii ']'], by simp, spaced_singleton.mpr ⟨gap, hgap, rfl⟩, by simp⟩
      | true =>
        rw [readList_cons count r f fs hnext] at h
        split at h
        · contradiction
        · rename_i r' last hread
          obtain ⟨es, inner, hes, hspaced, rfl⟩ := ih hfs h
          obtain ⟨gap, e, hgap, he, -, rfl, -⟩ := (hfirst r).reads hread
          obtain ⟨lead, rfl, hitem⟩ := nextElement?_eq_ok_true hnext
          exact ⟨e :: es, _, List.forall_mem_cons.mpr ⟨he, hes⟩, hitem e _ gap inner hgap hspaced,
            by simp⟩

-- ---------------------------------------------------------------------------
-- From either form
-- ---------------------------------------------------------------------------

/-- The members make a record: they lead to it from the blank one, and a strict record gets all of
its fields. -/
def Fills (s : Shape ρ) (ms : List Member) (v : ρ) : Prop :=
  s.Leads [] s.blank ms v ∧ s.missing? (ms.filterMap (bodyText? ·.key)).reverse = none

def readObject (s : Shape ρ) (bs : List UInt8) : Except Failure (ρ × List UInt8) :=
  match s.readMembers [] s.blank bs with
  | .error e => .error e
  | .ok ((r, seen), rest) =>
    match s.missing? seen with
    | some key => .error ⟨.missingField key, rest⟩
    | none => .ok (r, rest)

theorem read_eq (bs : List UInt8) :
    s.read bs =
      match skipBlank bs with
      | [] => .error ⟨.endOf .value, []⟩
      | b :: rest =>
        if b = ascii '[' then s.readList 0 s.blank s.fields rest
        else if b = ascii '\x7b' then s.readObject rest
        else .error (mismatch ("struct " ++ s.name) b rest) := rfl

theorem readObject_eq_ok_iff {bs rest : List UInt8} {v : ρ} :
    s.readObject bs = .ok (v, rest) ↔
      ∃ seen, s.readMembers [] s.blank bs = .ok ((v, seen), rest) ∧ s.missing? seen = none := by
  rw [readObject]
  constructor
  · intro h
    split at h
    · contradiction
    · rename_i hread
      split at h
      · contradiction
      · rename_i hmissing
        obtain ⟨rfl, rfl⟩ := Prod.mk.inj (Except.ok.inj h)
        exact ⟨_, hread, hmissing⟩
  · rintro ⟨seen, hread, hmissing⟩
    rw [hread]
    dsimp only
    rw [hmissing]

variable (hf : ∀ f ∈ s.fields, ∀ r, Regular (f.read r))
include hf

theorem readObject_iff {ms : List Member} {inner more rest : List UInt8} {v : ρ}
    (hkeys : ∀ m ∈ ms, IsBody m.key) (hvalues : ∀ m ∈ ms, IsValue m.value)
    (h : Spaced (separated (ascii '\x7d') true (ms.map Member.tokens)) inner) :
    s.readObject (inner ++ more) = .ok (v, rest) ↔ rest = more ∧ s.Fills ms v := by
  have hmembers {seen : List (List Char)} :=
    @readMembers_iff _ _ hf [] seen s.blank v ms inner more rest hkeys hvalues h
  rw [readObject_eq_ok_iff]
  constructor
  · rintro ⟨seen, hread, hmissing⟩
    obtain ⟨hrest, hleads, rfl⟩ := hmembers.mp hread
    rw [List.append_nil] at hmissing
    exact ⟨hrest, hleads, hmissing⟩
  · rintro ⟨hrest, hleads, hmissing⟩
    exact ⟨_, hmembers.mpr ⟨hrest, hleads, rfl⟩, by rw [List.append_nil, hmissing]⟩

/-- A record is read from an object as its members say. -/
theorem read_object_iff {ms : List Member} {gap inner more rest : List UInt8} {v : ρ}
    (hkeys : ∀ m ∈ ms, IsBody m.key) (hvalues : ∀ m ∈ ms, IsValue m.value)
    (h : Spaced (separated (ascii '\x7d') true (ms.map Member.tokens)) inner) (hgap : Blank gap) :
    s.read (gap ++ ascii '\x7b' :: inner ++ more) = .ok (v, rest) ↔ rest = more ∧ s.Fills ms v := by
  rw [read_eq, skipBlank_value (.object hkeys hvalues h) hgap]
  exact readObject_iff hf hkeys hvalues h

theorem read_regular : Regular s.read := by
  refine Regular.of_skipBlank read_eq fun {b bs v rest} h => ?_
  split at h
  · rename_i hopening
    subst hopening
    obtain ⟨es, inner, hes, hspaced, rfl⟩ := readList_eq_ok hf h
    have htake := ((readList_iff hf hes hspaced).mp h).2
    refine ⟨inner, .list hes hspaced, not_isNumber_cons (by decide) (by decide), rfl,
      fun more => ?_⟩
    rw [if_pos rfl]
    exact (readList_iff hf hes hspaced).mpr ⟨rfl, htake⟩
  · rename_i hlist
    split at h
    · rename_i hopening
      subst hopening
      obtain ⟨seen, hread, -⟩ := readObject_eq_ok_iff.mp h
      obtain ⟨ms, inner, hkeys, hvalues, hspaced, rfl⟩ := readMembers_eq_ok hf hread
      have hfills := ((readObject_iff hf hkeys hvalues hspaced).mp h).2
      refine ⟨inner, .object hkeys hvalues hspaced, not_isNumber_cons (by decide) (by decide), rfl,
        fun more => ?_⟩
      rw [if_neg hlist, if_pos rfl]
      exact (readObject_iff hf hkeys hvalues hspaced).mpr ⟨rfl, hfills⟩
    · contradiction

end

end Shape

structure Shape.Lawful {ρ : Type} (s : Shape ρ) : Prop where
  reads : ∀ f ∈ s.fields, ∀ r, Regular (f.read r)
  keys : (s.fields.map (·.key)).Nodup

namespace Shape.Lawful

variable {ρ : Type} {s : Shape ρ}

theorem regular (h : s.Lawful) : Regular s.codec.read := read_regular h.reads

theorem find?_key (h : s.Lawful) {f : Field ρ} (hf : f ∈ s.fields) :
    s.fields.find? (·.key.toList = f.key.toList) = some f := by
  have hkeys := h.keys
  generalize s.fields = fs at hf hkeys
  induction fs with
  | nil => cases hf
  | cons g fs ih =>
    obtain ⟨hg, hfs⟩ := List.nodup_cons.mp hkeys
    rcases List.mem_cons.mp hf with rfl | hf
    · simp
    · have hne : g.key.toList ≠ f.key.toList := fun heq =>
        hg (List.mem_map.mpr ⟨f, hf, (String.toList_inj.mp heq).symm⟩)
      rw [List.find?_cons_of_neg (by simpa using hne), ih hf hfs]

end Shape.Lawful

theorem Field.omitting_regular {ρ α : Type} {c : Codec α} (h : Regular c.read)
    {isOmitted : α → Bool} {key : String} {get : ρ → α} {set : α → ρ → ρ} (r : ρ) :
    Regular ((Field.omitting isOmitted key c get set).read r) :=
  h.map (set · r)

theorem Field.of_regular {ρ α : Type} {c : Codec α} (h : Regular c.read) {key : String}
    {get : ρ → α} {set : α → ρ → ρ} : ∀ r, Regular ((Field.of key c get set).read r) :=
  Field.omitting_regular h

end AdminConsole.Json
