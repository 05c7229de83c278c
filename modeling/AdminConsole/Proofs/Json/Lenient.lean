import AdminConsole.Proofs.Json.Record
import Mathlib.Data.List.Pairwise

/-!
# What does not matter in an object

A lenient record is read from the members of an object that its shape knows. The order of members
says nothing, nor do members with other keys, nor a member whose value is the one that the blank
record has anyway. Nor does a change inside a value, if the value is read alike.
-/

namespace AdminConsole.Json

variable {ρ : Type}

-- ---------------------------------------------------------------------------
-- Values
-- ---------------------------------------------------------------------------

section
variable {α β : Type} {c : Codec α}

def Codec.value? (c : Codec α) (w : List UInt8) : Option α :=
  match c.read w with
  | .ok (a, []) => some a
  | _ => none

theorem Codec.value?_eq_some_iff {w : List UInt8} {a : α} :
    c.value? w = some a ↔ c.read w = .ok (a, []) := by
  rw [value?]
  split
  · rename_i hread
    simp [hread]
  · rename_i hread
    exact iff_of_false nofun (hread a)

theorem Codec.decode_eq_ok_iff {text : List UInt8} {a : α} :
    c.decode text = .ok a ↔ ∃ gap, Blank gap ∧ c.read text = .ok (a, gap) := by
  rw [decode]
  constructor
  · intro h
    split at h
    · contradiction
    · rename_i hread
      split at h
      · rename_i hblank
        obtain rfl := Except.ok.inj h
        exact ⟨_, blank_of_skipBlank hblank, hread⟩
      · contradiction
  · rintro ⟨gap, hgap, hread⟩
    rw [hread]
    dsimp only
    rw [skipBlank_of_blank hgap]

theorem Regular.decode_eq_ok_iff (h : Regular c.read) {w : List UInt8} (hw : IsValue w) {a : α} :
    c.decode w = .ok a ↔ c.value? w = some a := by
  rw [Codec.decode_eq_ok_iff, Codec.value?_eq_some_iff]
  constructor
  · rintro ⟨gap, -, hread⟩
    have halone := @Regular.read_iff _ _ h [] w [] gap a hw Blank.nil
    rw [List.nil_append, List.append_nil] at halone
    exact (halone.mp hread).2
  · exact fun hread => ⟨[], Blank.nil, hread⟩

theorem Codec.orNull_value? {absent : β} {pack : α → β} {unpack : β → α} {w : List UInt8}
    (hw : IsValue w) (hnull : w.head? ≠ some (ascii 'n')) :
    (c.orNull absent pack unpack).value? w = (c.value? w).map pack := by
  ext b
  rw [Codec.value?_eq_some_iff, Option.map_eq_some_iff]
  simp only [Codec.value?_eq_some_iff]
  show (c.iso pack unpack).readOrNull absent w = _ ↔ _
  rw [Codec.readOrNull_alone absent hw hnull]
  exact map_eq_ok_iff

theorem Field.take?_omitting (isOmitted : α → Bool) (key : String) (get : ρ → α) (set : α → ρ → ρ)
    (r : ρ) (w : List UInt8) :
    (Field.omitting isOmitted key c get set).take? r w = (c.value? w).map (set · r) := by
  ext r'
  simp only [Field.take?_eq_some_iff, Option.map_eq_some_iff, Codec.value?_eq_some_iff]
  exact map_eq_ok_iff (f := (set · r))

end

-- ---------------------------------------------------------------------------
-- Texts of objects and lists
-- ---------------------------------------------------------------------------

def IsObject (ms : List Member) (text : List UInt8) : Prop :=
  (∀ m ∈ ms, IsBody m.key) ∧ (∀ m ∈ ms, IsValue m.value) ∧
    ∃ gap inner gap', Blank gap ∧ Blank gap' ∧
      Spaced (separated (ascii '\x7d') true (ms.map Member.tokens)) inner ∧
      text = gap ++ ascii '\x7b' :: inner ++ gap'

def IsList (es : List (List UInt8)) (text : List UInt8) : Prop :=
  (∀ e ∈ es, IsValue e) ∧
    ∃ inner, Spaced (separated (ascii ']') true (es.map ([·]))) inner ∧ text = ascii '[' :: inner

theorem IsList.isValue {es : List (List UInt8)} {w : List UInt8} (h : IsList es w) : IsValue w := by
  obtain ⟨hes, inner, hspaced, rfl⟩ := h
  exact .list hes hspaced

theorem Codec.list_value? {α : Type} {c : Codec α} (hc : Regular c.read) {es : List (List UInt8)}
    {w : List UInt8} (h : IsList es w) : c.list.value? w = es.mapM c.value? := by
  obtain ⟨hes, inner, hspaced, rfl⟩ := h
  have hvalues {as : List α} :
      (es.map c.read = as.map fun a => .ok (a, [])) ↔ es.mapM c.value? = some as := by
    clear hes hspaced
    induction es generalizing as with
    | nil => cases as <;> simp
    | cons e es ih =>
      rw [List.mapM_cons]
      cases as with
      | nil => cases c.value? e <;> cases es.mapM c.value? <;> simp
      | cons a as =>
        simp only [List.map_cons, List.cons.injEq, ih, ← Codec.value?_eq_some_iff]
        cases c.value? e <;> cases es.mapM c.value? <;> simp
  ext as
  rw [Codec.value?_eq_some_iff, list_read_iff hc hes hspaced, hvalues]

theorem Codec.list_value?_congr {α : Type} {c : Codec α} (hc : Regular c.read)
    {front rear : List (List UInt8)} {e e' w w' : List UInt8} {as : List α}
    (h : IsList (front ++ e :: rear) w) (h' : IsList (front ++ e' :: rear) w')
    (he : ∀ a, c.value? e = some a → c.value? e' = some a) (hw : c.list.value? w = some as) :
    c.list.value? w' = some as := by
  rw [list_value? hc h, List.mapM_append, List.mapM_cons] at hw
  rw [list_value? hc h', List.mapM_append, List.mapM_cons]
  cases hvalue : c.value? e with
  | none => cases hfront : front.mapM c.value? <;> simp [hvalue, hfront] at hw
  | some a => rwa [he a hvalue, ← hvalue]

namespace Shape

variable {s : Shape ρ}

theorem decode_object_iff (hs : s.Lawful) {ms : List Member} {text : List UInt8} {v : ρ}
    (h : IsObject ms text) : s.codec.decode text = .ok v ↔ s.Fills ms v := by
  obtain ⟨hkeys, hvalues, gap, inner, gap', hgap, hgap', hspaced, rfl⟩ := h
  have hread {rest : List UInt8} :=
    @read_object_iff _ _ hs.reads ms gap inner gap' rest v hkeys hvalues hspaced hgap
  rw [Codec.decode_eq_ok_iff]
  constructor
  · rintro ⟨rest, -, hok⟩
    exact (hread.mp hok).2
  · exact fun hfills => ⟨gap', hgap', hread.mpr ⟨rfl, hfills⟩⟩

theorem exists_members (hs : s.Lawful) {text : List UInt8} {v : ρ}
    (h : s.codec.decode text = .ok v) (hopen : (skipBlank text).head? = some (ascii '\x7b')) :
    ∃ ms, IsObject ms text := by
  obtain ⟨gap', hgap', hread⟩ := Codec.decode_eq_ok_iff.mp h
  obtain ⟨after, hafter⟩ := List.head?_eq_some_iff.mp hopen
  obtain ⟨gap, hgap, rfl⟩ := exists_gap_of_skipBlank hafter
  have hobject : s.readObject after = .ok (v, gap') := by
    have heq : s.codec.read (gap ++ ascii '\x7b' :: after) = _ := read_eq _
    rw [hafter] at heq
    exact heq.symm.trans hread
  obtain ⟨seen, hmembers, -⟩ := readObject_eq_ok_iff.mp hobject
  obtain ⟨ms, inner, hkeys, hvalues, hspaced, rfl⟩ := readMembers_eq_ok hs.reads hmembers
  exact ⟨ms, hkeys, hvalues, gap, inner, gap', hgap, hgap', hspaced, by simp⟩

theorem decode_ne_ok_of_key (hs : s.Lawful) {ms : List Member} {text : List UInt8}
    (h : IsObject ms text) {m : Member} (hm : m ∈ ms) (hkey : bodyText? m.key = none) (v : ρ) :
    s.codec.decode text ≠ .ok v := by
  rw [Ne, decode_object_iff hs h]
  rintro ⟨⟨hvalue, -, -⟩, -⟩
  have hall {ms : List Member} {r : ρ} (h : ms.foldlM s.take? r = some v) (hm : m ∈ ms) :
      False := by
    induction ms generalizing r with
    | nil => cases hm
    | cons m' ms ih =>
      obtain ⟨r', htake, hrest⟩ := Option.bind_eq_some_iff.mp h
      rcases List.mem_cons.mp hm with rfl | hm
      · obtain ⟨name, hname⟩ := exists_name_of_take? htake
        rw [hkey] at hname
        cases hname
      · exact ih hrest hm
  exact hall hvalue hm

end Shape

-- ---------------------------------------------------------------------------
-- Variations
-- ---------------------------------------------------------------------------

/-- What values are free to do under some keys: which ones say as much as no member of that key, and
which ones may stand in for each other. -/
structure Leeway where
  absent : List (String × (List UInt8 → Prop))
  alike : List (String × (List UInt8 → List UInt8 → Prop))

namespace Shape

def IsUnknown (s : Shape ρ) (m : Member) : Prop := ∀ name ∈ bodyText? m.key, s.knows name = false

/-- The members change in what does not matter: in their order, in members that the shape does not
know, in members that say what is so without them, and in how a value is put. A new member needs a
key that is a text, and none that is there already if the shape knows it. -/
inductive Varies (s : Shape ρ) (free : Leeway) : List Member → List Member → Prop
  | perm {ms ms' : List Member} : ms.Perm ms' → Varies s free ms ms'
  | insert {m : Member} (ms : List Member) : s.IsUnknown m → (bodyText? m.key).isSome →
      Varies s free ms (m :: ms)
  | remove {m : Member} (ms : List Member) : s.IsUnknown m → Varies s free (m :: ms) ms
  | add {key : String} {IsDefault : List UInt8 → Prop} {m : Member} {ms : List Member} :
      (key, IsDefault) ∈ free.absent → bodyText? m.key = some key.toList → IsDefault m.value →
      (∀ m' ∈ ms, bodyText? m'.key ≠ some key.toList) → Varies s free ms (m :: ms)
  | drop {key : String} {IsDefault : List UInt8 → Prop} {m : Member} (ms : List Member) :
      (key, IsDefault) ∈ free.absent → bodyText? m.key = some key.toList → IsDefault m.value →
      Varies s free (m :: ms) ms
  | alike {key : String} {Alike : List UInt8 → List UInt8 → Prop} {m : Member} {w : List UInt8}
      (ms : List Member) : (key, Alike) ∈ free.alike → bodyText? m.key = some key.toList →
      Alike m.value w → Varies s free (m :: ms) (⟨m.key, w⟩ :: ms)
  | trans {ms ms' ms'' : List Member} : Varies s free ms ms' → Varies s free ms' ms'' →
      Varies s free ms ms''

end Shape

def Field.Commutes (f g : Field ρ) : Prop :=
  ∀ r w w', (f.take? r w).bind (g.take? · w') = (g.take? r w').bind (f.take? · w)

instance : Std.Symm (@Field.Commutes ρ) := ⟨fun _ _ h r w w' => (h r w' w).symm⟩

theorem Field.omitting_commutes {α β : Type} {c : Codec α} {c' : Codec β} {set : α → ρ → ρ}
    {set' : β → ρ → ρ} (h : ∀ a b r, set a (set' b r) = set' b (set a r))
    (isOmitted : α → Bool) (isOmitted' : β → Bool) (key key' : String) (get : ρ → α)
    (get' : ρ → β) :
    (Field.omitting isOmitted key c get set).Commutes (.omitting isOmitted' key' c' get' set') := by
  intro r w w'
  simp only [Field.take?_omitting]
  cases c.value? w <;> cases c'.value? w' <;> simp [h]

namespace Shape

variable {s : Shape ρ} {free : Leeway}

/-- The shape allows the leeway: its readers make nothing of it. -/
structure Allows (s : Shape ρ) (free : Leeway) : Prop where
  lenient : s.isLenient = true
  commutes : s.fields.Pairwise Field.Commutes
  absent : ∀ row ∈ free.absent, ∀ w, row.2 w →
    ∃ f, s.fields.find? (·.key.toList = row.1.toList) = some f ∧ f.take? s.blank w = some s.blank
  alike : ∀ row ∈ free.alike, ∀ w w', row.2 w w' →
    ∃ f, s.fields.find? (·.key.toList = row.1.toList) = some f ∧
      ∀ r r', f.take? r w = some r' → f.take? r w' = some r'

theorem take?_of_find? {m : Member} {name : List Char} {f : Field ρ}
    (hname : bodyText? m.key = some name) (hfind : s.fields.find? (·.key.toList = name) = some f)
    (r : ρ) : s.take? r m = f.take? r m.value := by
  simp only [take?, hname, hfind]

theorem knows_of_find? {name : List Char} {f : Field ρ}
    (h : s.fields.find? (·.key.toList = name) = some f) : s.knows name = true :=
  List.any_eq_true.mpr ⟨f, List.mem_of_find?_eq_some h, @List.find?_some _ _ f _ h⟩

theorem take?_of_not_knows {m : Member} {name : List Char} (hname : bodyText? m.key = some name)
    (h : s.knows name = false) (r : ρ) : s.take? r m = some r := by
  have hfind : s.fields.find? (·.key.toList = name) = none := by
    cases hfind : s.fields.find? (·.key.toList = name) with
    | none => rfl
    | some f => rw [knows_of_find? hfind] at h; cases h
  simp only [take?, hname, hfind]

theorem take?_comm (hs : s.fields.Pairwise Field.Commutes) {m m' : Member}
    (hne : ∀ name, bodyText? m.key = some name → bodyText? m'.key = some name →
      s.knows name = false) (r : ρ) :
    (s.take? r m).bind (s.take? · m') = (s.take? r m').bind (s.take? · m) := by
  cases hname : bodyText? m.key with
  | none => simp [take?, hname]
  | some name =>
    cases hname' : bodyText? m'.key with
    | none => simp [take?, hname']
    | some name' =>
      cases hfind : s.fields.find? (·.key.toList = name) with
      | none => simp [take?, hname, hfind]
      | some f =>
        cases hfind' : s.fields.find? (·.key.toList = name') with
        | none => simp [take?, hname', hfind']
        | some g =>
          have hkey : f.key.toList = name := by simpa using List.find?_some hfind
          have hkey' : g.key.toList = name' := by simpa using List.find?_some hfind'
          have hfg : f ≠ g := by
            rintro rfl
            obtain rfl : name = name' := hkey.symm.trans hkey'
            have hknown := knows_of_find? hfind
            rw [hne name hname hname'] at hknown
            cases hknown
          have hcommutes : f.Commutes g :=
            hs.forall (List.mem_of_find?_eq_some hfind) (List.mem_of_find?_eq_some hfind') hfg
          simp only [take?_of_find? hname hfind, take?_of_find? hname' hfind']
          exact hcommutes r m.value m'.value

theorem knownNames_perm {ms ms' : List Member} (h : ms.Perm ms') :
    (s.knownNames ms).Perm (s.knownNames ms') :=
  (h.filterMap _).filter _

-- By induction on how the order came about. Only where two neighbours are swapped is there
-- something to show, and they cannot be members of one field, since none stands twice.
theorem foldlM_perm (hs : s.fields.Pairwise Field.Commutes) {ms ms' : List Member}
    (h : ms.Perm ms') (hnodup : (s.knownNames ms).Nodup) (r : ρ) :
    ms.foldlM s.take? r = ms'.foldlM s.take? r := by
  induction h generalizing r with
  | nil => rfl
  | cons m hperm ih =>
    have htail : (s.knownNames _).Nodup :=
      hnodup.sublist (((List.sublist_cons_self m _).filterMap _).filter _)
    simp only [List.foldlM_cons, ih htail]
  | swap m m' ms =>
    have hne : ∀ name, bodyText? m'.key = some name → bodyText? m.key = some name →
        s.knows name = false := by
      intro name hname' hname
      refine Bool.eq_false_iff.mpr fun hknown => ?_
      rw [knownNames_cons hname', knownNames_cons hname, if_pos hknown, if_pos hknown] at hnodup
      exact (List.nodup_cons.mp hnodup).1 List.mem_cons_self
    have hcomm := take?_comm hs hne r
    show (s.take? r m').bind (fun r => (s.take? r m).bind _) =
      (s.take? r m).bind (fun r => (s.take? r m').bind _)
    rw [← Option.bind_assoc, hcomm, Option.bind_assoc]
  | trans hperm _ ih ih' =>
    rw [ih hnodup, ih' ((knownNames_perm hperm).nodup_iff.mp hnodup)]

theorem fills_iff (hs : s.isLenient = true) {ms : List Member} {v : ρ} :
    s.Fills ms v ↔ ms.foldlM s.take? s.blank = some v ∧ (s.knownNames ms).Nodup := by
  rw [Fills, missing?, if_pos hs, and_iff_left rfl]
  exact ⟨fun h => ⟨h.value, h.nodup⟩, fun h => ⟨h.1, h.2, nofun⟩⟩

theorem decode_empty (hs : s.Lawful) (hlenient : s.isLenient = true) {text : List UInt8}
    (h : IsObject [] text) : s.codec.decode text = .ok s.blank :=
  (decode_object_iff hs h).mpr ((fills_iff hlenient).mpr ⟨rfl, List.nodup_nil⟩)

theorem fills_cons_unknown (hs : s.isLenient = true) {m : Member} {ms : List Member} {v : ρ}
    {name : List Char} (hname : bodyText? m.key = some name) (h : s.IsUnknown m) :
    s.Fills (m :: ms) v ↔ s.Fills ms v := by
  have hunknown : s.knows name = false := h name hname
  simp only [fills_iff hs, knownNames_cons hname, hunknown, List.foldlM_cons,
    take?_of_not_knows hname hunknown]
  rfl

theorem fills_cons_default (hs : s.Allows free) {key : String} {IsDefault : List UInt8 → Prop}
    {m : Member} {ms : List Member} {v : ρ} (hrow : (key, IsDefault) ∈ free.absent)
    (hname : bodyText? m.key = some key.toList) (hdefault : IsDefault m.value) :
    s.Fills (m :: ms) v ↔ key.toList ∉ s.knownNames ms ∧ s.Fills ms v := by
  obtain ⟨f, hfind, htake⟩ := hs.absent _ hrow _ hdefault
  simp only [fills_iff hs.lenient, knownNames_cons hname, knows_of_find? hfind, if_true,
    List.nodup_cons, List.foldlM_cons, take?_of_find? hname hfind, htake]
  exact and_left_comm

theorem Varies.fills (hs : s.Allows free) {ms ms' : List Member} (h : s.Varies free ms ms') {v : ρ}
    (hfills : s.Fills ms v) : s.Fills ms' v := by
  induction h with
  | @perm ms ms' hperm =>
    obtain ⟨hvalue, hnodup⟩ := (fills_iff hs.lenient).mp hfills
    refine (fills_iff hs.lenient).mpr ⟨?_, (knownNames_perm hperm).nodup_iff.mp hnodup⟩
    rw [← foldlM_perm hs.commutes hperm hnodup, hvalue]
  | insert ms hunknown htext =>
    obtain ⟨name, hname⟩ := Option.isSome_iff_exists.mp htext
    exact (fills_cons_unknown hs.lenient hname hunknown).mpr hfills
  | remove ms hunknown =>
    -- The key was read, so it is a text.
    obtain ⟨r, htake, -⟩ := Option.bind_eq_some_iff.mp hfills.1.value
    obtain ⟨name, hname⟩ := exists_name_of_take? htake
    exact (fills_cons_unknown hs.lenient hname hunknown).mp hfills
  | @add key _ m ms hrow hname hdefault hnone =>
    refine (fills_cons_default hs hrow hname hdefault).mpr ⟨fun hmem => ?_, hfills⟩
    obtain ⟨m', hm', hname'⟩ := List.mem_filterMap.mp (List.mem_filter.mp hmem).1
    exact hnone m' hm' hname'
  | drop ms hrow hname hdefault => exact ((fills_cons_default hs hrow hname hdefault).mp hfills).2
  | @alike key _ m w ms hrow hname halike =>
    obtain ⟨f, hfind, htake⟩ := hs.alike _ hrow _ _ halike
    have hname' : bodyText? (Member.mk m.key w).key = some key.toList := hname
    obtain ⟨hvalue, hnodup⟩ := (fills_iff hs.lenient).mp hfills
    obtain ⟨r, hfirst, hrest⟩ := Option.bind_eq_some_iff.mp hvalue
    rw [take?_of_find? hname hfind] at hfirst
    refine (fills_iff hs.lenient).mpr ⟨Option.bind_eq_some_iff.mpr ⟨r, ?_, hrest⟩, ?_⟩
    · rw [take?_of_find? hname' hfind]
      exact htake _ _ hfirst
    · rwa [knownNames_cons hname', ← knownNames_cons hname]
  | trans _ _ ih ih' => exact ih' (ih hfills)

/-- So a text of an object decodes as before if its members change in what does not matter. -/
theorem Varies.decode (hs : s.Lawful) (hfree : s.Allows free) {ms ms' : List Member}
    (h : s.Varies free ms ms') {text text' : List UInt8} (htext : IsObject ms text)
    (htext' : IsObject ms' text') {v : ρ} (hread : s.codec.decode text = .ok v) :
    s.codec.decode text' = .ok v :=
  (decode_object_iff hs htext').mpr (h.fills hfree ((decode_object_iff hs htext).mp hread))

section
variable (hs : s.Lawful) {α : Type} {c : Codec α} {isOmitted : α → Bool} {key : String}
  {get : ρ → α} {set : α → ρ → ρ} (i : Nat)
  (hf : s.fields[i]? = some (.omitting isOmitted key c get set))
include hs hf

theorem absent_of {w : List UInt8} {a : α} (hw : c.value? w = some a)
    (hset : set a s.blank = s.blank) :
    ∃ f, s.fields.find? (·.key.toList = key.toList) = some f ∧
      f.take? s.blank w = some s.blank := by
  refine ⟨_, hs.find?_key (List.mem_of_getElem? hf), ?_⟩
  rw [Field.take?_omitting, hw, Option.map_some, hset]

theorem alike_of {w w' : List UInt8} (hw : ∀ a, c.value? w = some a → c.value? w' = some a) :
    ∃ f, s.fields.find? (·.key.toList = key.toList) = some f ∧
      ∀ r r', f.take? r w = some r' → f.take? r w' = some r' := by
  refine ⟨_, hs.find?_key (List.mem_of_getElem? hf), fun r r' htake => ?_⟩
  rw [Field.take?_omitting] at htake ⊢
  obtain ⟨a, hvalue, hset⟩ := Option.map_eq_some_iff.mp htake
  exact Option.map_eq_some_iff.mpr ⟨a, hw a hvalue, hset⟩

end

end Shape

end AdminConsole.Json
