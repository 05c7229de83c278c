import AdminConsole.Proofs.Json.Scan

/-!
# Passing over a value

What is passed over is a value of the grammar, and every value is passed over. The open brackets are
a list, so both directions speak of what is left behind a value up to the end of the outermost
bracket, and follow the brackets from the inside.
-/

namespace AdminConsole.Json

def startsValue (b : UInt8) : Bool :=
  (['n', 't', 'f', '"', '-', '[', '\x7b'].map ascii).contains b || isDigit b

theorem ne_of_startsValue {b c : UInt8} (h : startsValue b = true) (hc : startsValue c = false) :
    b ≠ c := by
  rintro rfl
  rw [h] at hc
  cases hc

theorem isBlank_of_startsValue {b : UInt8} (h : startsValue b = true) : isBlank b = false := by
  have hspace := ne_of_startsValue h (by decide : startsValue (ascii ' ') = false)
  have hline := ne_of_startsValue h (by decide : startsValue (ascii '\n') = false)
  have htab := ne_of_startsValue h (by decide : startsValue (ascii '\t') = false)
  have hreturn := ne_of_startsValue h (by decide : startsValue (ascii '\r') = false)
  simp [isBlank, hspace, hline, htab, hreturn]

-- ---------------------------------------------------------------------------
-- Scalars
-- ---------------------------------------------------------------------------

theorem IsUnsigned.head {w : List UInt8} (h : IsUnsigned w) : ∃ d ds, w = d :: ds ∧ isDigit d := by
  obtain ⟨whole, fraction, exponent, ⟨⟨hne, hdigits⟩, -⟩, -, -, rfl⟩ := h
  obtain ⟨d, ds, rfl⟩ := List.exists_cons_of_ne_nil hne
  exact ⟨d, _, rfl, hdigits d List.mem_cons_self⟩

theorem opening?_of_isDigit {d : UInt8} (h : isDigit d = true) : Frame.opening? d = none := by
  have hlist : d ≠ ascii '[' := by rintro rfl; exact absurd h (by decide)
  have hobject : d ≠ ascii '\x7b' := by rintro rfl; exact absurd h (by decide)
  rw [Frame.opening?, if_neg hlist, if_neg hobject]

theorem skipScalar_digit {d : UInt8} (h : isDigit d = true) (bs : List UInt8) :
    skipScalar d bs = (unsignedNumber .invalidNumber (d :: bs)).map (·.2) := by
  have hne {c : Char} (hc : isDigit (ascii c) = false) : d ≠ ascii c := by
    rintro rfl
    rw [h] at hc
    cases hc
  rw [skipScalar, if_neg (hne (by decide)), if_neg (hne (by decide)), if_neg (hne (by decide)),
    if_neg (hne (by decide)), if_neg (hne (by decide)), if_pos h]

theorem skipScalar_of_isScalar {w more : List UInt8} (h : IsScalar w)
    (hmore : IsNumber w → Stops more) :
    ∃ b rest, w = b :: rest ∧ startsValue b = true ∧ Frame.opening? b = none ∧
      skipScalar b (rest ++ more) = .ok more := by
  cases h with
  | word hword =>
    simp only [List.map_cons, List.map_nil, List.mem_cons, List.not_mem_nil, or_false] at hword
    rcases hword with rfl | rfl | rfl
    · exact ⟨_, _, rfl, by decide, by decide, literal_eq_ok_iff.mpr rfl⟩
    · exact ⟨_, _, rfl, by decide, by decide, literal_eq_ok_iff.mpr rfl⟩
    · exact ⟨_, _, rfl, by decide, by decide, literal_eq_ok_iff.mpr rfl⟩
  | @string body hbody =>
    refine ⟨ascii '"', body ++ [ascii '"'], rfl, by decide, by decide, ?_⟩
    have hskip := skipString_of_isBody hbody more
    rw [List.append_assoc]
    exact hskip
  | number hnumber =>
    rcases hnumber with hunsigned | ⟨v, hunsigned, rfl⟩
    · obtain ⟨n, htaken⟩ := unsignedNumber_append .invalidNumber hunsigned (hmore (.inl hunsigned))
      obtain ⟨d, ds, rfl, hd⟩ := hunsigned.head
      refine ⟨d, ds, rfl, by simp [startsValue, hd], opening?_of_isDigit hd, ?_⟩
      rw [skipScalar_digit hd, ← List.cons_append, htaken]
      rfl
    · obtain ⟨n, htaken⟩ :=
        unsignedNumber_append .invalidNumber hunsigned (hmore (.inr ⟨v, hunsigned, rfl⟩))
      refine ⟨_, v, rfl, by decide, by decide, ?_⟩
      change (unsignedNumber .invalidNumber (v ++ more)).map (·.2) = .ok more
      rw [htaken]
      rfl

theorem skipScalar_eq_ok {b : UInt8} {bs rest : List UInt8} (h : skipScalar b bs = .ok rest) :
    ∃ w, IsScalar (b :: w) ∧ bs = w ++ rest := by
  simp only [skipScalar] at h
  have hnumber {cs : List UInt8} (h : (unsignedNumber .invalidNumber cs).map (·.2) = .ok rest) :
      ∃ w, IsUnsigned w ∧ cs = w ++ rest := by
    cases hread : unsignedNumber .invalidNumber cs with
    | error e => rw [hread] at h; contradiction
    | ok p =>
      rw [hread] at h
      obtain rfl := Except.ok.inj h
      exact unsignedNumber_eq_ok hread
  have hword {cs : List Char} {c : Char} (h : literal cs bs = .ok rest)
      (hmem : c :: cs ∈ ["null", "true", "false"].map String.toList) :
      ∃ w, IsScalar (ascii c :: w) ∧ bs = w ++ rest :=
    ⟨_, .word hmem, literal_eq_ok_iff.mp h⟩
  split at h
  · subst b; exact hword h (by decide)
  · split at h
    · subst b; exact hword h (by decide)
    · split at h
      · subst b; exact hword h (by decide)
      · split at h
        · subst b
          obtain ⟨body, hbody, rfl⟩ := skipString_eq_ok h
          exact ⟨_, .string hbody, by simp⟩
        · split at h
          · subst b
            obtain ⟨w, hw, rfl⟩ := hnumber h
            exact ⟨w, .number (.inr ⟨w, hw, rfl⟩), rfl⟩
          · split at h
            · obtain ⟨w, hw, hbs⟩ := hnumber h
              obtain ⟨d, ds, rfl, -⟩ := hw.head
              obtain ⟨rfl, rfl⟩ := List.cons.inj hbs
              exact ⟨ds, .number (.inl hw), rfl⟩
            · contradiction

-- ---------------------------------------------------------------------------
-- One step
-- ---------------------------------------------------------------------------

def resume (stack : List Frame) (bs : List UInt8) : Except Failure (List UInt8) :=
  match onward stack bs with
  | .error e => .error e
  | .ok ([], rest) => .ok rest
  | .ok (frame :: outer, rest) => skipFrom (frame :: outer) rest

theorem resume_nil (bs : List UInt8) : resume [] bs = .ok bs := rfl

def Frame.opening : Frame → UInt8
  | .list => ascii '['
  | .object => ascii '\x7b'

theorem skipFrom_eq (stack : List Frame) (bs : List UInt8) :
    skipFrom stack bs =
      match advance stack bs with
      | .error e => .error e
      | .ok ([], rest) => .ok rest
      | .ok (frame :: outer, rest) => skipFrom (frame :: outer) rest := by
  rw [skipFrom.eq_def]
  split <;> simp_all

theorem skipFrom_of_advance {stack : List Frame} {bs rest : List UInt8}
    (h : advance stack bs = onward stack rest) : skipFrom stack bs = resume stack rest := by
  rw [skipFrom_eq, h, resume]

theorem advance_scalar {b : UInt8} {gap bs rest : List UInt8} (hgap : Blank gap)
    (hb : isBlank b = false) (hopening : Frame.opening? b = none) (h : skipScalar b bs = .ok rest)
    (stack : List Frame) : advance stack (gap ++ b :: bs) = onward stack rest := by
  simp only [advance, skipBlank_gap hgap hb, hopening, h]

theorem opening?_opening (frame : Frame) : Frame.opening? frame.opening = some frame := by
  cases frame <;> rfl

theorem isBlank_opening (frame : Frame) : isBlank frame.opening = false := by
  cases frame <;> rfl

theorem isBlank_close (frame : Frame) : isBlank frame.close = false := by
  cases frame <;> rfl

theorem advance_empty {gap gap' : List UInt8} (hgap : Blank gap) (hgap' : Blank gap')
    (frame : Frame) (stack : List Frame) (rest : List UInt8) :
    advance stack (gap ++ frame.opening :: gap' ++ frame.close :: rest) = onward stack rest := by
  rw [List.append_assoc, List.cons_append]
  simp only [advance, skipBlank_gap hgap (isBlank_opening frame), opening?_opening,
    skipBlank_gap hgap' (isBlank_close frame), if_true]

theorem skipFrom_enter {gap gap' bs rest : List UInt8} {c : UInt8} (hgap : Blank gap)
    (hgap' : Blank gap') (hc : isBlank c = false) {frame : Frame} (hclose : c ≠ frame.close)
    {stack : List Frame} (h : enter (frame :: stack) (c :: bs) = .ok rest) :
    skipFrom stack (gap ++ frame.opening :: gap' ++ c :: bs) = skipFrom (frame :: stack) rest := by
  rw [List.append_assoc, List.cons_append, skipFrom_eq]
  simp only [advance, skipBlank_gap hgap (isBlank_opening frame), opening?_opening,
    skipBlank_gap hgap' hc, hclose, if_false, h, Except.map]

theorem resume_close {gap : List UInt8} (hgap : Blank gap) (frame : Frame) (outer : List Frame)
    (rest : List UInt8) :
    resume (frame :: outer) (gap ++ frame.close :: rest) = resume outer rest := by
  have hcomma : frame.close ≠ ascii ',' := by cases frame <;> decide
  simp only [resume, onward, settle, skipBlank_gap hgap (isBlank_close frame), hcomma, if_false,
    if_true]

theorem resume_comma {gap bs rest : List UInt8} (hgap : Blank gap) {frame : Frame}
    {outer : List Frame} (h : enter (frame :: outer) bs = .ok rest) :
    resume (frame :: outer) (gap ++ ascii ',' :: bs) = skipFrom (frame :: outer) rest := by
  simp only [resume, onward, settle, skipBlank_gap hgap (by decide : isBlank (ascii ',') = false),
    if_true, h, Except.map]

-- ---------------------------------------------------------------------------
-- Items
-- ---------------------------------------------------------------------------

inductive Frame.IsItem (P : List UInt8 → Prop) : Frame → List (List UInt8) → Prop
  | element {e : List UInt8} : P e → IsItem P .list [e]
  | member {m : Member} : IsBody m.key → P m.value → IsItem P .object m.tokens

def Starts (w : List UInt8) : Prop := ∃ b rest, w = b :: rest ∧ startsValue b = true

theorem skipKey_append {body gap gap' : List UInt8} (hbody : IsBody body) (hgap : Blank gap)
    (hgap' : Blank gap') (rest : List UInt8) :
    skipKey (gap ++ quotedText body ++ gap' ++ ascii ':' :: rest) = .ok rest := by
  have hskip := skipString_of_isBody hbody (gap' ++ ascii ':' :: rest)
  simp only [quotedText, List.append_assoc, List.cons_append, List.nil_append, skipKey,
    skipBlank_gap hgap (by decide : isBlank (ascii '"') = false), if_true, hskip,
    skipBlank_gap hgap' (by decide : isBlank (ascii ':') = false)]

theorem Frame.IsItem.enter {P : List UInt8 → Prop} {frame : Frame} {item : List (List UInt8)}
    {text : List UInt8} (h : frame.IsItem P item) (hstarts : ∀ w, P w → Starts w)
    (htext : Spaced item text) :
    ∃ gap c bs, Blank gap ∧ isBlank c = false ∧ c ≠ frame.close ∧ text = gap ++ c :: bs ∧
      ∀ stack lead more, Blank lead → ∃ gap' w, Blank gap' ∧ P w ∧
        Json.enter (frame :: stack) (lead ++ c :: bs ++ more) = .ok (gap' ++ w ++ more) := by
  cases h with
  | @element e he =>
    obtain ⟨gap, hgap, rfl⟩ := spaced_singleton.mp htext
    obtain ⟨c, bs, rfl, hc⟩ := hstarts e he
    exact ⟨gap, c, bs, hgap, isBlank_of_startsValue hc, ne_of_startsValue hc (by decide), rfl,
      fun _ lead _ hlead => ⟨lead, c :: bs, hlead, he, rfl⟩⟩
  | @member m hkey hvalue =>
    obtain ⟨gap, _, hgap, ⟨gap', _, hgap', ⟨gap'', _, hgap'', rfl, rfl⟩, rfl⟩, rfl⟩ := htext
    refine ⟨gap, ascii '"', m.key ++ [ascii '"'] ++ (gap' ++ [ascii ':'] ++ (gap'' ++ m.value)),
      hgap, by decide, by decide, by simp [quotedText], fun stack lead more hlead => ?_⟩
    have hskip := skipKey_append hkey hlead hgap' (gap'' ++ m.value ++ more)
    exact ⟨gap'', m.value, hgap'', hvalue, by simpa [Json.enter, quotedText] using hskip⟩

theorem stops_of_separated {frame : Frame} {items : List (List (List UInt8))} {text : List UInt8}
    (h : Spaced (separated frame.close false items) text) (more : List UInt8) :
    Stops (text ++ more) := by
  have hgap {gap : List UInt8} {b : UInt8} (bs : List UInt8) (hgap : Blank gap)
      (hb : b = ascii ',' ∨ b = frame.close) : Stops (gap ++ b :: bs) := by
    intro c hc
    cases gap with
    | nil =>
      obtain rfl : b = c := by simpa using hc
      rcases hb with rfl | rfl
      · decide
      · cases frame <;> decide
    | cons c' gap =>
      obtain rfl : c' = c := by simpa using hc
      have hblank := hgap c' List.mem_cons_self
      simp only [isBlank, Bool.or_eq_true, decide_eq_true_eq] at hblank
      rcases hblank with ((rfl | rfl) | rfl) | rfl <;> decide
  cases items with
  | nil =>
    obtain ⟨gap, hblank, rfl⟩ := spaced_singleton.mp h
    rw [List.append_assoc]
    exact hgap _ hblank (.inr rfl)
  | cons item items =>
    obtain ⟨gap, rest, hblank, -, rfl⟩ := h
    rw [List.append_assoc, List.append_assoc]
    exact hgap _ hblank (.inl rfl)

-- ---------------------------------------------------------------------------
-- Every value is passed over
-- ---------------------------------------------------------------------------

structure Passes (w : List UInt8) : Prop where
  starts : Starts w
  skips (stack : List Frame) {gap more : List UInt8} : Blank gap → (IsNumber w → Stops more) →
    skipFrom stack (gap ++ w ++ more) = resume stack more

theorem resume_items {frame : Frame} {items : List (List (List UInt8))} {text : List UInt8}
    (h : ∀ item ∈ items, frame.IsItem Passes item)
    (htext : Spaced (separated frame.close false items) text) (outer : List Frame)
    (more : List UInt8) : resume (frame :: outer) (text ++ more) = resume outer more := by
  induction items generalizing text with
  | nil =>
    obtain ⟨gap, hgap, rfl⟩ := spaced_singleton.mp htext
    rw [List.append_assoc]
    exact resume_close hgap frame outer more
  | cons item items ih =>
    obtain ⟨hitem, hitems⟩ := List.forall_mem_cons.mp h
    obtain ⟨gap, _, hgap, hrest, rfl⟩ := htext
    obtain ⟨front, rear, hfront, hrear, rfl⟩ := spaced_append.mp hrest
    obtain ⟨gap', c, bs, hgap', -, -, rfl, henter⟩ := hitem.enter (fun _ => Passes.starts) hfront
    obtain ⟨gap'', w, hgap'', hw, hentered⟩ := henter outer gap' (rear ++ more) hgap'
    have hstops := stops_of_separated hrear more
    calc resume (frame :: outer) (gap ++ [ascii ','] ++ (gap' ++ c :: bs ++ rear) ++ more)
        = skipFrom (frame :: outer) (gap'' ++ w ++ (rear ++ more)) := by
          rw [← resume_comma hgap hentered]
          simp
      _ = resume (frame :: outer) (rear ++ more) := hw.skips _ hgap'' fun _ => hstops
      _ = resume outer more := ih hitems hrear

theorem skipFrom_bracket {frame : Frame} {items : List (List (List UInt8))}
    {gap inner : List UInt8} (h : ∀ item ∈ items, frame.IsItem Passes item)
    (hinner : Spaced (separated frame.close true items) inner) (hgap : Blank gap)
    (stack : List Frame) (more : List UInt8) :
    skipFrom stack (gap ++ frame.opening :: inner ++ more) = resume stack more := by
  cases items with
  | nil =>
    obtain ⟨gap', hgap', rfl⟩ := spaced_singleton.mp hinner
    refine skipFrom_of_advance ?_
    rw [← advance_empty hgap hgap' frame stack more]
    simp
  | cons item items =>
    obtain ⟨hitem, hitems⟩ := List.forall_mem_cons.mp h
    obtain ⟨front, rear, hfront, hrear, rfl⟩ := spaced_append.mp hinner
    obtain ⟨gap', c, bs, hgap', hc, hclose, rfl, henter⟩ :=
      hitem.enter (fun _ => Passes.starts) hfront
    obtain ⟨gap'', w, hgap'', hw, hentered⟩ := henter stack [] (rear ++ more) Blank.nil
    have hstops := stops_of_separated hrear more
    calc skipFrom stack (gap ++ frame.opening :: (gap' ++ c :: bs ++ rear) ++ more)
        = skipFrom (frame :: stack) (gap'' ++ w ++ (rear ++ more)) := by
          rw [← skipFrom_enter hgap hgap' hc hclose hentered]
          simp
      _ = resume (frame :: stack) (rear ++ more) := hw.skips _ hgap'' fun _ => hstops
      _ = resume stack more := resume_items hitems hrear stack more

theorem IsScalar.passes {w : List UInt8} (h : IsScalar w) : Passes w := by
  constructor
  · obtain ⟨b, rest, rfl, hb, -⟩ := @skipScalar_of_isScalar w [] h fun _ => nofun
    exact ⟨b, rest, rfl, hb⟩
  · intro stack gap more hgap hmore
    obtain ⟨b, rest, rfl, hb, hopening, hskip⟩ := skipScalar_of_isScalar h hmore
    refine skipFrom_of_advance ?_
    rw [List.append_assoc, List.cons_append]
    exact advance_scalar hgap (isBlank_of_startsValue hb) hopening hskip stack

theorem IsValue.passes {w : List UInt8} (h : IsValue w) : Passes w := by
  induction h with
  | scalar h => exact h.passes
  | @list es inner _ hinner ih =>
    refine ⟨⟨_, _, rfl, by decide⟩, fun stack gap more hgap _ => ?_⟩
    have hitems : ∀ item ∈ es.map ([·]), Frame.list.IsItem Passes item :=
      List.forall_mem_map.mpr fun e he => .element (ih e he)
    exact @skipFrom_bracket .list _ gap inner hitems hinner hgap stack more
  | @object ms inner hkeys _ hinner ih =>
    refine ⟨⟨_, _, rfl, by decide⟩, fun stack gap more hgap _ => ?_⟩
    have hitems : ∀ item ∈ ms.map Member.tokens, Frame.object.IsItem Passes item :=
      List.forall_mem_map.mpr fun m hm => .member (hkeys m hm) (ih m hm)
    exact @skipFrom_bracket .object _ gap inner hitems hinner hgap stack more

/-- A value is passed over, and nothing behind it. -/
theorem skipValue_of_isValue {w gap more : List UInt8} (h : IsValue w) (hgap : Blank gap)
    (hmore : IsNumber w → Stops more) : skipValue (gap ++ w ++ more) = .ok more :=
  (h.passes.skips [] hgap hmore).trans (resume_nil more)

-- ---------------------------------------------------------------------------
-- Nothing else is passed over
-- ---------------------------------------------------------------------------

theorem Frame.IsItem.exists_elements {items : List (List (List UInt8))}
    (h : ∀ item ∈ items, Frame.list.IsItem IsValue item) :
    ∃ es : List (List UInt8), items = es.map ([·]) ∧ ∀ e ∈ es, IsValue e := by
  induction items with
  | nil => exact ⟨[], rfl, by simp⟩
  | cons item items ih =>
    obtain ⟨hitem, hitems⟩ := List.forall_mem_cons.mp h
    obtain ⟨es, rfl, hes⟩ := ih hitems
    cases hitem with
    | @element e he => exact ⟨e :: es, rfl, List.forall_mem_cons.mpr ⟨he, hes⟩⟩

theorem Frame.IsItem.exists_members {items : List (List (List UInt8))}
    (h : ∀ item ∈ items, Frame.object.IsItem IsValue item) :
    ∃ ms : List Member, items = ms.map Member.tokens ∧ (∀ m ∈ ms, IsBody m.key) ∧
      ∀ m ∈ ms, IsValue m.value := by
  induction items with
  | nil => exact ⟨[], rfl, by simp, by simp⟩
  | cons item items ih =>
    obtain ⟨hitem, hitems⟩ := List.forall_mem_cons.mp h
    obtain ⟨ms, rfl, hkeys, hvalues⟩ := ih hitems
    cases hitem with
    | @member m hkey hvalue =>
      exact ⟨m :: ms, rfl, List.forall_mem_cons.mpr ⟨hkey, hkeys⟩,
        List.forall_mem_cons.mpr ⟨hvalue, hvalues⟩⟩

theorem isValue_bracket {frame : Frame} {items : List (List (List UInt8))} {inner : List UInt8}
    (h : ∀ item ∈ items, frame.IsItem IsValue item)
    (hinner : Spaced (separated frame.close true items) inner) :
    IsValue (frame.opening :: inner) := by
  cases frame with
  | list =>
    obtain ⟨es, rfl, hes⟩ := Frame.IsItem.exists_elements h
    exact .list hes hinner
  | object =>
    obtain ⟨ms, rfl, hkeys, hvalues⟩ := Frame.IsItem.exists_members h
    exact .object hkeys hvalues hinner

inductive Closes : List Frame → List UInt8 → Prop
  | nil : Closes [] []
  | cons {frame : Frame} {outer : List Frame} {items : List (List (List UInt8))}
      {front rear : List UInt8} : (∀ item ∈ items, frame.IsItem IsValue item) →
      Spaced (separated frame.close false items) front → Closes outer rear →
      Closes (frame :: outer) (front ++ rear)

theorem enter_eq_ok {frame : Frame} {outer : List Frame} {bs rest : List UInt8}
    (h : enter (frame :: outer) bs = .ok rest) :
    ∃ lead, bs = lead ++ rest ∧ ∀ gap gap' w, Blank gap → Blank gap' → IsValue w →
      ∃ item, frame.IsItem IsValue item ∧ Spaced item (gap ++ lead ++ gap' ++ w) := by
  cases frame with
  | list =>
    obtain rfl := Except.ok.inj h
    refine ⟨[], rfl, fun gap gap' w hgap hgap' hw => ⟨[w], .element hw, ?_⟩⟩
    rw [List.append_nil]
    exact spaced_singleton.mpr ⟨_, hgap.append hgap', rfl⟩
  | object =>
    simp only [enter, skipKey] at h
    split at h
    · contradiction
    · rename_i b after hb
      split at h
      · rename_i hquote
        split at h
        · contradiction
        · rename_i inner hstring
          split at h
          · contradiction
          · rename_i c last hc
            split at h
            · rename_i hcolon
              obtain rfl := Except.ok.inj h
              obtain ⟨gap₁, hgap₁, rfl⟩ := exists_gap_of_skipBlank hb
              obtain ⟨body, hbody, rfl⟩ := skipString_eq_ok hstring
              obtain ⟨gap₂, hgap₂, rfl⟩ := exists_gap_of_skipBlank hc
              subst hquote hcolon
              refine ⟨gap₁ ++ quotedText body ++ gap₂ ++ [ascii ':'], by simp [quotedText],
                fun gap gap' w hgap hgap' hw => ⟨(Member.mk body w).tokens, .member hbody hw, ?_⟩⟩
              exact ⟨gap ++ gap₁, _, hgap.append hgap₁,
                ⟨gap₂, _, hgap₂, ⟨gap', _, hgap', rfl, rfl⟩, rfl⟩, by simp [List.append_assoc]⟩
            · contradiction
      · contradiction

def Continues : List Frame → List UInt8 → Prop
  | [], text => text = []
  | frame :: outer, text =>
    ∃ gap w rear, Blank gap ∧ IsValue w ∧ Closes (frame :: outer) rear ∧ text = gap ++ w ++ rear

theorem settle_eq_ok {stack stack' : List Frame} {bs rest : List UInt8}
    (h : settle stack bs = .ok (stack', rest)) :
    ∃ lead, bs = lead ++ rest ∧
      (stack' = [] → Closes stack lead) ∧
      ∀ frame outer item front rear, stack' = frame :: outer → frame.IsItem IsValue item →
        Spaced item front → Closes stack' rear → Closes stack (lead ++ front ++ rear) := by
  induction stack generalizing bs with
  | nil =>
    obtain ⟨rfl, rfl⟩ := Prod.mk.inj (Except.ok.inj h)
    exact ⟨[], rfl, fun _ => .nil, fun _ _ _ _ _ h => by cases h⟩
  | cons frame outer ih =>
    simp only [settle] at h
    split at h
    · contradiction
    · rename_i b after hb
      obtain ⟨gap, hgap, rfl⟩ := exists_gap_of_skipBlank hb
      split at h
      · rename_i hcomma
        obtain ⟨rfl, rfl⟩ := Prod.mk.inj (Except.ok.inj h)
        refine ⟨gap ++ [ascii ','], by simp [hcomma], (fun h => by cases h), ?_⟩
        rintro _ _ item front _ ⟨⟩ hitem hfront (_ | ⟨hitems, hspaced, hclosed⟩)
        rw [← List.append_assoc]
        refine .cons (List.forall_mem_cons.mpr ⟨hitem, hitems⟩) ?_ hclosed
        exact ⟨gap, _, hgap, spaced_append.mpr ⟨_, _, hfront, hspaced, rfl⟩, by simp⟩
      · split at h
        · rename_i hclose
          obtain ⟨lead, rfl, hnil, hcons⟩ := ih h
          have hend : Spaced (separated frame.close false []) (gap ++ [b]) :=
            spaced_singleton.mpr ⟨gap, hgap, by rw [hclose]⟩
          refine ⟨gap ++ [b] ++ lead, by simp,
            fun hempty => .cons (List.forall_mem_nil _) hend (hnil hempty), ?_⟩
          intro frame' outer' item front rear hstack hitem hfront hrear
          have hclosed := hcons frame' outer' item front rear hstack hitem hfront hrear
          rw [List.append_assoc, List.append_assoc, ← List.append_assoc lead]
          exact .cons (List.forall_mem_nil _) hend hclosed
        · contradiction

theorem onward_eq_ok {stack stack' : List Frame} {bs rest : List UInt8}
    (h : onward stack bs = .ok (stack', rest)) :
    ∃ lead, bs = lead ++ rest ∧ ∀ text, Continues stack' text → Closes stack (lead ++ text) := by
  simp only [onward] at h
  split at h
  · contradiction
  · rename_i stack₁ after hsettle
    obtain ⟨lead, rfl, hnil, hcons⟩ := settle_eq_ok hsettle
    cases henter : enter stack₁ after with
    | error e => rw [henter] at h; contradiction
    | ok last =>
      rw [henter] at h
      obtain ⟨rfl, rfl⟩ := Prod.mk.inj (Except.ok.inj h)
      cases stack₁ with
      | nil =>
        obtain rfl := Except.ok.inj henter
        refine ⟨lead, rfl, fun text htext => ?_⟩
        obtain rfl : text = [] := htext
        rw [List.append_nil]
        exact hnil rfl
      | cons frame outer =>
        obtain ⟨lead', rfl, hitem⟩ := enter_eq_ok henter
        refine ⟨lead ++ lead', by simp, ?_⟩
        rintro _ ⟨gap, w, rear, hgap, hw, hrear, rfl⟩
        obtain ⟨item, his, hspaced⟩ := hitem [] gap w Blank.nil hgap hw
        have hclosed := hcons frame outer item _ rear rfl his hspaced hrear
        simpa using hclosed

theorem opening_of_opening? {b : UInt8} {frame : Frame} (h : Frame.opening? b = some frame) :
    b = frame.opening := by
  rw [Frame.opening?] at h
  split at h
  · obtain rfl := Option.some.inj h
    assumption
  · split at h
    · obtain rfl := Option.some.inj h
      assumption
    · cases h

theorem advance_eq_ok {stack stack' : List Frame} {bs rest : List UInt8}
    (h : advance stack bs = .ok (stack', rest)) :
    ∃ lead, bs = lead ++ rest ∧ ∀ text, Continues stack' text →
      ∃ gap w rear, Blank gap ∧ IsValue w ∧ Closes stack rear ∧
        lead ++ text = gap ++ w ++ rear := by
  simp only [advance] at h
  split at h
  · contradiction
  · rename_i b after hb
    obtain ⟨gap, hgap, rfl⟩ := exists_gap_of_skipBlank hb
    split at h
    · split at h
      · contradiction
      · rename_i hskip
        obtain ⟨w, hw, rfl⟩ := skipScalar_eq_ok hskip
        obtain ⟨lead, rfl, hcloses⟩ := onward_eq_ok h
        refine ⟨gap ++ b :: w ++ lead, by simp, fun text htext => ?_⟩
        exact ⟨gap, b :: w, _, hgap, .scalar hw, hcloses text htext, by simp⟩
    · rename_i frame hframe
      obtain rfl := opening_of_opening? hframe
      split at h
      · contradiction
      · rename_i c inner hc
        obtain ⟨gap', hgap', rfl⟩ := exists_gap_of_skipBlank hc
        split at h
        · rename_i hclose
          obtain ⟨lead, rfl, hcloses⟩ := onward_eq_ok h
          have hempty : IsValue (frame.opening :: (gap' ++ [frame.close])) :=
            isValue_bracket (List.forall_mem_nil _) (spaced_singleton.mpr ⟨gap', hgap', rfl⟩)
          refine ⟨gap ++ frame.opening :: (gap' ++ [frame.close]) ++ lead, by simp [hclose],
            fun text htext => ?_⟩
          exact ⟨gap, _, _, hgap, hempty, hcloses text htext, by simp⟩
        · cases henter : enter (frame :: stack) (c :: inner) with
          | error e => rw [henter] at h; contradiction
          | ok last =>
            rw [henter] at h
            obtain ⟨rfl, rfl⟩ := Prod.mk.inj (Except.ok.inj h)
            obtain ⟨lead, hlead, hitem⟩ := enter_eq_ok henter
            refine ⟨gap ++ frame.opening :: gap' ++ lead, by simp [hlead], ?_⟩
            rintro _ ⟨gap'', w, _, hgap'', hw, _ | ⟨hitems, hfront, hrear⟩, rfl⟩
            obtain ⟨item, his, hspaced⟩ := hitem gap' gap'' w hgap' hgap'' hw
            have hvalue := isValue_bracket (List.forall_mem_cons.mpr ⟨his, hitems⟩)
              (spaced_append.mpr ⟨_, _, hspaced, hfront, rfl⟩)
            exact ⟨gap, _, _, hgap, hvalue, hrear, by simp⟩

theorem skipFrom_eq_ok {stack : List Frame} {bs rest : List UInt8}
    (h : skipFrom stack bs = .ok rest) :
    ∃ gap w rear, Blank gap ∧ IsValue w ∧ Closes stack rear ∧ bs = gap ++ w ++ rear ++ rest := by
  fun_induction skipFrom stack bs with
  | case1 => contradiction
  | case2 =>
    rename_i hadvance
    obtain rfl := Except.ok.inj h
    obtain ⟨lead, rfl, hlead⟩ := advance_eq_ok hadvance
    obtain ⟨gap, w, rear, hgap, hw, hrear, heq⟩ := hlead [] rfl
    rw [List.append_nil] at heq
    exact ⟨gap, w, rear, hgap, hw, hrear, by rw [heq]⟩
  | case3 =>
    rename_i hadvance ih
    obtain ⟨gap', w', rear', hgap', hw', hrear', rfl⟩ := ih h
    obtain ⟨lead, rfl, hlead⟩ := advance_eq_ok hadvance
    obtain ⟨gap, w, rear, hgap, hw, hrear, heq⟩ :=
      hlead (gap' ++ w' ++ rear') ⟨gap', w', rear', hgap', hw', hrear', rfl⟩
    exact ⟨gap, w, rear, hgap, hw, hrear, by rw [← heq]; simp⟩

/-- What is passed over is a value. -/
theorem skipValue_eq_ok {bs rest : List UInt8} (h : skipValue bs = .ok rest) :
    ∃ gap w, Blank gap ∧ IsValue w ∧ bs = gap ++ w ++ rest := by
  obtain ⟨gap, w, _, hgap, hw, _ | _, rfl⟩ := skipFrom_eq_ok h
  exact ⟨gap, w, hgap, hw, by simp⟩

end AdminConsole.Json
