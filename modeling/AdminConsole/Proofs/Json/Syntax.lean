import AdminConsole.Json.Record

/-!
# The grammar of JSON

What a JSON text is, told without a reader: the tokens of a value stand in order, with white space
in front of any of them. Texts are bytes, as they are in the readers. The keys and the strings of a
text keep their escapes here, and an object keeps its members in the order in which they stand.
-/

namespace AdminConsole.Json

def Blank (gap : List UInt8) : Prop := ∀ b ∈ gap, isBlank b = true

/-- The text consists of the tokens, with white space in front of each. -/
def Spaced : List (List UInt8) → List UInt8 → Prop
  | [], text => text = []
  | token :: tokens, text =>
    ∃ gap rest, Blank gap ∧ Spaced tokens rest ∧ text = gap ++ token ++ rest

def comma (isFirst : Bool) : List (List UInt8) := if isFirst then [] else [[ascii ',']]

def separated (close : UInt8) (isFirst : Bool) : List (List (List UInt8)) → List (List UInt8)
  | [] => [[close]]
  | item :: items => comma isFirst ++ item ++ separated close false items

-- ---------------------------------------------------------------------------
-- Scalars
-- ---------------------------------------------------------------------------

/-- What stands between the quotes of a string. An escape of four digits may be any, paired or not,
and bytes outside ASCII may be any. -/
inductive IsBody : List UInt8 → Prop
  | nil : IsBody []
  | plain {b : UInt8} {body : List UInt8} :
      0x20 ≤ b → b ≠ ascii '"' → b ≠ ascii '\\' → IsBody body → IsBody (b :: body)
  | short {letter : UInt8} {body : List UInt8} :
      letter ∈ ['"', '\\', '/', 'b', 'f', 'n', 'r', 't'].map ascii → IsBody body →
      IsBody (ascii '\\' :: letter :: body)
  | unicode {digits body : List UInt8} :
      digits.length = 4 → (∀ d ∈ digits, (hexByte? d).isSome) → IsBody body →
      IsBody (ascii '\\' :: ascii 'u' :: digits ++ body)

def quotedText (body : List UInt8) : List UInt8 := ascii '"' :: body ++ [ascii '"']

def IsDigits (ds : List UInt8) : Prop := ds ≠ [] ∧ ∀ d ∈ ds, isDigit d = true

def IsWhole (w : List UInt8) : Prop :=
  IsDigits w ∧ (w.head? = some (ascii '0') → w = [ascii '0'])

def IsFraction (w : List UInt8) : Prop := w = [] ∨ ∃ ds, IsDigits ds ∧ w = ascii '.' :: ds

def IsExponent (w : List UInt8) : Prop :=
  w = [] ∨ ∃ letter sign ds, (letter = ascii 'e' ∨ letter = ascii 'E') ∧
    (sign = [] ∨ sign = [ascii '+'] ∨ sign = [ascii '-']) ∧ IsDigits ds ∧ w = letter :: sign ++ ds

def IsUnsigned (w : List UInt8) : Prop :=
  ∃ whole fraction exponent, IsWhole whole ∧ IsFraction fraction ∧ IsExponent exponent ∧
    w = whole ++ fraction ++ exponent

def IsNumber (w : List UInt8) : Prop := IsUnsigned w ∨ ∃ v, IsUnsigned v ∧ w = ascii '-' :: v

inductive IsScalar : List UInt8 → Prop
  | word {cs : List Char} : cs ∈ ["null", "true", "false"].map String.toList →
      IsScalar (cs.map ascii)
  | string {body : List UInt8} : IsBody body → IsScalar (quotedText body)
  | number {w : List UInt8} : IsNumber w → IsScalar w

-- ---------------------------------------------------------------------------
-- Values
-- ---------------------------------------------------------------------------

structure Member where
  key : List UInt8
  value : List UInt8
deriving DecidableEq, Repr

def Member.tokens (m : Member) : List (List UInt8) := [quotedText m.key, [ascii ':'], m.value]

inductive IsValue : List UInt8 → Prop
  | scalar {w : List UInt8} : IsScalar w → IsValue w
  | list {es : List (List UInt8)} {inner : List UInt8} : (∀ e ∈ es, IsValue e) →
      Spaced (separated (ascii ']') true (es.map ([·]))) inner → IsValue (ascii '[' :: inner)
  | object {ms : List Member} {inner : List UInt8} :
      (∀ m ∈ ms, IsBody m.key) → (∀ m ∈ ms, IsValue m.value) →
      Spaced (separated (ascii '\x7d') true (ms.map Member.tokens)) inner →
      IsValue (ascii '\x7b' :: inner)

/-- What may follow a number: nothing that would be part of it. -/
def Stops (more : List UInt8) : Prop :=
  ∀ b ∈ more.head?, isDigit b = false ∧ b ≠ ascii '.' ∧ b ≠ ascii 'e' ∧ b ≠ ascii 'E'

-- ---------------------------------------------------------------------------
-- White space
-- ---------------------------------------------------------------------------

theorem Blank.nil : Blank [] := nofun

theorem Blank.append {gap gap' : List UInt8} (h : Blank gap) (h' : Blank gap') :
    Blank (gap ++ gap') :=
  List.forall_mem_append.mpr ⟨h, h'⟩

theorem skipBlank_append {gap : List UInt8} (h : Blank gap) (bs : List UInt8) :
    skipBlank (gap ++ bs) = skipBlank bs := by
  induction gap with
  | nil => rfl
  | cons b gap ih =>
    obtain ⟨hb, hgap⟩ := List.forall_mem_cons.mp h
    rw [List.cons_append, skipBlank, if_pos hb, ih hgap]

theorem skipBlank_cons {b : UInt8} (h : isBlank b = false) (bs : List UInt8) :
    skipBlank (b :: bs) = b :: bs := by
  rw [skipBlank, if_neg (Bool.eq_false_iff.mp h)]

theorem skipBlank_gap {gap : List UInt8} (h : Blank gap) {b : UInt8} (hb : isBlank b = false)
    (bs : List UInt8) : skipBlank (gap ++ b :: bs) = b :: bs := by
  rw [skipBlank_append h, skipBlank_cons hb]

theorem exists_gap (bs : List UInt8) : ∃ gap, Blank gap ∧ bs = gap ++ skipBlank bs := by
  induction bs with
  | nil => exact ⟨[], Blank.nil, rfl⟩
  | cons b bs ih =>
    rw [skipBlank]
    split
    · rename_i hb
      obtain ⟨gap, hgap, hbs⟩ := ih
      exact ⟨b :: gap, List.forall_mem_cons.mpr ⟨hb, hgap⟩, by rw [List.cons_append, ← hbs]⟩
    · exact ⟨[], Blank.nil, rfl⟩

theorem exists_gap_of_skipBlank {bs rest : List UInt8} {b : UInt8} (h : skipBlank bs = b :: rest) :
    ∃ gap, Blank gap ∧ bs = gap ++ b :: rest := by
  obtain ⟨gap, hgap, hbs⟩ := exists_gap bs
  exact ⟨gap, hgap, h ▸ hbs⟩

theorem blank_of_skipBlank {bs : List UInt8} (h : skipBlank bs = []) : Blank bs := by
  obtain ⟨gap, hgap, hbs⟩ := exists_gap bs
  rw [h, List.append_nil] at hbs
  exact hbs ▸ hgap

theorem skipBlank_of_blank {gap : List UInt8} (h : Blank gap) : skipBlank gap = [] := by
  rw [← List.append_nil gap, skipBlank_append h]
  rfl

-- ---------------------------------------------------------------------------
-- Tokens
-- ---------------------------------------------------------------------------

theorem spaced_append {tokens tokens' : List (List UInt8)} {text : List UInt8} :
    Spaced (tokens ++ tokens') text ↔
      ∃ front rear, Spaced tokens front ∧ Spaced tokens' rear ∧ text = front ++ rear := by
  induction tokens generalizing text with
  | nil => simp [Spaced]
  | cons token tokens ih =>
    simp only [List.cons_append, Spaced, ih]
    constructor
    · rintro ⟨gap, _, hgap, ⟨front, rear, hfront, hrear, rfl⟩, rfl⟩
      exact ⟨_, rear, ⟨gap, front, hgap, hfront, rfl⟩, hrear, by simp⟩
    · rintro ⟨_, rear, ⟨gap, front, hgap, hfront, rfl⟩, hrear, rfl⟩
      exact ⟨gap, _, hgap, ⟨front, rear, hfront, hrear, rfl⟩, by simp⟩

theorem spaced_singleton {token text : List UInt8} :
    Spaced [token] text ↔ ∃ gap, Blank gap ∧ text = gap ++ token := by
  simp [Spaced]

theorem spaced_flatten (tokens : List (List UInt8)) : Spaced tokens tokens.flatten := by
  induction tokens with
  | nil => rfl
  | cons token tokens ih => exact ⟨[], _, Blank.nil, ih, rfl⟩

end AdminConsole.Json
