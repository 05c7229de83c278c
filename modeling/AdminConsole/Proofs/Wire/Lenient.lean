import AdminConsole.Proofs.Json.Lenient
import AdminConsole.Proofs.Json.RoundTrip
import AdminConsole.Proofs.Wire.Bodies

/-!
# Lenient bodies

Of an answer only what the console knows is read. So the backend may order the members of an object
as it likes, add members that the console does not know, and leave out what says nothing: an empty
text, a denial, an empty list. Only must every key be a text, and one that the console knows must
stand once.
-/

namespace AdminConsole

open Json

-- ---------------------------------------------------------------------------
-- Values that say nothing
-- ---------------------------------------------------------------------------

namespace Json

def emptyText : List UInt8 := quotedText []

def falseWord : List UInt8 := "false".toList.map ascii

def nullWord : List UInt8 := "null".toList.map ascii

namespace Codec

theorem text_value?_empty : text.value? emptyText = some "" :=
  value?_eq_some_iff.mpr (text_carries "").reads

theorem bool_value?_false : bool.value? falseWord = some false := rfl

theorem orNull_value?_null {α β : Type} (c : Codec α) (absent : β) (pack : α → β) (unpack : β → α) :
    (c.orNull absent pack unpack).value? nullWord = some absent := rfl

end Codec

end Json

theorem SessionToken.codec_value?_empty : SessionToken.codec.value? emptyText = some .empty :=
  Codec.value?_eq_some_iff.mpr
    (map_eq_ok_iff.mpr ⟨"", Codec.value?_eq_some_iff.mp Codec.text_value?_empty, rfl⟩)

-- ---------------------------------------------------------------------------
-- What each body leaves free
-- ---------------------------------------------------------------------------

def UserInfo.leeway : Leeway where
  absent := [("login", (· = emptyText)), ("role", (· = emptyText)), ("userType", (· = emptyText))]
  alike := []

def LoginResponse.leeway : Leeway where
  absent := [("authenticated", (· = falseWord)), ("token", (· = emptyText)),
    ("mfaRequired", (· = falseWord)), ("factors", IsList []), ("suspended", (· = falseWord)),
    ("noLicense", (· = falseWord))]
  alike := []

def Provider.leeway : Leeway where
  absent := [("id", (· = emptyText)), ("name", (· = emptyText)), ("redirectURI", (· = nullWord))]
  alike := []

def AuthMethods.AlikeInside (w w' : List UInt8) : Prop :=
  ∃ front rear e e' ms ms', IsList (front ++ e :: rear) w ∧ IsList (front ++ e' :: rear) w' ∧
    IsObject ms e ∧ IsObject ms' e' ∧ Provider.shape.Varies Provider.leeway ms ms'

def AuthMethods.leeway : Leeway where
  absent := [("localAuthDisabled", (· = falseWord)),
    ("oidcProviders", fun w => IsList [] w ∨ w = nullWord)]
  alike := [("oidcProviders", AlikeInside)]

def UpgradeStatus.leeway : Leeway where
  absent := [("currentVersion", (· = emptyText)), ("newVersionAvailable", (· = falseWord)),
    ("newVersion", (· = emptyText))]
  alike := []

-- The readers allow it. For two fields of one shape it is seen at once that they may be set in
-- either order, and for each field that the value it is given is the one it has when blank.

theorem UserInfo.allows_leeway : UserInfo.shape.Allows UserInfo.leeway where
  lenient := rfl
  commutes := by
    simp [shape, Field.of, Field.omitting_commutes]
  absent := by
    simp only [leeway, List.forall_mem_cons]
    refine ⟨?_, ?_, ?_, List.forall_mem_nil _⟩
    · rintro _ rfl
      exact Shape.absent_of shape_lawful 0 rfl Codec.text_value?_empty rfl
    · rintro _ rfl
      exact Shape.absent_of shape_lawful 1 rfl Codec.text_value?_empty rfl
    · rintro _ rfl
      exact Shape.absent_of shape_lawful 2 rfl Codec.text_value?_empty rfl
  alike := List.forall_mem_nil _

theorem LoginResponse.allows_leeway : LoginResponse.shape.Allows LoginResponse.leeway where
  lenient := rfl
  commutes := by
    simp [shape, Field.of, Field.omitting_commutes]
  absent := by
    simp only [leeway, List.forall_mem_cons]
    refine ⟨?_, ?_, ?_, ?_, ?_, ?_, List.forall_mem_nil _⟩
    · rintro _ rfl
      exact Shape.absent_of shape_lawful 0 rfl Codec.bool_value?_false rfl
    · rintro _ rfl
      exact Shape.absent_of shape_lawful 1 rfl SessionToken.codec_value?_empty rfl
    · rintro _ rfl
      exact Shape.absent_of shape_lawful 2 rfl Codec.bool_value?_false rfl
    · intro w hw
      have hvalue : (Codec.list .text).value? w = some [] := Codec.list_value? Codec.text_regular hw
      exact Shape.absent_of shape_lawful 3 rfl hvalue rfl
    · rintro _ rfl
      exact Shape.absent_of shape_lawful 4 rfl Codec.bool_value?_false rfl
    · rintro _ rfl
      exact Shape.absent_of shape_lawful 5 rfl Codec.bool_value?_false rfl
  alike := List.forall_mem_nil _

theorem Provider.allows_leeway : Provider.shape.Allows Provider.leeway where
  lenient := rfl
  commutes := by
    simp [shape, Field.of, Field.omitting_commutes]
  absent := by
    simp only [leeway, List.forall_mem_cons]
    refine ⟨?_, ?_, ?_, List.forall_mem_nil _⟩
    · rintro _ rfl
      exact Shape.absent_of shape_lawful 0 rfl Codec.text_value?_empty rfl
    · rintro _ rfl
      exact Shape.absent_of shape_lawful 1 rfl Codec.text_value?_empty rfl
    · rintro _ rfl
      have hvalue : redirectCodec.value? nullWord = some none := Codec.orNull_value?_null ..
      exact Shape.absent_of shape_lawful 2 rfl hvalue rfl
  alike := List.forall_mem_nil _

namespace AuthMethods

theorem providersCodec_value? {es : List (List UInt8)} {w : List UInt8} (h : IsList es w) :
    providersCodec.value? w = (Codec.list Provider.codec).value? w := by
  have hnull : w.head? ≠ some (ascii 'n') := by
    obtain ⟨-, inner, -, rfl⟩ := h
    nofun
  have hvalue := @Codec.orNull_value? _ _ (Codec.list Provider.codec) [] id id w h.isValue hnull
  rwa [Option.map_id_apply] at hvalue

theorem providersCodec_value?_of_alike {w w' : List UInt8} (h : AlikeInside w w')
    (ps : List Provider) (hw : providersCodec.value? w = some ps) :
    providersCodec.value? w' = some ps := by
  obtain ⟨front, rear, e, e', ms, ms', hlist, hlist', he, he', hvaries⟩ := h
  have hlawful := Provider.shape_lawful
  have hdecode {x : List UInt8} (hx : IsValue x) (p : Provider) :
      Provider.codec.decode x = .ok p ↔ Provider.codec.value? x = some p :=
    hlawful.regular.decode_eq_ok_iff hx
  have hvalue (p : Provider) (hp : Provider.codec.value? e = some p) :
      Provider.codec.value? e' = some p := by
    rw [← hdecode (hlist.1 e (by simp))] at hp
    rw [← hdecode (hlist'.1 e' (by simp))]
    exact hvaries.decode hlawful Provider.allows_leeway he he' hp
  rw [providersCodec_value? hlist] at hw
  rw [providersCodec_value? hlist']
  exact Codec.list_value?_congr hlawful.regular hlist hlist' hvalue hw

end AuthMethods

theorem AuthMethods.allows_leeway : AuthMethods.shape.Allows AuthMethods.leeway where
  lenient := rfl
  commutes := by
    simp [shape, Field.of, Field.omitting_commutes]
  absent := by
    simp only [leeway, List.forall_mem_cons]
    refine ⟨?_, ?_, List.forall_mem_nil _⟩
    · rintro _ rfl
      exact Shape.absent_of shape_lawful 0 rfl Codec.bool_value?_false rfl
    · intro w hw
      have hvalue : providersCodec.value? w = some [] := by
        rcases hw with hw | rfl
        · rw [providersCodec_value? hw]
          exact Codec.list_value? Provider.shape_lawful.regular hw
        · exact Codec.orNull_value?_null ..
      exact Shape.absent_of shape_lawful 1 rfl hvalue rfl
  alike := by
    simp only [leeway, List.forall_mem_cons]
    refine ⟨fun w w' h => ?_, List.forall_mem_nil _⟩
    exact Shape.alike_of shape_lawful 1 rfl (providersCodec_value?_of_alike h)

theorem UpgradeStatus.allows_leeway : UpgradeStatus.shape.Allows UpgradeStatus.leeway where
  lenient := rfl
  commutes := by
    simp [shape, Field.of, Field.omitting_commutes]
  absent := by
    simp only [leeway, List.forall_mem_cons]
    refine ⟨?_, ?_, ?_, List.forall_mem_nil _⟩
    · rintro _ rfl
      exact Shape.absent_of shape_lawful 0 rfl Codec.text_value?_empty rfl
    · rintro _ rfl
      exact Shape.absent_of shape_lawful 1 rfl Codec.bool_value?_false rfl
    · rintro _ rfl
      exact Shape.absent_of shape_lawful 2 rfl Codec.text_value?_empty rfl
  alike := List.forall_mem_nil _

-- ---------------------------------------------------------------------------
-- What does not matter
-- ---------------------------------------------------------------------------

/-- An object without members decodes to the blank record. Every text that opens an object and
decodes is an object with members, and it decodes as before if its members change in what does not
matter. -/
structure Json.Shape.Forgives {ρ : Type} (s : Shape ρ) (free : Leeway) : Prop where
  empty : ∀ text : List UInt8, IsObject [] text → s.codec.decode text = .ok s.blank
  members : ∀ (text : List UInt8) (v : ρ), s.codec.decode text = .ok v →
    (skipBlank text).head? = some (ascii '\x7b') → ∃ ms, IsObject ms text
  decodes : ∀ (ms ms' : List Member) (text text' : List UInt8) (v : ρ), IsObject ms text →
    IsObject ms' text' → s.Varies free ms ms' → s.codec.decode text = .ok v →
    s.codec.decode text' = .ok v

theorem Json.Shape.Lawful.forgives {ρ : Type} {s : Shape ρ} {free : Leeway} (hs : s.Lawful)
    (hfree : s.Allows free) : s.Forgives free where
  empty _ h := s.decode_empty hs hfree.lenient h
  members _ _ hread hopen := s.exists_members hs hread hopen
  decodes _ _ _ _ _ htext htext' h hread := h.decode hs hfree htext htext' hread

/-- What an answer is read as depends only on what the console knows. -/
theorem answers_forgive :
    UserInfo.shape.Forgives UserInfo.leeway ∧
      LoginResponse.shape.Forgives LoginResponse.leeway ∧
      Provider.shape.Forgives Provider.leeway ∧
      AuthMethods.shape.Forgives AuthMethods.leeway ∧
      UpgradeStatus.shape.Forgives UpgradeStatus.leeway :=
  ⟨UserInfo.shape_lawful.forgives UserInfo.allows_leeway,
    LoginResponse.shape_lawful.forgives LoginResponse.allows_leeway,
    Provider.shape_lawful.forgives Provider.allows_leeway,
    AuthMethods.shape_lawful.forgives AuthMethods.allows_leeway,
    UpgradeStatus.shape_lawful.forgives UpgradeStatus.allows_leeway⟩

def halfPair : Member := ⟨"\\ud800".toList.map ascii, [ascii '1']⟩

theorem bodyText?_halfPair : bodyText? halfPair.key = none := by decide +kernel

theorem isObject_halfPair : ∃ text, IsObject [halfPair] text := by
  have hkey : IsBody halfPair.key :=
    @IsBody.unicode ("d800".toList.map ascii) [] rfl (by decide +kernel) .nil
  have hone : IsWhole [ascii '1'] := ⟨⟨nofun, by decide +kernel⟩, fun h => absurd h (by decide)⟩
  have hvalue : IsValue halfPair.value :=
    .scalar (.number (.inl ⟨[ascii '1'], [], [], hone, .inl rfl, .inl rfl, rfl⟩))
  exact ⟨_, by simp [hkey], by simp [hvalue], [], _, [], Blank.nil, Blank.nil, spaced_flatten _,
    rfl⟩

/-- A member may not be added under just any key that the console does not know: half a surrogate
pair is no text, and where it stands as a key nothing is read. -/
theorem not_forall_unknown_key :
    ¬ ∀ (m : Member) (ms : List Member) (text text' : List UInt8) (v : UserInfo),
      UserInfo.shape.IsUnknown m → IsObject ms text → IsObject (m :: ms) text' →
      UserInfo.codec.decode text = .ok v → UserInfo.codec.decode text' = .ok v := by
  intro h
  obtain ⟨text', hmember⟩ := isObject_halfPair
  have hempty : IsObject [] [ascii '\x7b', ascii '\x7d'] :=
    ⟨nofun, nofun, [], _, [], Blank.nil, Blank.nil, spaced_flatten _, rfl⟩
  have hread : UserInfo.codec.decode [ascii '\x7b', ascii '\x7d'] = .ok .blank :=
    Shape.decode_empty UserInfo.shape_lawful rfl hempty
  have hunknown : UserInfo.shape.IsUnknown halfPair := by
    simp [Shape.IsUnknown, bodyText?_halfPair]
  exact Shape.decode_ne_ok_of_key UserInfo.shape_lawful hmember List.mem_cons_self
    bodyText?_halfPair _ (h _ _ _ _ _ hunknown hempty hmember hread)

end AdminConsole
