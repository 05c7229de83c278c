import AdminConsole.Cookie
import AdminConsole.Proofs.Text

/-!
# Cookies read back

A jar is read piece by piece, and pieces without a cookie are passed over. So of two jars written
one behind the other the first has the first say. A value is written as it is and trimmed when it is
read, up to the first semicolon: only values that this leaves alone are read back.
-/

namespace AdminConsole.Cookie

open Text (split cut trim IsTrimmed)

variable {piece name value : List Char}

-- ---------------------------------------------------------------------------
-- Pieces
-- ---------------------------------------------------------------------------

/-- Name and value of a cookie stand around the first equals sign of its piece, with white space
around either. There is no cookie without a name. -/
structure Holds (piece name value : List Char) : Prop where
  parts : ∃ before after, piece = before ++ '=' :: after ∧ '=' ∉ before ∧
    trim before = name ∧ trim after = value
  name_ne_nil : name ≠ []

def IsMalformed (piece : List Char) : Prop :=
  '=' ∉ piece ∨
    ∃ before after, piece = before ++ '=' :: after ∧ ∀ c ∈ before, Text.isSpace c = true

theorem ofPiece?_of_notMem (h : '=' ∉ piece) : ofPiece? piece = none := by
  unfold ofPiece?
  rw [Text.cut_of_notMem h]

theorem ofPiece?_append_cons {before : List Char} (h : '=' ∉ before) (after : List Char) :
    ofPiece? (before ++ '=' :: after) =
      if trim before = [] then none else some (trim before, trim after) := by
  unfold ofPiece?
  rw [Text.cut_append_cons h]

theorem ofPiece?_eq_some_iff : ofPiece? piece = some (name, value) ↔ Holds piece name value := by
  constructor
  · intro h
    by_cases hmem : '=' ∈ piece
    · obtain ⟨before, after, rfl, hbefore⟩ := List.eq_append_cons_of_mem hmem
      rw [ofPiece?_append_cons hbefore] at h
      split at h
      · cases h
      · rename_i hne
        cases h
        exact ⟨⟨before, after, rfl, hbefore, rfl, rfl⟩, hne⟩
    · rw [ofPiece?_of_notMem hmem] at h
      cases h
  · rintro ⟨⟨before, after, rfl, hbefore, rfl, rfl⟩, hne⟩
    rw [ofPiece?_append_cons hbefore, if_neg hne]

theorem ofPiece?_of_isMalformed (h : IsMalformed piece) : ofPiece? piece = none := by
  rcases h with hnone | ⟨before, after, rfl, hspace⟩
  · exact ofPiece?_of_notMem hnone
  · have hbefore : '=' ∉ before := fun hmem => absurd (hspace '=' hmem) (by decide)
    rw [ofPiece?_append_cons hbefore, if_pos (Text.trim_eq_nil_iff.mpr hspace)]

-- ---------------------------------------------------------------------------
-- Jars
-- ---------------------------------------------------------------------------

def HasCookie (jar name : String) : Prop :=
  ∃ piece ∈ split ';' jar.toList, ∃ value, Holds piece name.toList value

theorem find?_eq_none_iff {jar name : String} : find? jar name = none ↔ ¬ HasCookie jar name := by
  rw [find?, Option.map_eq_none_iff, List.lookup_eq_none_iff]
  simp only [cookies, List.mem_filterMap, HasCookie]
  constructor
  · rintro h ⟨piece, hpiece, value, hholds⟩
    exact absurd (h _ ⟨piece, hpiece, ofPiece?_eq_some_iff.mpr hholds⟩) (by simp)
  · rintro h ⟨name', value⟩ ⟨piece, hpiece, hread⟩
    rw [bne_iff_ne]
    rintro rfl
    exact h ⟨piece, hpiece, value, ofPiece?_eq_some_iff.mp hread⟩

theorem cookies_append (jar more : List Char) :
    cookies (jar ++ ';' :: more) = cookies jar ++ cookies more := by
  rw [cookies, Text.split_append, List.filterMap_append]
  rfl

theorem cookies_of_isMalformed {junk : List Char}
    (h : ∀ piece ∈ split ';' junk, IsMalformed piece) : cookies junk = [] := by
  rw [cookies, List.filterMap_eq_nil_iff]
  exact fun piece hpiece => ofPiece?_of_isMalformed (h piece hpiece)

theorem find?_append (jar more name : String) :
    find? (jar ++ ";" ++ more) name = (find? jar name).or (find? more name) := by
  have hjar : (jar ++ ";" ++ more).toList = jar.toList ++ ';' :: more.toList := by simp
  rw [find?, hjar, cookies_append, List.lookup_append, Option.map_or]
  rfl

theorem find?_of_isMalformed {junk : String}
    (h : ∀ piece ∈ split ';' junk.toList, IsMalformed piece) (name : String) :
    find? junk name = none := by
  rw [find?, cookies_of_isMalformed h]
  rfl

-- ---------------------------------------------------------------------------
-- Written cookies
-- ---------------------------------------------------------------------------

/-- A name that can be read back. -/
structure IsName (name : List Char) : Prop where
  ne_nil : name ≠ []
  no_mark : '=' ∉ name ∧ ';' ∉ name
  trimmed : IsTrimmed name

theorem exists_assignment (name value : String) :
    ∃ attributes, (assignment name value).toList =
      name.toList ++ '=' :: (cut ';' value.toList).1 ++ ';' :: attributes := by
  by_cases hmem : ';' ∈ value.toList
  · obtain ⟨before, after, hvalue, hbefore⟩ := List.eq_append_cons_of_mem hmem
    rw [hvalue, Text.cut_append_cons hbefore]
    exact ⟨after ++ "; Path=/".toList, by simp [assignment, hvalue]⟩
  · exact ⟨" Path=/".toList, by simp [assignment, Text.cut_of_notMem hmem]⟩

theorem find?_assignment {name : String} (hname : IsName name.toList) (value : String) :
    find? (" " ++ assignment name value) name =
      some (String.ofList (trim (cut ';' value.toList).1)) := by
  obtain ⟨attributes, hassignment⟩ := exists_assignment name value
  have hfront := Text.notMem_cut ';' value.toList
  generalize (cut ';' value.toList).1 = front at hassignment hfront ⊢
  have hjar : (" " ++ assignment name value).toList =
      (' ' :: name.toList ++ '=' :: front) ++ ';' :: attributes := by
    simp [hassignment]
  have hpiece : ';' ∉ ' ' :: name.toList ++ '=' :: front := by
    simp [hname.no_mark.2, hfront]
  have hbefore : '=' ∉ ' ' :: name.toList := by simp [hname.no_mark.1]
  have htrim : trim (' ' :: name.toList) = name.toList := by
    rw [Text.trim_cons_of_isSpace (by decide), Text.trim_eq_self_iff.mpr hname.trimmed]
  have hread : ofPiece? (' ' :: name.toList ++ '=' :: front) = some (name.toList, trim front) := by
    rw [ofPiece?_append_cons hbefore, htrim, if_neg hname.ne_nil]
  rw [find?, hjar, cookies_append, cookies, Text.split_of_notMem hpiece,
    List.filterMap_cons_some hread]
  simp

theorem trim_cut_eq_self_iff : trim (cut ';' value).1 = value ↔ ';' ∉ value ∧ IsTrimmed value := by
  constructor
  · intro h
    have hnone : ';' ∉ value := by
      intro hmem
      rw [← h] at hmem
      exact Text.notMem_cut ';' value (Text.mem_of_mem_trim hmem)
    rw [Text.cut_of_notMem hnone] at h
    exact ⟨hnone, Text.trim_eq_self_iff.mp h⟩
  · rintro ⟨hnone, htrimmed⟩
    rw [Text.cut_of_notMem hnone, Text.trim_eq_self_iff.mpr htrimmed]

/-- A jar has the cookie of a name where one of its pieces holds it. Behind another jar a jar is
read only for the names that the other one lacks, and text without cookies in between hides nothing.
Behind a jar without that cookie an assignment is read back exactly if the value has no semicolon
and neither begins nor ends with white space. -/
theorem find?_written (name : String) :
    (∀ jar, find? jar name = none ↔ ¬ HasCookie jar name) ∧
    (∀ jar more, find? (jar ++ ";" ++ more) name = (find? jar name).or (find? more name)) ∧
    (∀ jar junk more, (∀ piece ∈ split ';' junk.toList, IsMalformed piece) →
      find? (jar ++ ";" ++ junk ++ ";" ++ more) name = find? (jar ++ ";" ++ more) name) ∧
    (IsName name.toList → ∀ jar value, ¬ HasCookie jar name →
      (find? (jar ++ "; " ++ assignment name value) name = some value ↔
        ';' ∉ value.toList ∧ IsTrimmed value.toList)) := by
  refine ⟨fun _ => find?_eq_none_iff, fun jar more => find?_append jar more name, ?_, ?_⟩
  · intro jar junk more hjunk
    simp only [find?_append, find?_of_isMalformed hjunk, Option.or_none]
  · intro hname jar value hjar
    -- The space behind the semicolon belongs to the piece of the assignment.
    have hspace : jar ++ "; " ++ assignment name value =
        jar ++ ";" ++ (" " ++ assignment name value) := String.toList_inj.mp (by simp)
    rw [hspace, find?_append, find?_eq_none_iff.mpr hjar, Option.none_or, find?_assignment hname,
      Option.some.injEq, ← String.toList_inj, String.toList_ofList, trim_cut_eq_self_iff]

theorem find?_written_token :
    find? ("theme=dark;; = ;flag" ++ "; " ++ assignment "token" "a b=") "token" = some "a b=" := by
  obtain ⟨hnone, -, -, hread⟩ := find?_written "token"
  have hname : IsName "token".toList := by
    refine ⟨by simp, by simp, ⟨?_, ?_⟩⟩ <;> rintro _ ⟨⟩ <;> decide
  refine (hread hname _ _ ((hnone _).mp (by decide))).mpr ⟨by simp, ⟨?_, ?_⟩⟩ <;>
    rintro _ ⟨⟩ <;> decide

end AdminConsole.Cookie
