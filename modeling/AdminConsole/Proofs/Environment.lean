import AdminConsole.Proofs.Client.Setup

/-!
# Base URLs from the environment

A value of the environment that reads as a truth value or a number is kept as that, and printed anew
where a text is wanted. What was read and what is printed may differ, but both are made of letters,
digits, signs and points alone. A base URL has slashes behind its scheme, so it is never read as
anything but a text, and nothing that is printed anew is one. The server has the base URL that a
client would make of the same value.
-/

namespace AdminConsole

namespace Setting

variable {cs : List Char} {name : String} {environment : List (String × String)}

-- ---------------------------------------------------------------------------
-- Words
-- ---------------------------------------------------------------------------

def isWordChar (c : Char) : Bool := c.isAlphanum || c = '+' || c = '-' || c = '.'

structure IsWord (cs : List Char) : Prop where
  ne_nil : cs ≠ []
  all : cs.all isWordChar = true

theorem isWordChar_of_isAlpha {c : Char} (h : c.isAlpha = true) : isWordChar c = true := by
  simp [isWordChar, Char.isAlphanum, h]

theorem isWordChar_of_isDigit {c : Char} (h : c.isDigit = true) : isWordChar c = true := by
  simp [isWordChar, Char.isAlphanum, h]

theorem toNat_of_isWordChar {c : Char} (h : isWordChar c = true) :
    0x2B ≤ c.toNat ∧ c.toNat ≤ 0x7A := by
  delta isWordChar Char.isAlphanum Char.isAlpha Char.isUpper Char.isLower Char.isDigit at h
  simp only [Bool.or_eq_true, Bool.and_eq_true, decide_eq_true_eq, ge_iff_le,
    UInt32.le_iff_toNat_le, Char.toNat_val, Char.reduceToNat] at h
  rcases h with ((((h | h) | h) | rfl) | rfl) | rfl
  · omega
  · omega
  · omega
  all_goals decide

theorem isSpace_of_isWordChar {c : Char} (h : isWordChar c = true) : Text.isSpace c = false := by
  obtain ⟨hlow, hhigh⟩ := toNat_of_isWordChar h
  grind [Text.isSpace]

theorem all_isWordChar_of_digits (h : ∀ c ∈ cs, c.isDigit = true) : cs.all isWordChar = true :=
  List.all_eq_true.mpr fun c hc => isWordChar_of_isDigit (h c hc)

theorem IsWord.append {front : List Char} (hfront : front.all isWordChar = true)
    (h : IsWord cs) : IsWord (front ++ cs) := by
  refine ⟨List.append_ne_nil_of_right_ne_nil front h.ne_nil, ?_⟩
  rw [List.all_append, hfront, h.all, Bool.and_self]

theorem IsWord.isSpace_eq_false (h : IsWord cs) : ∀ c ∈ cs, Text.isSpace c = false :=
  fun c hc => isSpace_of_isWordChar (List.all_eq_true.mp h.all c hc)

theorem IsWord.slash_notMem (h : IsWord cs) : '/' ∉ cs :=
  fun hmem => nomatch List.all_eq_true.mp h.all '/' hmem

theorem IsWord.trim_eq_self (h : IsWord cs) : Text.trim cs = cs :=
  Text.trim_eq_self_iff.mpr
    ⟨fun _ hfirst => h.isSpace_eq_false _ (List.mem_of_mem_head? hfirst),
      fun _ hlast => h.isSpace_eq_false _ (List.mem_of_mem_getLast? hlast)⟩

theorem IsWord.not_blank (h : IsWord cs) : ¬ ∀ c ∈ cs, Text.isSpace c = true := by
  rw [← Text.trim_eq_nil_iff, h.trim_eq_self]
  exact h.ne_nil

-- ---------------------------------------------------------------------------
-- What is read
-- ---------------------------------------------------------------------------

theorem exists_cutSign (cs : List Char) :
    ∃ sign, cs = sign ++ (cutSign cs).2 ∧ sign.all isWordChar = true := by
  unfold cutSign
  split
  · exact ⟨['-'], rfl, rfl⟩
  · exact ⟨['+'], rfl, rfl⟩
  · exact ⟨[], rfl, rfl⟩

theorem isWord_of_cutSign (h : IsWord (cutSign cs).2) : IsWord cs := by
  obtain ⟨sign, hcs, hsign⟩ := exists_cutSign cs
  rw [hcs]
  exact h.append hsign

theorem isWord_of_digits (hne : cs ≠ []) (h : cs.all Char.isDigit = true) : IsWord cs :=
  ⟨hne, all_isWordChar_of_digits (List.all_eq_true.mp h)⟩

theorem isWord_of_lower {letters : String} (h : Text.lower cs = letters.toList)
    (hne : letters.toList ≠ []) (hletters : letters.toList.all Char.isAlpha = true) :
    IsWord cs := by
  refine ⟨fun hnil => hne (by rw [← h, hnil]; rfl), List.all_eq_true.mpr fun c hc => ?_⟩
  have hlower : c.toLower ∈ letters.toList := h ▸ List.mem_map_of_mem hc
  exact isWordChar_of_isAlpha (Text.isAlpha_of_toLower (List.all_eq_true.mp hletters _ hlower))

theorem isWord_of_readBoolean? {b : Bool} (h : readBoolean? cs = some b) : IsWord cs := by
  simp only [readBoolean?] at h
  split at h
  · exact isWord_of_lower ‹_› (by decide) (by decide)
  · split at h
    · exact isWord_of_lower ‹_› (by decide) (by decide)
    · cases h

theorem isWord_of_readInteger? {n : Int} (h : readInteger? cs = some n) : IsWord cs := by
  simp only [readInteger?] at h
  split at h
  · cases h
  · rename_i hdigits
    obtain ⟨hne, hall⟩ := not_or.mp hdigits
    exact isWord_of_cutSign (isWord_of_digits hne (by simpa using hall))

theorem all_of_readExponent? {e : Int} (h : readExponent? cs = some e) :
    cs.all isWordChar = true := by
  cases cs with
  | nil => rfl
  | cons letter cs =>
    simp only [readExponent?] at h
    split at h
    · cases h
    · rename_i hread
      obtain ⟨hletter, hdigits⟩ := not_or.mp hread
      obtain ⟨hne, hall⟩ := not_or.mp hdigits
      have hword := isWord_of_cutSign (isWord_of_digits hne (by simpa using hall))
      have hletter : letter = 'e' ∨ letter = 'E' := by grind
      rw [List.all_cons, hword.all]
      rcases hletter with rfl | rfl <;> rfl

theorem all_takeWhile (cs : List Char) : (cs.takeWhile Char.isDigit).all isWordChar = true :=
  all_isWordChar_of_digits fun _ => List.mem_takeWhile_imp

theorem isWord_of_readDecimal? {negative : Bool} {r : Decimal.Binary64}
    (h : readDecimal? negative cs = some r) : IsWord cs := by
  refine ⟨?_, ?_⟩
  · rintro rfl
    simp [readDecimal?] at h
  · -- Digits, then a point with more digits behind it or none, then an exponent.
    rw [← List.takeWhile_append_dropWhile (p := Char.isDigit) (l := cs), List.all_append,
      all_takeWhile, Bool.true_and]
    simp only [readDecimal?] at h
    generalize cs.dropWhile Char.isDigit = rest at h ⊢
    split at h
    · rename_i behind
      rw [← List.takeWhile_append_dropWhile (p := Char.isDigit) (l := behind), List.all_cons,
        List.all_append, all_takeWhile, Bool.true_and]
      split at h
      · cases h
      · obtain ⟨exponent, hexponent, -⟩ := Option.map_eq_some_iff.mp h
        rw [all_of_readExponent? hexponent]
        rfl
    · split at h
      · cases h
      · obtain ⟨exponent, hexponent, -⟩ := Option.map_eq_some_iff.mp h
        exact all_of_readExponent? hexponent

theorem isWord_of_readReal? {r : Decimal.Binary64} (h : readReal? cs = some r) : IsWord cs := by
  refine isWord_of_cutSign ?_
  have hname {letters : String} (h : String.ofList (Text.lower (cutSign cs).2) = letters) :
      Text.lower (cutSign cs).2 = letters.toList := by
    rw [← h, String.toList_ofList]
  simp only [readReal?] at h
  split at h
  · rename_i hinfinite
    rcases hinfinite with h | h <;> exact isWord_of_lower (hname h) (by decide) (by decide)
  · split at h
    · exact isWord_of_lower (hname ‹_›) (by decide) (by decide)
    · exact isWord_of_readDecimal? h

-- ---------------------------------------------------------------------------
-- What is printed
-- ---------------------------------------------------------------------------

theorem isWord_toDigits (n : Nat) : IsWord (Nat.toDigits 10 n) :=
  ⟨Nat.toDigits_ne_nil, all_isWordChar_of_digits fun _ =>
    Nat.isDigit_of_mem_toDigits (by decide) (by decide)⟩

theorem isWord_print_integer (n : Int) : IsWord (Value.integer n).print.toList := by
  cases n with
  | ofNat n =>
    have hprint : (Value.integer (.ofNat n)).print.toList = Nat.toDigits 10 n := Nat.toList_repr
    rw [hprint]
    exact isWord_toDigits n
  | negSucc n =>
    have hprint : (Value.integer (.negSucc n)).print.toList = ['-'] ++ Nat.toDigits 10 (n + 1) := by
      rw [← Nat.toList_repr]
      exact String.toList_append
    rw [hprint]
    exact (isWord_toDigits (n + 1)).append rfl

theorem all_zeros (count : Nat) : (List.replicate count '0').all isWordChar = true :=
  all_isWordChar_of_digits fun c hc => by
    obtain rfl := List.eq_of_mem_replicate hc
    rfl

theorem isWord_positional (d : Decimal.Shortest) : IsWord d.positional := by
  obtain ⟨hne, hall⟩ : IsWord d.chars := isWord_toDigits d.digits
  simp only [Decimal.Shortest.positional]
  split
  · refine ⟨by simp [hne], ?_⟩
    rw [List.all_append, hall, all_zeros, Bool.and_self]
  · split
    · refine ⟨by simp, ?_⟩
      -- The point stands between two parts of the digits.
      rw [List.all_append, List.all_cons, Bool.and_left_comm, ← List.all_append,
        List.take_append_drop, hall]
      rfl
    · refine ⟨by simp, ?_⟩
      rw [List.cons_append, List.cons_append, List.all_cons, List.all_cons, List.all_append,
        all_zeros, hall]
      rfl

theorem isWord_print_real (r : Decimal.Binary64) : IsWord (Value.real r).print.toList := by
  have hsign (negative : Bool) : (if negative then ['-'] else []).all isWordChar = true := by
    cases negative <;> rfl
  rw [Value.print, String.toList_ofList]
  cases r with
  | notANumber => exact ⟨nofun, rfl⟩
  | infinite negative => exact IsWord.append (hsign negative) ⟨nofun, rfl⟩
  | finite negative mantissa exponent =>
    refine IsWord.append (hsign negative) ?_
    split
    · exact ⟨nofun, rfl⟩
    · exact isWord_positional _

/-- The text that a setting takes from a value. A truth value or a number is printed anew. -/
def kept (value : String) : String := (Value.ofText value.toList).print

theorem kept_cases (value : String) :
    kept value = value ∨ IsWord value.toList ∧ IsWord (kept value).toList := by
  simp only [kept, Value.ofText]
  split
  · rename_i b hread
    refine .inr ⟨isWord_of_readBoolean? hread, ?_⟩
    cases b <;> exact ⟨by decide, by decide⟩
  · split
    · exact .inr ⟨isWord_of_readInteger? ‹_›, isWord_print_integer _⟩
    · split
      · exact .inr ⟨isWord_of_readReal? ‹_›, isWord_print_real _⟩
      · exact .inl String.ofList_toList

example : kept "+1e5" = "100000" := by decide +kernel

theorem forall_isSpace_kept_iff (value : String) :
    (∀ c ∈ (kept value).toList, Text.isSpace c = true) ↔
      ∀ c ∈ value.toList, Text.isSpace c = true := by
  rcases kept_cases value with hsame | ⟨hvalue, hkept⟩
  · rw [hsame]
  · exact iff_of_false hkept.not_blank hvalue.not_blank

-- ---------------------------------------------------------------------------
-- Variables
-- ---------------------------------------------------------------------------

/-- A variable of that name gives neither the setting nor anything nested in it. -/
def IsUnrelated (name key : String) : Prop :=
  ∀ path, dotted (Text.lower key.toList) = name.toList ++ path → isPath path = false

theorem isPath_nil : isPath [] = true := by
  rw [isPath]
  rfl

theorem isPath_of_dropStep?_eq_none (hne : cs ≠ []) (h : dropStep? cs = none) :
    isPath cs = false := by
  rw [isPath, if_neg (by simpa using hne)]
  split
  · rename_i hsome
    rw [h] at hsome
    cases hsome
  · rfl

theorem ofVariable_eq_absent_iff {key value : String} :
    ofVariable name key value = .absent ↔ IsUnrelated name key := by
  simp only [ofVariable, IsUnrelated, ← Text.dropHead?_eq_some_iff]
  cases Text.dropHead? name.toList (dotted (Text.lower key.toList)) with
  | none => exact iff_of_true rfl nofun
  | some path =>
    cases path with
    | nil => simp [isPath_nil]
    | cons c path => cases hpath : isPath (c :: path) <;> simp [hpath]

theorem find_concat (entry : String × String) :
    find name (environment ++ [entry]) =
      if ofVariable name entry.1 entry.2 = .absent then find name environment
      else ofVariable name entry.1 entry.2 := by
  simp only [find, List.foldl_append, List.foldl_cons, List.foldl_nil]
  cases ofVariable name entry.1 entry.2 <;> rfl

theorem find_eq_ofVariable {key value : String} (hmem : (key, value) ∈ environment)
    (hgives : ofVariable name key value ≠ .absent)
    (hothers : ∀ entry ∈ environment, entry ≠ (key, value) → IsUnrelated name entry.1) :
    find name environment = ofVariable name key value := by
  -- From the end, because the last variable counts.
  induction environment using List.reverseRecOn with
  | nil => cases hmem
  | append_singleton environment last ih =>
    rw [find_concat]
    by_cases hlast : last = (key, value)
    · rw [hlast, if_neg hgives]
    · rw [if_pos (ofVariable_eq_absent_iff.mpr (hothers last (by simp) hlast))]
      refine ih ?_ fun entry hentry => hothers entry (by simp [hentry])
      rcases List.mem_append.mp hmem with hmem | hmem
      · exact hmem
      · exact absurd (List.mem_singleton.mp hmem).symm hlast

end Setting

namespace BaseUrl

theorem slash_mem_of_isAcceptable {cs : List Char} (h : isAcceptable cs = true) : '/' ∈ cs := by
  obtain ⟨scheme, c, text, rfl, -⟩ := isAcceptable_iff.mp h
  simp

theorem normalize_of_isWord {raw : String} (h : Setting.IsWord raw.toList) :
    normalize raw = .error (.invalidBaseUrl raw) := by
  have hslashes : dropSlashes raw.toList = raw.toList :=
    Text.dropEndWhile_eq_self_iff.mpr fun last hlast => decide_eq_false fun hslash =>
      h.slash_notMem (hslash ▸ List.mem_of_mem_getLast? hlast)
  have hnot : ¬ isAcceptable raw.toList = true :=
    fun hacceptable => h.slash_notMem (slash_mem_of_isAcceptable hacceptable)
  simp only [normalize]
  rw [h.trim_eq_self, hslashes, if_neg h.ne_nil, if_neg hnot, String.ofList_toList]

theorem normalize_kept_eq_ok_iff {value u : String} :
    normalize (Setting.kept value) = .ok u ↔ normalize value = .ok u := by
  rcases Setting.kept_cases value with hsame | ⟨hvalue, hkept⟩
  · rw [hsame]
  · rw [normalize_of_isWord hvalue, normalize_of_isWord hkept]
    exact iff_of_false nofun nofun

theorem kept_of_normalize {value u : String} (h : normalize value = .ok u) :
    Setting.kept value = value := by
  rcases Setting.kept_cases value with hsame | ⟨hvalue, -⟩
  · exact hsame
  · rw [normalize_of_isWord hvalue] at h
    cases h

end BaseUrl

namespace ServerConfig

theorem ofVariable_backendSetting (value : String) :
    Setting.ofVariable backendSetting "API_UPSTREAM" value = .given (Setting.kept value) := rfl

/-- A server whose environment gives the address of the backend in one variable has the base URL
that a client makes of the value. It has none exactly for a blank value, and whatever else a client
refuses is an error. A value that is printed anew is refused either way, by a client as it was given
and by the server as it is printed. -/
theorem backendUrl_of_given {environment : List (String × String)} {value : String}
    (hgiven : ("API_UPSTREAM", value) ∈ environment)
    (hothers : ∀ entry ∈ environment, entry ≠ ("API_UPSTREAM", value) →
      Setting.IsUnrelated backendSetting entry.1) :
    ∃ config, ofEnvironment? environment = some config ∧
      config.backend = some (Setting.kept value) ∧
      (config.backendUrl = .ok none ↔ ∀ c ∈ value.toList, Text.isSpace c = true) ∧
      (∀ u, config.backendUrl = .ok (some u) ↔ BaseUrl.normalize value = .ok u) ∧
      ((∃ e, config.backendUrl = .error e) ↔
        ¬ (∀ c ∈ value.toList, Text.isSpace c = true) ∧ ∀ u, BaseUrl.normalize value ≠ .ok u) ∧
      (∀ e, config.backendUrl = .error e → BaseUrl.normalize (Setting.kept value) = .error e) ∧
      (∀ u, BaseUrl.normalize value = .ok u → Setting.kept value = value) ∧
      (∀ u, BaseUrl.normalize (Setting.kept value) = .ok u ↔ BaseUrl.normalize value = .ok u) ∧
      (Setting.kept value ≠ value →
        BaseUrl.normalize value = .error (.invalidBaseUrl value) ∧
          config.backendUrl = .error (.invalidBaseUrl (Setting.kept value))) := by
  have hgives := ofVariable_backendSetting value
  have hfind : Setting.find backendSetting environment = .given (Setting.kept value) := by
    rw [Setting.find_eq_ofVariable hgiven (by rw [hgives]; nofun) hothers, hgives]
  have hconfig : ofEnvironment? environment = some ⟨some (Setting.kept value)⟩ := by
    rw [ofEnvironment?, hfind]
  refine ⟨_, hconfig, rfl, ?_, fun u => ?_, ?_, fun e h => ?_, fun u => BaseUrl.kept_of_normalize,
    fun u => BaseUrl.normalize_kept_eq_ok_iff, fun hne => ?_⟩
  · rw [BaseUrl.backendUrl_eq_none_iff, Setting.forall_isSpace_kept_iff]
  · rw [BaseUrl.backendUrl_eq_ok_iff, BaseUrl.normalize_kept_eq_ok_iff]
  · simp only [BaseUrl.backendUrl_eq_error_iff, Setting.forall_isSpace_kept_iff, exists_and_left]
    refine and_congr_right fun _ => ?_
    simp_rw [ne_eq, ← @BaseUrl.normalize_kept_eq_ok_iff value]
    cases BaseUrl.normalize (Setting.kept value) <;> simp
  · exact (BaseUrl.backendUrl_eq_error_iff.mp h).2
  · obtain ⟨hvalue, hkept⟩ := (Setting.kept_cases value).resolve_left hne
    exact ⟨BaseUrl.normalize_of_isWord hvalue, BaseUrl.backendUrl_eq_error_iff.mpr
      ⟨hkept.not_blank, BaseUrl.normalize_of_isWord hkept⟩⟩

/-- An address in white space, beside a variable whose name only begins like that of the setting. -/
theorem backendUrl_of_given_padded :
    Setting.IsUnrelated backendSetting "API_UPSTREAM_TIMEOUT" ∧
      ∃ config, ofEnvironment?
          [("API_UPSTREAM_TIMEOUT", "30"), ("API_UPSTREAM", " https://10.0.0.1:8443/api/ ")] =
            some config ∧
        config.backendUrl = .ok (some "https://10.0.0.1:8443/api") := by
  have hunrelated : Setting.IsUnrelated backendSetting "API_UPSTREAM_TIMEOUT" := by
    intro path hpath
    have hname : Setting.dotted (Text.lower "API_UPSTREAM_TIMEOUT".toList) =
        backendSetting.toList ++ "_timeout".toList := rfl
    rw [hname] at hpath
    rw [← List.append_cancel_left hpath]
    exact Setting.isPath_of_dropStep?_eq_none (by decide) rfl
  refine ⟨hunrelated, ?_⟩
  obtain ⟨config, hconfig, -, -, hok, -⟩ := @backendUrl_of_given
    [("API_UPSTREAM_TIMEOUT", "30"), ("API_UPSTREAM", " https://10.0.0.1:8443/api/ ")]
    " https://10.0.0.1:8443/api/ " (by simp) (by simp [hunrelated])
  exact ⟨config, hconfig, (hok _).mpr rfl⟩

end ServerConfig

end AdminConsole
