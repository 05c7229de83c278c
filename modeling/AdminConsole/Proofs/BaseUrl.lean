import AdminConsole.Startup
import AdminConsole.Proofs.Text

/-!
# Normalized base URLs

White space is dropped from both ends of a base URL first, and slashes from its end afterwards. What
is left has no slash at its end, but white space that stood in front of the slashes is still there.
Normalizing once more drops it, so only a base URL that does not end in white space is kept.
-/

namespace AdminConsole

namespace BaseUrl

theorem head_of_isAcceptable {cs : List Char} (h : isAcceptable cs = true) :
    ∃ rest, cs = 'h' :: rest := by
  cases cs with
  | nil => cases h
  | cons c rest =>
    by_cases hc : 'h' = c
    · exact ⟨rest, by rw [hc]⟩
    · simp [isAcceptable, afterScheme?, Text.dropHead?, hc] at h

theorem normalize_eq_ok_iff {raw u : String} :
    normalize raw = .ok u ↔
      dropSlashes (Text.trim raw.toList) = u.toList ∧ isAcceptable u.toList = true := by
  simp only [normalize]
  constructor
  · intro h
    split at h
    · cases h
    · split at h
      · rename_i hacceptable
        obtain rfl := Except.ok.inj h
        rw [String.toList_ofList]
        exact ⟨rfl, hacceptable⟩
      · cases h
  · rintro ⟨h, hacceptable⟩
    obtain ⟨rest, hu⟩ := head_of_isAcceptable hacceptable
    rw [h, if_neg (by simp [hu]), if_pos hacceptable, String.ofList_toList]

theorem getLast?_normalize {raw u : String} (h : normalize raw = .ok u) :
    ∃ last, u.toList.getLast? = some last ∧ last ≠ '/' := by
  obtain ⟨hdrop, hacceptable⟩ := normalize_eq_ok_iff.mp h
  obtain ⟨rest, hu⟩ := head_of_isAcceptable hacceptable
  obtain ⟨last, hlast⟩ := Option.isSome_iff_exists.mp
    (List.getLast?_isSome.mpr (by simp [hu] : u.toList ≠ []))
  refine ⟨last, hlast, ?_⟩
  rw [← hdrop] at hlast
  simpa using Text.getLast?_dropEndWhile hlast

theorem trim_of_isAcceptable {cs : List Char} (h : isAcceptable cs = true) :
    Text.trim cs = Text.dropEndWhile Text.isSpace cs := by
  obtain ⟨rest, rfl⟩ := head_of_isAcceptable h
  rw [Text.trim, List.dropWhile_cons_of_neg (by decide)]

theorem normalize_eq_self_iff {u : String} (hacceptable : isAcceptable u.toList = true)
    (hslash : ∀ last ∈ u.toList.getLast?, last ≠ '/') :
    normalize u = .ok u ↔ ∀ last ∈ u.toList.getLast?, Text.isSpace last = false := by
  have hslashes : dropSlashes u.toList = u.toList :=
    Text.dropEndWhile_eq_self_iff.mpr fun last hlast => by simpa using hslash last hlast
  rw [normalize_eq_ok_iff, and_iff_left hacceptable, trim_of_isAcceptable hacceptable,
    ← Text.dropEndWhile_eq_self_iff]
  constructor
  · intro h
    -- Nothing is dropped in two steps, so nothing is dropped in the first.
    have htrimmed := Text.dropEndWhile_prefix Text.isSpace u.toList
    have hlength := (Text.dropEndWhile_prefix (· = '/')
      (Text.dropEndWhile Text.isSpace u.toList)).length_le
    rw [dropSlashes] at h
    rw [h] at hlength
    exact htrimmed.eq_of_length (Nat.le_antisymm htrimmed.length_le hlength)
  · intro h
    rw [h, hslashes]

/-- White space stands directly in front of the slashes at the end. -/
def HasGap (cs : List Char) : Prop :=
  ∃ front space slashes, cs = front ++ space :: slashes ∧ Text.isSpace space = true ∧
    slashes ≠ [] ∧ ∀ c ∈ slashes, c = '/'

/-- Dropping the slashes at the end of a trimmed text leaves white space at the end exactly where
there is a gap. -/
theorem isSpace_dropSlashes_iff (raw : List Char) :
    (∃ last ∈ (dropSlashes (Text.trim raw)).getLast?, Text.isSpace last = true) ↔
      HasGap (Text.trim raw) := by
  constructor
  · rintro ⟨space, hspace, hisSpace⟩
    obtain ⟨front, hfront⟩ := List.getLast?_eq_some_iff.mp hspace
    obtain ⟨slashes, htrim, hslashes⟩ := Text.exists_dropEndWhile (· = '/') (Text.trim raw)
    rw [← dropSlashes, hfront, List.append_assoc, List.singleton_append] at htrim
    refine ⟨front, space, slashes, htrim, hisSpace, ?_, fun c hc => by simpa using hslashes c hc⟩
    rintro rfl
    -- Without slashes the white space would have been trimmed.
    have hlast : (Text.trim raw).getLast? = some space := by rw [htrim, List.getLast?_concat]
    rw [Text.getLast?_dropEndWhile hlast] at hisSpace
    cases hisSpace
  · rintro ⟨front, space, slashes, htrim, hisSpace, -, hslashes⟩
    have hkept : ∀ last ∈ (front ++ [space]).getLast?, decide (last = '/') = false := by
      rw [List.getLast?_concat]
      rintro _ ⟨⟩
      refine decide_eq_false fun hslash => ?_
      rw [hslash] at hisSpace
      exact absurd hisSpace (by decide)
    have hdrop : dropSlashes (Text.trim raw) = front ++ [space] := by
      rw [htrim, ← List.singleton_append, ← List.append_assoc]
      exact Text.dropEndWhile_append (fun c hc => decide_eq_true (hslashes c hc)) hkept
    exact ⟨space, by rw [hdrop, List.getLast?_concat]; rfl, hisSpace⟩

theorem backendUrl_eq_ok_iff {raw u : String} :
    (ServerConfig.mk (some raw)).backendUrl = .ok (some u) ↔ normalize raw = .ok u := by
  simp only [ServerConfig.backendUrl]
  split
  · rename_i htrim
    refine ⟨nofun, fun h => ?_⟩
    obtain ⟨hdrop, hacceptable⟩ := normalize_eq_ok_iff.mp h
    obtain ⟨rest, hu⟩ := head_of_isAcceptable hacceptable
    rw [htrim, hu] at hdrop
    cases hdrop
  · cases normalize raw <;> simp [Except.map]

theorem backendUrl_eq_none_iff {raw : String} :
    (ServerConfig.mk (some raw)).backendUrl = .ok none ↔
      ∀ c ∈ raw.toList, Text.isSpace c = true := by
  rw [← Text.trim_eq_nil_iff]
  simp only [ServerConfig.backendUrl]
  split
  · rename_i htrim
    exact iff_of_true rfl htrim
  · rename_i htrim
    refine iff_of_false ?_ htrim
    cases normalize raw <;> simp [Except.map]

theorem backendUrl_eq_error_iff {raw : String} {e : ConfigError} :
    (ServerConfig.mk (some raw)).backendUrl = .error e ↔
      ¬ (∀ c ∈ raw.toList, Text.isSpace c = true) ∧ normalize raw = .error e := by
  rw [← Text.trim_eq_nil_iff]
  simp only [ServerConfig.backendUrl]
  split
  · rename_i htrim
    exact iff_of_false nofun fun h => h.1 htrim
  · rename_i htrim
    rw [and_iff_right htrim]
    cases normalize raw <;> simp [Except.map]

/-- A normalized base URL starts with no white space and ends in no slash. It ends in white space
exactly if there is a gap in what it was read from, and exactly then normalizing it once more does
not keep it, neither for a client nor for the server. -/
theorem normalized_kept_iff {raw u : String} (h : normalize raw = .ok u) :
    (∀ c ∈ u.toList.head?, Text.isSpace c = false) ∧ (∀ c ∈ u.toList.getLast?, c ≠ '/') ∧
      ((∀ c ∈ u.toList.getLast?, Text.isSpace c = false) ↔ ¬ HasGap (Text.trim raw.toList)) ∧
      (normalize u = .ok u ↔ ¬ HasGap (Text.trim raw.toList)) ∧
      (ServerConfig.mk (some raw)).backendUrl = .ok (some u) ∧
      ((ServerConfig.mk (some u)).backendUrl = .ok (some u) ↔
        ¬ HasGap (Text.trim raw.toList)) := by
  obtain ⟨hdrop, hacceptable⟩ := normalize_eq_ok_iff.mp h
  have hslash : ∀ c ∈ u.toList.getLast?, c ≠ '/' := by
    obtain ⟨last, hlast, hne⟩ := getLast?_normalize h
    rw [hlast]
    rintro _ ⟨⟩
    exact hne
  have hgap : (∀ c ∈ u.toList.getLast?, Text.isSpace c = false) ↔
      ¬ HasGap (Text.trim raw.toList) := by
    rw [← isSpace_dropSlashes_iff, hdrop]
    simp
  have hself := (normalize_eq_self_iff hacceptable hslash).trans hgap
  refine ⟨?_, hslash, hgap, hself, backendUrl_eq_ok_iff.mpr h, backendUrl_eq_ok_iff.trans hself⟩
  obtain ⟨rest, hu⟩ := head_of_isAcceptable hacceptable
  rw [hu]
  rintro _ ⟨⟩
  decide

theorem normalized_kept_padded :
    normalize "  https://vpn.example.com/api// " = .ok "https://vpn.example.com/api" ∧
      normalize "https://vpn.example.com/api" = .ok "https://vpn.example.com/api" := by
  have h : normalize "  https://vpn.example.com/api// " = .ok "https://vpn.example.com/api" := rfl
  have hlast : "https://vpn.example.com/api".toList.getLast? = some 'i' := rfl
  obtain ⟨-, -, hgap, hself, -⟩ := normalized_kept_iff h
  refine ⟨h, hself.mpr (hgap.mp ?_)⟩
  rw [hlast]
  rintro _ ⟨⟩
  decide

/-- So white space in front of the last slash survives, and a base URL may not even be accepted
again. -/
theorem not_forall_normalized_kept :
    (¬ ∀ raw u, normalize raw = .ok u →
      (∀ c ∈ u.toList.getLast?, Text.isSpace c = false) ∧ normalize u = .ok u) ∧
    ∃ raw u, normalize raw = .ok u ∧ normalize u = .error (.invalidBaseUrl "http:") := by
  refine ⟨fun h => ?_, "http:// /", "http:// ", rfl, rfl⟩
  obtain ⟨hspace, -⟩ := h "http://a /" "http://a " rfl
  exact absurd (hspace ' ' rfl) (by decide)

end BaseUrl

end AdminConsole
