import AdminConsole.Federation
import AdminConsole.Login
import AdminConsole.Proofs.Percent
import AdminConsole.Proofs.Text

/-!
# What a query string says

Pairs of texts are read back from the query string that is written for them, whatever the texts are
and however many empty pieces stand between them. So under every name the query says what the first
pair of that name says, and a callback and the banner of the login page take their values from it.
-/

namespace AdminConsole

namespace Query

-- ---------------------------------------------------------------------------
-- One text
-- ---------------------------------------------------------------------------

theorem isPlain_hexDigitUpper {n : Nat} (h : n < 16) : isPlain (Text.hexDigitUpper n) = true :=
  (by decide : ∀ n < 16, isPlain (Text.hexDigitUpper n) = true) n h

theorem mem_spaced {cs : List Char} {c : Char}
    (h : c ∈ Percent.encode (fun c => !(isPlain c || c = ' ')) cs) :
    isPlain c = true ∨ c = '%' ∨ c = ' ' := by
  rcases Percent.mem_encode h with hc | ⟨n, hn, rfl⟩ | hc
  · exact .inr (.inl hc)
  · exact .inl (isPlain_hexDigitUpper hn)
  · rw [Bool.not_eq_false', Bool.or_eq_true, decide_eq_true_eq] at hc
    exact hc.imp_right .inr

theorem mem_encodeText {cs : List Char} {c : Char} (h : c ∈ encodeText cs) :
    isPlain c = true ∨ c = '%' ∨ c = '+' := by
  obtain ⟨d, hd, rfl⟩ := List.mem_map.mp h
  split
  · exact .inr (.inr rfl)
  · rename_i hspace
    rcases mem_spaced hd with hplain | hpercent | hspace'
    · exact .inl hplain
    · exact .inr (.inl hpercent)
    · exact absurd hspace' hspace

theorem notMem_encodeText {c : Char} (h : (isPlain c || c = '%' || c = '+') = false)
    (cs : List Char) : c ∉ encodeText cs := by
  intro hc
  rcases mem_encodeText hc with hplain | rfl | rfl <;> simp_all

/-- A text is read back from what is written for it. A plus sign of its own has been escaped, so
the ones that are there stand for spaces. -/
theorem decodeText_encodeText (cs : List Char) : decodeText (encodeText cs) = cs := by
  have hspaced : (encodeText cs).map (fun c => if c = '+' then ' ' else c) =
      Percent.encode (fun c => !(isPlain c || c = ' ')) cs := by
    rw [encodeText, List.map_map]
    refine (List.map_congr_left fun c hc => ?_).trans (List.map_id _)
    have hplus : c ≠ '+' := by
      rintro rfl
      rcases mem_spaced hc with h | h | h <;> revert h <;> decide
    by_cases hspace : c = ' ' <;> simp [hspace, hplus]
  have hbytes := @Percent.decode_encode (fun c => !(isPlain c || c = ' ')) (by decide) cs
  unfold decodeText
  simp only [hspaced, hbytes, Utf8.decodeLossy_encode]

-- ---------------------------------------------------------------------------
-- Pairs
-- ---------------------------------------------------------------------------

theorem decodePair_encodePair (pair : List Char × List Char) :
    decodePair (encodePair pair) = pair := by
  have hcut := Text.cut_append_cons (notMem_encodeText (c := '=') (by decide) pair.1)
    (encodeText pair.2)
  simp only [decodePair, encodePair, hcut, Option.getD_some, decodeText_encodeText]

theorem mem_encodePair {pair : List Char × List Char} {c : Char} (h : c ∈ encodePair pair) :
    c = '=' ∨ ∃ cs, c ∈ encodeText cs := by
  rcases List.mem_append.mp h with hname | htail
  · exact .inr ⟨_, hname⟩
  · exact (List.mem_cons.mp htail).imp_right fun hvalue => ⟨_, hvalue⟩

def chars (pair : String × String) : List Char × List Char := (pair.1.toList, pair.2.toList)

/-- What stands between the `&` of a query string of the pairs: what is written for each of them,
and empty pieces anywhere. -/
inductive Pieces : List (String × String) → List (List Char) → Prop
  | nil : Pieces [] []
  | empty {ps pieces} (h : Pieces ps pieces) : Pieces ps ([] :: pieces)
  | pair (name value : String) {ps pieces} (h : Pieces ps pieces) :
      Pieces ((name, value) :: ps) (encodePair (chars (name, value)) :: pieces)

def Spells (ps : List (String × String)) (query : String) : Prop :=
  ∃ pieces, Pieces ps pieces ∧ query.toList = Text.join '&' pieces

variable {ps : List (String × String)} {pieces : List (List Char)} {query : String}

theorem Pieces.mem (h : Pieces ps pieces) {piece : List Char} (hpiece : piece ∈ pieces) {c : Char}
    (hc : c ∈ piece) : c = '=' ∨ ∃ cs, c ∈ encodeText cs := by
  induction h with
  | nil => cases hpiece
  | empty _ ih =>
    rcases List.mem_cons.mp hpiece with rfl | hpiece
    · cases hc
    · exact ih hpiece
  | pair _ _ _ ih =>
    rcases List.mem_cons.mp hpiece with rfl | hpiece
    · exact mem_encodePair hc
    · exact ih hpiece

theorem Pieces.notMem (h : Pieces ps pieces) {c : Char}
    (hc : (isPlain c || c = '%' || c = '+' || c = '=') = false) :
    ∀ piece ∈ pieces, c ∉ piece := by
  intro piece hpiece hmem
  rcases h.mem hpiece hmem with rfl | ⟨cs, hcs⟩
  · revert hc
    decide
  · exact notMem_encodeText (by simp_all) cs hcs

theorem Pieces.decode (h : Pieces ps pieces) :
    (pieces.filter (· ≠ [])).map decodePair = ps.map chars := by
  induction h with
  | nil => rfl
  | empty _ ih => simpa using ih
  | pair name value _ ih =>
    have hne : encodePair (chars (name, value)) ≠ [] := by simp [encodePair]
    rw [List.filter_cons_of_pos (by simpa using hne), List.map_cons, List.map_cons, ih,
      decodePair_encodePair]

theorem pairs_of_spells (h : Spells ps query) : pairs query.toList = ps.map chars := by
  obtain ⟨pieces, hpieces, hquery⟩ := h
  cases pieces with
  | nil =>
    cases hpieces
    simp [pairs, hquery, Text.join, Text.split]
  | cons piece pieces =>
    have hsplit : Text.split '&' query.toList = piece :: pieces :=
      Text.split_eq_iff.mpr
        ⟨List.cons_ne_nil _ _, hquery.symm, hpieces.notMem (by decide)⟩
    rw [pairs, hsplit, hpieces.decode]

theorem dropMark_of_spells (h : Spells ps query) : dropMark query.toList = query.toList := by
  obtain ⟨pieces, hpieces, hquery⟩ := h
  unfold dropMark
  split
  · rename_i rest hrest
    exfalso
    have hmem : '?' ∈ Text.join '&' pieces := by
      rw [← hquery, hrest]
      exact List.mem_cons_self
    rcases Text.mem_join hmem with heq | hflat
    · cases heq
    · obtain ⟨piece, hpiece, hc⟩ := List.mem_flatten.mp hflat
      exact hpieces.notMem (by decide) piece hpiece hc
  · rfl

-- ---------------------------------------------------------------------------
-- The first pair of a name
-- ---------------------------------------------------------------------------

inductive IsFirst (name : String) : List (String × String) → Option String → Prop
  | absent {others : List (String × String)} (h : ∀ pair ∈ others, pair.1 ≠ name) :
      IsFirst name others none
  | present {before after : List (String × String)} (value : String)
      (h : ∀ pair ∈ before, pair.1 ≠ name) :
      IsFirst name (before ++ (name, value) :: after) (some value)

theorem isFirst_cons_of_ne {name name' value : String} {answer : Option String} (hne : name' ≠ name)
    (h : IsFirst name ps answer) : IsFirst name ((name', value) :: ps) answer := by
  cases h with
  | absent h => exact .absent (List.forall_mem_cons.mpr ⟨hne, h⟩)
  | present value h =>
    rw [← List.cons_append]
    exact .present value (List.forall_mem_cons.mpr ⟨hne, h⟩)

theorem isFirst_lookup (name : String) (ps : List (String × String)) :
    IsFirst name ps (((ps.map chars).lookup name.toList).map String.ofList) := by
  induction ps with
  | nil => exact .absent nofun
  | cons pair ps ih =>
    obtain ⟨name', value⟩ := pair
    rw [List.map_cons, chars, List.lookup_cons]
    by_cases hname : name' = name
    · subst hname
      simp only [beq_self_eq_true, Option.map_some, String.ofList_toList]
      exact @IsFirst.present name' [] ps value nofun
    · have hne : (name.toList == name'.toList) = false :=
        beq_false_of_ne fun heq => hname (String.toList_inj.mp heq.symm)
      rw [hne]
      exact isFirst_cons_of_ne hname ih

theorem isFirst_find? (h : Spells ps query) (name : String) :
    IsFirst name ps (find? name query) := by
  unfold find?
  rw [dropMark_of_spells h, pairs_of_spells h]
  exact isFirst_lookup name ps

theorem IsFirst.eq_none_iff {name : String} {answer : Option String}
    (h : IsFirst name ps answer) : answer = none ↔ ∀ pair ∈ ps, pair.1 ≠ name := by
  cases h with
  | absent h => exact iff_of_true rfl h
  | present value h => exact iff_of_false nofun fun hall => hall (name, value) (by simp) rfl

theorem find?_mark (h : query.toList.head? ≠ some '?') (name : String) :
    find? name ("?" ++ query) = find? name query := by
  have hmark : dropMark ("?" ++ query).toList = query.toList := by
    rw [String.toList_append]
    rfl
  have hnone : dropMark query.toList = query.toList := by
    unfold dropMark
    split
    · simp_all
    · rfl
  unfold find?
  rw [hmark, hnone]

theorem spells_encode (ps : List (String × String)) :
    Spells ps (String.ofList (encode (ps.map chars))) := by
  refine ⟨ps.map fun pair => encodePair (chars pair), ?_, ?_⟩
  · induction ps with
    | nil => exact .nil
    | cons pair ps ih => exact .pair pair.1 pair.2 ih
  · rw [String.toList_ofList, encode, List.map_map]
    rfl

end Query

-- ---------------------------------------------------------------------------
-- Callback and banner
-- ---------------------------------------------------------------------------

def bannerText (error : String) : Option String → String
  | some description => "An error occured: " ++ error ++ ": " ++ description
  | none => "An error occured: " ++ error

theorem providerBanner?_eq (query : String) :
    providerBanner? query = (Query.find? "error" query).map fun error =>
      bannerText error (Query.find? "error_description" query) := by
  unfold providerBanner? bannerText
  cases Query.find? "error" query with
  | none => rfl
  | some error => cases Query.find? "error_description" query <;> rfl

/-- A callback hands on the path as it is, and the first `code` and the first `state` of the query,
empty if there is none. The banner is built from the first `error` and the first description, and
there is none without an `error`. A question mark in front changes neither. -/
theorem query_relayed (method id path : String) :
    (∀ ps : List (String × String),
      Query.Spells ps (String.ofList (Query.encode (ps.map Query.chars)))) ∧
    (∀ (ps : List (String × String)) (query : String), Query.Spells ps query →
      ∃ code state error description,
        (Query.IsFirst "code" ps code ∧ Query.IsFirst "state" ps state ∧
          Query.IsFirst "error" ps error ∧ Query.IsFirst "error_description" ps description) ∧
        CallbackRequest.ofLocation method id path query =
          ⟨method, id, ⟨code.getD "", state.getD "", path⟩⟩ ∧
        providerBanner? query = error.map (bannerText · description) ∧
        (providerBanner? query = none ↔ ∀ pair ∈ ps, pair.1 ≠ "error")) ∧
    ∀ query : String, query.toList.head? ≠ some '?' →
      CallbackRequest.ofLocation method id path ("?" ++ query) =
        CallbackRequest.ofLocation method id path query ∧
      providerBanner? ("?" ++ query) = providerBanner? query := by
  refine ⟨Query.spells_encode, fun ps query h => ?_, fun query h => ?_⟩
  · have hfirst := Query.isFirst_find? h
    refine ⟨_, _, _, _, ⟨hfirst "code", hfirst "state", hfirst "error",
      hfirst "error_description"⟩, rfl, providerBanner?_eq query, ?_⟩
    rw [providerBanner?_eq, Option.map_eq_none_iff, (hfirst "error").eq_none_iff]
  · unfold CallbackRequest.ofLocation
    simp only [providerBanner?_eq, Query.find?_mark h, and_self]

end AdminConsole
