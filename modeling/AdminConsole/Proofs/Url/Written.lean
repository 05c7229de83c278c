import AdminConsole.Proofs.Percent
import AdminConsole.Proofs.Text
import AdminConsole.Proofs.Url.Append

/-!
# Segments written behind a URL

A URL can be extended before it is read, by writing more text behind it, or after, by appending
segments to its path. Both give the same URL as long as the path is what the text ends in. Behind a
query or a fragment the new text belongs to it, and a slash at the end, which an appended segment
takes the place of, is written twice.
-/

namespace AdminConsole

namespace Url

def isEdge (c : Char) : Bool := c.toNat ≤ 0x20

theorem isDropped_of_not_isEdge {c : Char} (h : isEdge c = false) : isDropped c = false := by
  refine Bool.eq_false_iff.mpr fun hc => ?_
  have hdropped : c = '\t' ∨ c = '\n' ∨ c = '\r' := by simpa [isDropped, or_assoc] using hc
  rcases hdropped with rfl | rfl | rfl <;> exact absurd h (by decide)

theorem dropWhile_isEdge_append {last : Char} (h : isEdge last = false) (front more : List Char) :
    (front ++ last :: more).dropWhile isEdge = front.dropWhile isEdge ++ last :: more := by
  rw [List.dropWhile_append, List.dropWhile_cons_of_neg (by simp [h])]
  split
  · simp_all
  · rfl

theorem clean_concat {last : Char} (h : isEdge last = false) (front : List Char) :
    clean (front ++ [last]) = (front.dropWhile isEdge).filter (!isDropped ·) ++ [last] := by
  change ((Text.dropEndWhile isEdge ((front ++ [last]).dropWhile isEdge)).filter _) = _
  rw [dropWhile_isEdge_append h, Text.dropEndWhile_concat h, List.filter_append]
  simp [isDropped_of_not_isEdge h]

theorem clean_append {cs more : List Char} {last last' : Char} (hlast : cs.getLast? = some last)
    (hedge : isEdge last = false) (hlast' : more.getLast? = some last')
    (hedge' : isEdge last' = false) (hmore : more.any isDropped = false) :
    clean (cs ++ more) = clean cs ++ more := by
  obtain ⟨front, rfl⟩ := List.getLast?_eq_some_iff.mp hlast
  obtain ⟨between, rfl⟩ := List.getLast?_eq_some_iff.mp hlast'
  have hkept : between.filter (!isDropped ·) = between :=
    List.filter_eq_self.mpr fun c hc => by simp_all
  rw [← List.append_assoc, clean_concat hedge', clean_concat hedge, List.append_assoc front,
    List.singleton_append, dropWhile_isEdge_append hedge, List.filter_append,
    List.filter_cons_of_pos (by simp [isDropped_of_not_isEdge hedge]), hkept]
  simp

theorem getLast?_clean {cs : List Char} {last : Char} (hlast : cs.getLast? = some last)
    (hedge : isEdge last = false) : (clean cs).getLast? = some last := by
  obtain ⟨front, rfl⟩ := List.getLast?_eq_some_iff.mp hlast
  rw [clean_concat hedge, List.getLast?_concat]

theorem mem_clean_iff {cs : List Char} {last c : Char} (hlast : cs.getLast? = some last)
    (hedge : isEdge last = false) (hc : isEdge c = false) : c ∈ clean cs ↔ c ∈ cs := by
  obtain ⟨front, rfl⟩ := List.getLast?_eq_some_iff.mp hlast
  have hfront : c ∈ front.dropWhile isEdge ↔ c ∈ front := by
    refine ⟨(List.dropWhile_sublist isEdge).mem, fun hmem => ?_⟩
    rw [← @List.takeWhile_append_dropWhile _ isEdge front, List.mem_append] at hmem
    refine hmem.resolve_left fun htaken => ?_
    rw [List.all_eq_true.mp List.all_takeWhile c htaken] at hc
    cases hc
  rw [clean_concat hedge, List.mem_append, List.mem_append, List.mem_filter, hfront]
  simp [isDropped_of_not_isEdge hc]

-- ---------------------------------------------------------------------------
-- Following dot segments
-- ---------------------------------------------------------------------------

def isDots (segment : List Char) : Bool := isDoubleDot segment || isSingleDot segment

/-- What a segment makes of a path, which is listed with its last segment first. -/
def follow (before : List (List Char)) (segment : List Char) : List (List Char) :=
  if isDoubleDot segment then parent before
  else if isSingleDot segment then before
  else segment :: before

theorem follow_of_not_isDots {segment : List Char} (h : isDots segment = false)
    (before : List (List Char)) : follow before segment = segment :: before := by
  obtain ⟨hdouble, hsingle⟩ := Bool.or_eq_false_iff.mp h
  simp [follow, hdouble, hsingle]

theorem collapse_concat (before front : List (List Char)) (last : List Char) :
    collapse before (front ++ [last]) =
      ((front ++ [last]).foldl follow before).reverse ++ if isDots last then [[]] else [] := by
  induction front generalizing before with
  | nil =>
    simp only [List.nil_append, collapse, List.foldl_cons, List.foldl_nil, follow, isDots]
    by_cases hdouble : isDoubleDot last <;> by_cases hsingle : isSingleDot last <;>
      simp [hdouble, hsingle]
  | cons segment front ih =>
    obtain ⟨next, rest, hrest⟩ := List.exists_cons_of_ne_nil (List.concat_ne_nil last front)
    rw [List.cons_append, List.foldl_cons, ← ih, hrest, collapse, follow]
    · split
      · rfl
      · split <;> rfl
    · simp

theorem undot_of_notMem {segment : List Char} (h : '%' ∉ segment) : undot segment = segment := by
  fun_induction undot segment <;> simp_all

theorem IsPlain.isDots {segment : List Char} (h : IsPlain segment) : isDots segment = false := by
  have hpercent : '%' ∉ segment := fun hc => absurd (h.not_inSegment _ hc) (by decide)
  simp [Url.isDots, isDoubleDot, isSingleDot, undot_of_notMem hpercent, h.ne_dot, h.ne_dots]

theorem foldl_follow_of_isPlain {segments : List (List Char)} (h : ∀ s ∈ segments, IsPlain s)
    (before : List (List Char)) :
    segments.foldl follow before = segments.reverse ++ before := by
  induction segments generalizing before with
  | nil => rfl
  | cons segment segments ih =>
    rw [List.forall_mem_cons] at h
    rw [List.foldl_cons, follow_of_not_isDots h.1.isDots, ih h.2, List.reverse_cons,
      List.append_assoc, List.singleton_append]

-- ---------------------------------------------------------------------------
-- Paths
-- ---------------------------------------------------------------------------

def written (segments : List (List Char)) : List Char := segments.flatMap ('/' :: ·)

theorem splitPath_append (cs ds : List Char) :
    splitPath (cs ++ '/' :: ds) = splitPath cs ++ splitPath ds := by
  rw [splitPath, List.map_append, List.map_cons, if_neg (by decide), Text.split_append]
  rfl

theorem getLast?_splitPath_iff {cs : List Char} :
    (splitPath cs).getLast? = some [] ↔
      cs = [] ∨ ∃ last, cs.getLast? = some last ∧ isSlash last := by
  rw [splitPath, Text.getLast?_split_iff, List.map_eq_nil_iff, List.getLast?_map]
  refine or_congr_right ?_
  cases cs.getLast? with
  | none => simp
  | some last =>
    simp only [Option.map_some, Option.some_inj, exists_eq_left', isSlash]
    split <;> simp_all

theorem IsPlain.splitPath {segment : List Char} (h : IsPlain segment) :
    splitPath segment = [segment] := by
  have hback : '\\' ∉ segment := fun hc => absurd (h.not_inSegment _ hc) (by decide)
  have hslash : '/' ∉ segment := fun hc => absurd (h.not_inSegment _ hc) (by decide)
  have hsame : segment.map (fun c => if c = '\\' then '/' else c) = segment := by
    refine (List.map_congr_left fun c hc => ?_).trans (List.map_id' segment)
    exact if_neg fun heq : c = '\\' => hback (heq ▸ hc)
  rw [Url.splitPath, hsame, Text.split_of_notMem hslash]

theorem splitPath_written {segments : List (List Char)} (h : ∀ s ∈ segments, IsPlain s)
    (cs : List Char) : splitPath (cs ++ written segments) = splitPath cs ++ segments := by
  induction segments generalizing cs with
  | nil => simp [written]
  | cons segment segments ih =>
    rw [List.forall_mem_cons] at h
    rw [written, List.flatMap_cons, List.cons_append, splitPath_append, ← written, ih h.2,
      h.1.splitPath, List.singleton_append]

theorem IsPlain.encode_inPath {segment : List Char} (h : IsPlain segment) :
    Percent.encode inPath segment = segment := by
  refine Percent.encode_of_forall_not fun c hc => ?_
  have hnot := h.not_inSegment c hc
  rw [inSegment, Bool.or_eq_false_iff] at hnot
  exact hnot.1

def resolved (pieces : List (List Char)) : List (List Char) :=
  (pieces.foldl follow []).reverse.map (Percent.encode inPath)

theorem readPath_of_splitPath {cs : List Char} {front : List (List Char)} {last : List Char}
    (h : splitPath cs = front ++ [last]) :
    readPath cs = resolved (front ++ [last]) ++ if isDots last then [[]] else [] := by
  rw [readPath, h, collapse_concat, List.map_append, resolved]
  split <;> rfl

theorem readPath_written {pieces segments : List (List Char)} {cs : List Char}
    (hne : segments ≠ []) (h : ∀ s ∈ segments, IsPlain s)
    (hsplit : splitPath cs = pieces ++ segments) : readPath cs = resolved pieces ++ segments := by
  obtain ⟨front, last, rfl⟩ : ∃ front last, segments = front ++ [last] :=
    ⟨_, _, (List.dropLast_concat_getLast hne).symm⟩
  have hencode : (front ++ [last]).map (Percent.encode inPath) = front ++ [last] := by
    refine (List.map_congr_left fun s hs => (h s hs).encode_inPath).trans (List.map_id' _)
  have hdots : isDots last = false := (h last (by simp)).isDots
  rw [← List.append_assoc] at hsplit
  rw [readPath_of_splitPath hsplit, hdots, List.append_assoc, resolved, List.foldl_append,
    foldl_follow_of_isPlain h, List.reverse_append, List.reverse_reverse, List.map_append, hencode]
  simp [resolved]

/-- An empty last segment stays if segments are written behind it. Appended segments take its place,
and of `//` they leave nothing. -/
theorem resolved_eq_iff {cs : List Char} {front : List (List Char)} {last : List Char}
    (h : splitPath cs = front ++ [last]) :
    (resolved (front ++ [last]) =
        if readPath cs = [[], []] then [] else dropEmptyLast (readPath cs)) ↔
      last ≠ [] ∧ readPath cs ≠ [[], []] := by
  rw [readPath_of_splitPath h]
  by_cases hdots : isDots last
  · have hlast : last ≠ [] := by
      rintro rfl
      exact absurd hdots (by decide)
    rw [if_pos hdots]
    generalize resolved (front ++ [last]) = path
    by_cases hroot : path ++ [[]] = [[], []]
    · obtain rfl : path = [[]] := (List.append_left_inj [[]]).mp hroot
      simp
    · simp [hroot, hlast, dropEmptyLast]
  · have hdots' := Bool.eq_false_iff.mpr hdots
    have hresolved : resolved (front ++ [last]) =
        resolved front ++ [Percent.encode inPath last] := by
      simp [resolved, follow_of_not_isDots hdots']
    rw [if_neg hdots, List.append_nil, hresolved]
    generalize resolved front = path
    by_cases hlast : last = []
    · subst hlast
      refine iff_of_false (fun hpath => ?_) fun h => h.1 rfl
      split at hpath
      · simp at hpath
      · have hlength := congrArg List.length hpath
        simp [Percent.encode, dropEmptyLast] at hlength
    · have hwritten : Percent.encode inPath last ≠ [] := mt Percent.encode_eq_nil_iff.mp hlast
      generalize Percent.encode inPath last = segment at hwritten
      have hroot : path ++ [segment] ≠ [[]] ++ [[]] := fun heq =>
        hwritten (List.singleton_inj.mp (List.append_inj' heq rfl).2)
      rw [List.singleton_append] at hroot
      simp [hlast, hroot, dropEmptyLast, hwritten]

-- ---------------------------------------------------------------------------
-- Reading with more behind
-- ---------------------------------------------------------------------------

def isMark (c : Char) : Bool := isSlash c || c = '?' || c = '#'

theorem not_isSlash_of_not_isMark {c : Char} (h : isMark c = false) : isSlash c = false := by
  simp only [isMark, Bool.or_eq_false_iff] at h
  exact h.1.1

def readAuthority? (scheme : Scheme) (authority : List Char) : Option Url :=
  let (credentials, location) := cutCredentials authority
  let (username, password) := Text.cut ':' credentials
  let (hostText, portText) := cutPort false location
  match Host.ofText? hostText, readPort? scheme (portText.getD []) with
  | some host, some portNumber =>
    some
      ⟨scheme, Percent.encode inUserinfo username, Percent.encode inUserinfo (password.getD []),
        host, portNumber, [], none, none⟩
  | _, _ => none

def withRest (u : Url) (rest : List Char) : Url :=
  let (hierarchy, fragment) := Text.cut '#' rest
  let (path, query) := Text.cut '?' hierarchy
  { u with
    path := readPath (path.drop 1)
    query := query.map (Percent.encode inQuery)
    fragment := fragment.map (Percent.encode inFragment) }

theorem readHierarchy?_eq (scheme : Scheme) (cs : List Char) :
    readHierarchy? scheme cs =
      (readAuthority? scheme (cutAt isMark cs).1).map (·.withRest (cutAt isMark cs).2) := by
  have hmark : (fun c => isSlash c || c = '?' || c = '#') = isMark := rfl
  simp only [readHierarchy?, readAuthority?, hmark]
  generalize Host.ofText? (cutPort false (cutCredentials (cutAt isMark cs).1).2).1 = host
  generalize readPort? scheme
    ((cutPort false (cutCredentials (cutAt isMark cs).1).2).2.getD []) = port
  cases host with
  | none => rfl
  | some host => cases port <;> rfl

theorem cutAt_eq_iff {p : Char → Bool} {cs before after : List Char} :
    cutAt p cs = (before, after) ↔
      cs = before ++ after ∧ (∀ c ∈ before, p c = false) ∧ ∀ c ∈ after.head?, p c = true := by
  simp only [cutAt, Prod.mk.injEq, Text.span_eq_iff, Bool.not_eq_true', Bool.not_eq_false']

theorem cutAt_append {p : Char → Bool} {mark : Char} (h : p mark = true) (cs behind : List Char) :
    cutAt p (cs ++ mark :: behind) = ((cutAt p cs).1, (cutAt p cs).2 ++ mark :: behind) := by
  induction cs with
  | nil => simp [cutAt, h]
  | cons c cs ih =>
    simp only [cutAt, Prod.mk.injEq, List.cons_append, List.takeWhile_cons,
      List.dropWhile_cons] at ih ⊢
    split
    · exact ⟨by rw [ih.1], ih.2⟩
    · exact ⟨rfl, rfl⟩

def readClean? (cs : List Char) : Option Url :=
  match Text.cut ':' cs with
  | (_, none) => none
  | (name, some rest) =>
    let hierarchy := rest.dropWhile isSlash
    if Text.lower name = Scheme.http.text then readHierarchy? .http hierarchy
    else if Text.lower name = Scheme.https.text then readHierarchy? .https hierarchy
    else none

theorem ofText?_eq (cs : List Char) : ofText? cs = readClean? (clean cs) := rfl

theorem readClean?_eq_some_iff {cs : List Char} {u : Url} :
    readClean? cs = some u ↔
      ∃ scheme name located, Text.cut ':' cs = (name, some located) ∧
        Text.lower name = Scheme.text scheme ∧
        readHierarchy? scheme (located.dropWhile isSlash) = some u := by
  have hne : Scheme.http.text ≠ Scheme.https.text := by decide
  simp only [readClean?]
  split
  · rename_i hcut
    refine iff_of_false nofun ?_
    rintro ⟨scheme, name, located, hcut', -⟩
    rw [hcut] at hcut'
    cases hcut'
  · rename_i name located hcut
    constructor
    · intro h
      split at h
      · exact ⟨.http, name, located, hcut, ‹_›, h⟩
      · split at h
        · exact ⟨.https, name, located, hcut, ‹_›, h⟩
        · cases h
    · rintro ⟨scheme, name', located', hcut', hname, hread⟩
      rw [hcut] at hcut'
      cases hcut'
      cases scheme with
      | http => rw [if_pos hname, hread]
      | https => rw [if_neg (hname ▸ hne.symm), if_pos hname, hread]

theorem readAuthority?_nil (scheme : Scheme) : readAuthority? scheme [] = none := rfl

/-- What is read of a text from behind its scheme: the authority by itself, and the rest. Text
behind it, from a slash on, belongs to the rest. -/
theorem readHierarchy?_append {scheme : Scheme} {cs : List Char} {u : Url}
    (h : readHierarchy? scheme cs = some u) :
    ∃ base, (cutAt isMark cs).1 ≠ [] ∧ u = withRest base (cutAt isMark cs).2 ∧
      ∀ behind, readHierarchy? scheme (cs ++ '/' :: behind) =
        some (base.withRest ((cutAt isMark cs).2 ++ '/' :: behind)) := by
  rw [readHierarchy?_eq] at h
  obtain ⟨base, hbase, hrest⟩ := Option.map_eq_some_iff.mp h
  refine ⟨base, fun hnil => ?_, hrest.symm, fun behind => ?_⟩
  · rw [hnil, readAuthority?_nil] at hbase
    cases hbase
  · rw [readHierarchy?_eq, cutAt_append (by decide), hbase]
    rfl

theorem notMem_of_lower {name : List Char} {scheme : Scheme} (h : Text.lower name = scheme.text)
    {c : Char} (hc : c.toLower ∉ scheme.text) : c ∉ name :=
  fun hmem => hc (h ▸ List.mem_map_of_mem hmem)

/-- An accepted text ends in a rest that path, query and fragment are read from, and in front of it
there is no mark of any of them. Text behind it, from a slash on, belongs to the rest. -/
theorem exists_withRest {cs : List Char} {u : Url} (h : readClean? cs = some u) :
    ∃ front rest base, cs = front ++ rest ∧ '?' ∉ front ∧ '#' ∉ front ∧
      (∃ last, front.getLast? = some last ∧ isSlash last = false) ∧
      (∀ mark ∈ rest.head?, isMark mark) ∧ u = withRest base rest ∧
      ∀ behind, readClean? (cs ++ '/' :: behind) =
        some (base.withRest (rest ++ '/' :: behind)) := by
  obtain ⟨scheme, name, located, hcut, hname, hread⟩ := readClean?_eq_some_iff.mp h
  obtain ⟨base, hauthority, hrest, hbehind⟩ := readHierarchy?_append hread
  obtain ⟨rfl, hmore⟩ := Text.cut_eq_some hcut
  generalize hhierarchy : located.dropWhile isSlash = hierarchy at *
  generalize hparts : cutAt isMark hierarchy = parts at *
  obtain ⟨authority, rest⟩ := parts
  obtain ⟨hlocated, hslashes, -⟩ := Text.span_eq_iff.mp ⟨rfl, hhierarchy⟩
  obtain ⟨rfl, hmarks, hstop⟩ := cutAt_eq_iff.mp hparts
  have hnot {c : Char} (hlower : c.toLower ∉ scheme.text) (hcolon' : c ≠ ':')
      (hslash : isSlash c = false) (hmark : isMark c = true) :
      c ∉ name ++ ':' :: located.takeWhile isSlash ++ authority := by
    simp only [List.mem_append, List.mem_cons, not_or]
    refine ⟨⟨notMem_of_lower hname hlower, hcolon', fun hmem => ?_⟩, fun hmem => ?_⟩
    · rw [hslashes c hmem] at hslash
      cases hslash
    · rw [hmarks c hmem] at hmark
      cases hmark
  refine ⟨name ++ ':' :: located.takeWhile isSlash ++ authority, rest, base, ?_,
    hnot ?_ (by decide) (by decide) (by decide), hnot ?_ (by decide) (by decide) (by decide), ?_,
    hstop, hrest, fun behind => ?_⟩
  · rw [List.append_assoc, List.append_assoc, List.cons_append, ← hlocated]
  · cases scheme <;> decide
  · cases scheme <;> decide
  · obtain ⟨last, hlast⟩ := Option.isSome_iff_exists.mp (List.getLast?_isSome.mpr hauthority)
    exact ⟨last, by rw [List.getLast?_append, hlast, Option.some_or],
      not_isSlash_of_not_isMark (hmarks last (List.mem_of_getLast? hlast))⟩
  · refine readClean?_eq_some_iff.mpr ⟨scheme, name, _, hmore _, hname, ?_⟩
    have hne : authority ++ rest ≠ [] := List.append_ne_nil_of_left_ne_nil hauthority rest
    rw [List.dropWhile_append, hhierarchy, if_neg (by simpa using hne)]
    exact hbehind behind

-- ---------------------------------------------------------------------------
-- Before and after reading
-- ---------------------------------------------------------------------------

section
variable (base : Url) {rest behind : List Char}

theorem withRest_of_notMem (hhash : '#' ∉ rest) (hmark : '?' ∉ rest) :
    base.withRest rest =
      { base with path := readPath (rest.drop 1), query := none, fragment := none } := by
  simp only [withRest, Text.cut_of_notMem hhash, Text.cut_of_notMem hmark, Option.map_none]

theorem encode_append_ne {set : Char → Bool} (cs : List Char) (h : behind ≠ []) :
    Percent.encode set (cs ++ behind) ≠ Percent.encode set cs := by
  intro heq
  rw [Percent.encode_append, List.append_right_eq_self, Percent.encode_eq_nil_iff] at heq
  exact h heq

theorem withRest_fragment_ne (hhash : '#' ∈ rest) (hne : behind ≠ []) :
    (base.withRest (rest ++ behind)).fragment ≠ (base.withRest rest).fragment := by
  obtain ⟨before, after, -, hmore⟩ := Text.cut_of_mem hhash
  have hrest := hmore []
  rw [List.append_nil, List.append_nil] at hrest
  simp only [withRest, hrest, hmore, Option.map_some, ne_eq, Option.some_inj]
  exact encode_append_ne after hne

theorem withRest_query_ne (hhash : '#' ∉ rest) (hhash' : '#' ∉ behind) (hmark : '?' ∈ rest)
    (hne : behind ≠ []) :
    (base.withRest (rest ++ behind)).query ≠ (base.withRest rest).query := by
  have hboth : '#' ∉ rest ++ behind := by simp [hhash, hhash']
  obtain ⟨before, after, -, hmore⟩ := Text.cut_of_mem hmark
  have hrest := hmore []
  rw [List.append_nil, List.append_nil] at hrest
  simp only [withRest, Text.cut_of_notMem hhash, Text.cut_of_notMem hboth, hrest, hmore,
    Option.map_some, ne_eq, Option.some_inj]
  exact encode_append_ne after hne

end

theorem mem_written {segments : List (List Char)} (h : ∀ s ∈ segments, IsPlain s) {c : Char}
    (hc : c ∈ written segments) : c = '/' ∨ inSegment c = false := by
  obtain ⟨segment, hsegment, hmem⟩ := List.mem_flatMap.mp hc
  exact (List.mem_cons.mp hmem).imp_right ((h segment hsegment).not_inSegment c)

theorem notMem_written {segments : List (List Char)} (h : ∀ s ∈ segments, IsPlain s) {c : Char}
    (hslash : c ≠ '/') (hc : inSegment c = true) : c ∉ written segments := by
  intro hmem
  rw [(mem_written h hmem).resolve_left hslash] at hc
  cases hc

theorem not_isEdge_of_mem_written {segments : List (List Char)} (h : ∀ s ∈ segments, IsPlain s)
    {c : Char} (hc : c ∈ written segments) : isEdge c = false := by
  rcases mem_written h hc with rfl | hplain
  · decide
  · refine Bool.eq_false_iff.mpr fun hedge => ?_
    simp only [inSegment, inPath, inFragment, isControl, Bool.or_eq_false_iff,
      decide_eq_false_iff_not] at hplain
    obtain ⟨⟨⟨⟨hcontrol, -⟩, hspace⟩, -⟩, -⟩ := hplain
    have hspace' : c ≠ ' ' := by
      rintro rfl
      exact absurd hspace (by decide)
    have hcode : c.toNat ≠ ' '.toNat := fun heq => hspace' (Char.toNat_inj.mp heq)
    simp only [isEdge, decide_eq_true_eq] at hedge
    have : ' '.toNat = 0x20 := rfl
    omega

theorem clean_written {cs : List Char} {last : Char} (hlast : cs.getLast? = some last)
    (hedge : isEdge last = false) {segment : List Char} {segments : List (List Char)}
    (h : ∀ s ∈ segment :: segments, IsPlain s) :
    clean (cs ++ written (segment :: segments)) = clean cs ++ written (segment :: segments) := by
  have hne : written (segment :: segments) ≠ [] := by simp [written]
  obtain ⟨last', hlast'⟩ := Option.isSome_iff_exists.mp (List.getLast?_isSome.mpr hne)
  refine clean_append hlast hedge hlast' (not_isEdge_of_mem_written h (List.mem_of_getLast? hlast'))
    (List.any_eq_false.mpr fun c hc => ?_)
  simp [isDropped_of_not_isEdge (not_isEdge_of_mem_written h hc)]

section
variable {segment : List Char} {segments : List (List Char)}
  (h : ∀ s ∈ segment :: segments, IsPlain s)
include h

theorem readPath_drop_written :
    readPath ((written (segment :: segments)).drop 1) = segment :: segments := by
  obtain ⟨hfirst, hrest⟩ := List.forall_mem_cons.mp h
  have hsplit : splitPath (segment ++ written segments) = [] ++ segment :: segments := by
    rw [splitPath_written hrest, hfirst.splitPath]
    rfl
  exact readPath_written (List.cons_ne_nil _ _) h hsplit

theorem readPath_written_iff {cs : List Char} {slash last : Char} (hslash : isSlash slash = true)
    (hlast : (slash :: cs).getLast? = some last) :
    readPath (cs ++ written (segment :: segments)) =
        (if readPath cs = [[], []] then [] else dropEmptyLast (readPath cs)) ++
          segment :: segments ↔
      isSlash last = false ∧ readPath cs ≠ [[], []] := by
  obtain ⟨front, piece, hsplit⟩ : ∃ front piece, splitPath cs = front ++ [piece] :=
    ⟨_, _, (List.dropLast_concat_getLast (Text.split_ne_nil _ _)).symm⟩
  have hpiece : piece = [] ↔ isSlash last = true := by
    have hiff := @getLast?_splitPath_iff cs
    rw [hsplit, List.getLast?_concat, Option.some_inj] at hiff
    rw [hiff]
    cases cs with
    | nil =>
      obtain rfl : slash = last := by simpa using hlast
      simp [hslash]
    | cons c cs =>
      rw [List.getLast?_cons_cons] at hlast
      simp [hlast]
  rw [readPath_written (List.cons_ne_nil _ _) h (splitPath_written h cs), List.append_left_inj,
    hsplit, resolved_eq_iff hsplit, ne_eq, hpiece, Bool.not_eq_true]

/-- Segments can be written behind a URL before it is read, or appended to it after, exactly if the
text has neither query nor fragment, does not end in a slash, and its path is not `//`. -/
theorem ofText?_written_iff {cs : List Char} {u : Url} (hread : ofText? cs = some u) {last : Char}
    (hlast : cs.getLast? = some last) (hedge : isEdge last = false) :
    ofText? (cs ++ written (segment :: segments)) = some (u.append (segment :: segments)) ↔
      '?' ∉ cs ∧ '#' ∉ cs ∧ isSlash last = false ∧ u.path ≠ [[], []] := by
  obtain ⟨front, rest, base, hclean, hmark, hhash, hfront, hhead, rfl, hbehind⟩ :=
    exists_withRest (ofText?_eq cs ▸ hread)
  have hlast' := getLast?_clean hlast hedge
  have hmem {c : Char} (hc : isEdge c = false) (hnot : c ∉ front) : c ∈ cs ↔ c ∈ rest := by
    rw [← mem_clean_iff hlast hedge hc, hclean, List.mem_append, or_iff_right hnot]
  have hne : written (segment :: segments) ≠ [] := by simp [written]
  have hhash' : '#' ∉ written (segment :: segments) := notMem_written h (by decide) (by decide)
  have hmark' : '?' ∉ written (segment :: segments) := notMem_written h (by decide) (by decide)
  have hmore : readClean? (clean cs ++ written (segment :: segments)) =
      some (base.withRest (rest ++ written (segment :: segments))) := by
    simpa [written] using hbehind (segment ++ written segments)
  rw [ofText?_eq, clean_written hlast hedge h, hmore, Option.some_inj, append_of_isPlain h,
    hmem (by decide) hmark, hmem (by decide) hhash]
  by_cases hfragment : '#' ∈ rest
  · exact iff_of_false
      (fun hsame => absurd (congrArg Url.fragment hsame) (withRest_fragment_ne base hfragment hne))
      fun hall => hall.2.1 hfragment
  by_cases hquery : '?' ∈ rest
  · exact iff_of_false
      (fun hsame => absurd (congrArg Url.query hsame)
        (withRest_query_ne base hfragment hhash' hquery hne))
      fun hall => hall.1 hquery
  have hpath : base.withRest (rest ++ written (segment :: segments)) =
        { base.withRest rest with
          path := (if (base.withRest rest).path = [[], []] then []
            else dropEmptyLast (base.withRest rest).path) ++ segment :: segments } ↔
      readPath ((rest ++ written (segment :: segments)).drop 1) =
        (if readPath (rest.drop 1) = [[], []] then []
          else dropEmptyLast (readPath (rest.drop 1))) ++ segment :: segments := by
    rw [withRest_of_notMem base hfragment hquery,
      withRest_of_notMem base (by simp [hfragment, hhash']) (by simp [hquery, hmark'])]
    simp
  rw [hpath, withRest_of_notMem base hfragment hquery]
  simp only [hfragment, hquery, not_false_eq_true, true_and]
  cases rest with
  | nil =>
    obtain ⟨last', hlast'', hslash⟩ := hfront
    rw [hclean, List.append_nil, hlast''] at hlast'
    obtain rfl := Option.some.inj hlast'
    refine iff_of_true ?_ ⟨hslash, by decide⟩
    exact readPath_drop_written h
  | cons slash rest =>
    have hslash : isSlash slash = true := by
      have hhead' := hhead slash rfl
      have hne' : slash ≠ '?' ∧ slash ≠ '#' := by
        constructor <;> rintro rfl <;> simp_all
      simpa [isMark, hne'] using hhead'
    rw [hclean, List.getLast?_append, List.getLast?_cons, Option.some_or] at hlast'
    exact readPath_written_iff h hslash (by rw [List.getLast?_cons, hlast'])

end

end Url

end AdminConsole
