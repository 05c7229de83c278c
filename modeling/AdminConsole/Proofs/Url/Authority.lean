import AdminConsole.Proofs.Url.Written

/-!
# Texts that name a host

Behind its scheme a URL has slashes, credentials, a location and a rest. The location is a host, and
a port number may follow it. A text of that form is read as a URL of that host, and no other text is
read as a URL at all.
-/

namespace AdminConsole

-- ---------------------------------------------------------------------------
-- Hosts are not empty
-- ---------------------------------------------------------------------------

namespace Domain

theorem Label.ascii_ne_nil {cs : List Char} {label : Label} (h : Label.ofText? cs = some label)
    (hne : cs ≠ []) : label.ascii ≠ [] := by
  simp only [Label.ofText?] at h
  split at h
  · split at h
    · cases h
    · split at h
      · split at h
        · cases h
        · obtain rfl := Option.some.inj h
          exact hne
      · cases h
  · split at h <;> obtain rfl := Option.some.inj h
    · exact hne
    · simp [mark]

theorem exists_of_toAscii? {cs name : List Char} (h : toAscii? cs = some name) :
    ∃ settled labels, settled ≠ [] ∧ (Text.split '.' settled).mapM Label.ofText? = some labels ∧
      name = Text.join '.' (labels.map Label.ascii) := by
  simp only [toAscii?] at h
  split at h
  · cases h
  · rename_i settled hsettled
    split at h
    · cases h
    · rename_i hsound
      split at h
      · cases h
      · rename_i labels hlabels
        split at h
        · cases h
        · split at h
          · cases h
          · obtain rfl := Option.some.inj h
            refine ⟨settled, labels, ?_, hlabels, rfl⟩
            rintro rfl
            exact hsound rfl

theorem toAscii?_ne_nil {cs name : List Char} (h : toAscii? cs = some name) : name ≠ [] := by
  obtain ⟨settled, labels, hsettled, hlabels, rfl⟩ := exists_of_toAscii? h
  have hjoin := Text.join_split '.' settled
  cases hsplit : Text.split '.' settled with
  | nil => exact absurd hsplit (Text.split_ne_nil _ _)
  | cons piece pieces =>
    rw [hsplit] at hlabels hjoin
    simp only [List.mapM_cons, Option.pure_def, Option.bind_eq_bind,
      Option.bind_eq_some_iff] at hlabels
    obtain ⟨label, hlabel, later, hlater, hsome⟩ := hlabels
    obtain rfl := Option.some.inj hsome
    rw [ne_eq, Text.join_eq_nil_iff]
    rintro (hnil | hempty)
    · cases hnil
    · rw [List.map_cons, List.cons.injEq, List.map_eq_nil_iff] at hempty
      obtain ⟨hascii, rfl⟩ := hempty
      refine Label.ascii_ne_nil hlabel ?_ hascii
      rintro rfl
      cases pieces with
      | nil => exact hsettled hjoin.symm
      | cons next pieces => simp [Option.bind_eq_some_iff] at hlater

end Domain

namespace Host

theorem text_ne_nil {cs : List Char} {host : Host} (h : ofText? cs = some host) :
    host.text ≠ [] := by
  cases host with
  | ipv4 address => simp [text, Ipv4.text, Text.join_eq_nil_iff]
  | ipv6 address => exact List.cons_ne_nil _ _
  | domain name =>
    simp only [ofText?] at h
    split at h
    · cases h
    · split at h
      · simp at h
      · cases h
    · split at h
      · cases h
      · rename_i domain hdomain
        obtain ⟨decoded, -, hascii⟩ := Option.bind_eq_some_iff.mp hdomain
        split at h
        · simp at h
        · obtain rfl := Host.domain.inj (Option.some.inj h)
          exact Domain.toAscii?_ne_nil hascii

end Host

namespace Url

variable {s scheme : Scheme} {host : Host} {cs name digits location : List Char}

-- ---------------------------------------------------------------------------
-- Cutting an authority up
-- ---------------------------------------------------------------------------

theorem cutCredentials_eq_iff :
    (cutCredentials cs).2 = location ↔
      ∃ credentials, cs = credentials ++ location ∧
        (∀ last ∈ credentials.getLast?, last = '@') ∧ '@' ∉ location := by
  change cs.rtakeWhile (· ≠ '@') = location ↔ _
  constructor
  · rintro rfl
    refine ⟨cs.rdropWhile (· ≠ '@'), List.rdropWhile_append_rtakeWhile.symm, ?_, fun hmem => ?_⟩
    · intro last hlast
      rw [← Text.dropEndWhile_eq] at hlast
      simpa using Text.getLast?_dropEndWhile hlast
    · simpa using List.mem_rtakeWhile_imp hmem
  · rintro ⟨credentials, rfl, hlast, hat⟩
    have hlocation : ∀ c ∈ location.reverse, decide (c ≠ '@') = true := by
      intro c hc
      refine decide_eq_true ?_
      rintro rfl
      exact hat (List.mem_reverse.mp hc)
    rw [List.rtakeWhile, List.reverse_append, List.takeWhile_append_of_pos hlocation]
    cases credentials using List.reverseRecOn with
    | nil => simp
    | append_singleton front last =>
      obtain rfl := hlast last (by simp)
      simp

def IsOpen (cs : List Char) : Prop := ∃ outer inner, cs = outer ++ '[' :: inner ∧ ']' ∉ inner

theorem not_isOpen_of_notMem (h : '[' ∉ cs) : ¬ IsOpen cs := by
  rintro ⟨outer, inner, rfl, -⟩
  simp at h

theorem isOpen_concat_iff {c : Char} : IsOpen (cs ++ [c]) ↔ c = '[' ∨ IsOpen cs ∧ c ≠ ']' := by
  constructor
  · rintro ⟨outer, inner, heq, hclosed⟩
    rcases List.eq_nil_or_concat inner with rfl | ⟨inner, d, rfl⟩
    · exact .inl (List.singleton_inj.mp (List.append_inj_right' heq rfl))
    · have hsplit : cs ++ [c] = (outer ++ '[' :: inner) ++ [d] := by simpa using heq
      obtain ⟨rfl, hlast⟩ := List.append_inj' hsplit rfl
      obtain rfl := List.singleton_inj.mp hlast
      rw [List.concat_eq_append, List.mem_append, List.mem_singleton, not_or] at hclosed
      exact .inr ⟨⟨outer, inner, rfl, hclosed.1⟩, Ne.symm hclosed.2⟩
  · rintro (rfl | ⟨⟨outer, inner, rfl, hclosed⟩, hc⟩)
    · exact ⟨cs, [], rfl, List.not_mem_nil⟩
    · refine ⟨outer, inner ++ [c], by simp, ?_⟩
      simp [hclosed, Ne.symm hc]

def numberText : Option (List Char) → List Char
  | none => []
  | some number => ':' :: number

/-- Where a text is cut that stands behind `before`: at its first colon outside brackets. -/
structure IsCut (before cs name : List Char) (number : Option (List Char)) : Prop where
  text : cs = name ++ numberText number
  colons : ∀ front back, name = front ++ ':' :: back → IsOpen (before ++ front)
  closed : number ≠ none → ¬ IsOpen (before ++ name)

section
variable {before : List Char} {number : Option (List Char)} {c d : Char}

theorem isCut_nil_iff : IsCut before [] name number ↔ name = [] ∧ number = none := by
  constructor
  · rintro ⟨htext, -, -⟩
    obtain ⟨hname, hnumber⟩ := List.append_eq_nil_iff.mp htext.symm
    cases number with
    | none => exact ⟨hname, rfl⟩
    | some number => cases hnumber
  · rintro ⟨rfl, rfl⟩
    exact ⟨rfl, by simp, nofun⟩

theorem isCut_cons_nil_iff :
    IsCut before (c :: cs) [] number ↔ c = ':' ∧ ¬ IsOpen before ∧ number = some cs := by
  constructor
  · rintro ⟨htext, -, hclosed⟩
    rw [List.append_nil] at hclosed
    cases number with
    | none => cases htext
    | some number =>
      cases htext
      exact ⟨rfl, hclosed nofun, rfl⟩
  · rintro ⟨rfl, houter, rfl⟩
    exact ⟨rfl, by simp, fun _ => by rwa [List.append_nil]⟩

theorem isCut_cons_cons_iff :
    IsCut before (c :: cs) (d :: name) number ↔
      c = d ∧ (c = ':' → IsOpen before) ∧ IsCut (before ++ [c]) cs name number := by
  constructor
  · rintro ⟨htext, hcolons, hclosed⟩
    cases htext
    refine ⟨rfl, fun hc => ?_, ⟨rfl, fun front back hname => ?_, ?_⟩⟩
    · simpa using hcolons [] name (by rw [hc, List.nil_append])
    · simpa using hcolons (c :: front) back (by rw [hname, List.cons_append])
    · simpa using hclosed
  · rintro ⟨rfl, hc, rfl, hcolons, hclosed⟩
    refine ⟨rfl, fun front back hname => ?_, by simpa using hclosed⟩
    cases front with
    | nil =>
      rw [List.append_nil]
      exact hc (List.head_eq_of_cons_eq hname)
    | cons e front =>
      obtain rfl := List.head_eq_of_cons_eq hname
      simpa using hcolons front back (List.tail_eq_of_cons_eq hname)

theorem cutPort_eq_iff {inside : Bool} (h : inside = true ↔ IsOpen before) :
    cutPort inside cs = (name, number) ↔ IsCut before cs name number := by
  induction cs generalizing inside before name with
  | nil => rw [cutPort, isCut_nil_iff, Prod.mk.injEq, eq_comm, @eq_comm _ none]
  | cons c cs ih =>
    have hstep : (c = '[' || (inside && c ≠ ']')) = true ↔ IsOpen (before ++ [c]) := by
      simp [isOpen_concat_iff, h]
    have houter : (!inside) = true ↔ ¬ IsOpen before := by simp [← h]
    rw [cutPort]
    split
    · rename_i hcut
      obtain ⟨rfl, hinside⟩ := hcut
      have hclosed := houter.mp hinside
      cases name with
      | nil => simp [isCut_cons_nil_iff, hclosed, eq_comm]
      | cons d name =>
        rw [isCut_cons_cons_iff]
        exact iff_of_false nofun fun hcut => hclosed (hcut.2.1 rfl)
    · rename_i hcut
      have hopen : c = ':' → IsOpen before := fun hc =>
        not_not.mp fun hclosed => hcut ⟨hc, houter.mpr hclosed⟩
      cases name with
      | nil =>
        rw [isCut_cons_nil_iff]
        exact iff_of_false nofun fun hnil => hnil.2.1 (hopen hnil.1)
      | cons d name =>
        rw [isCut_cons_cons_iff, ← ih hstep, and_iff_right hopen]
        simp [Prod.ext_iff, and_assoc]

end

def IsPortNumber (digits : List Char) : Prop :=
  (∀ d ∈ digits, d.isDigit = true) ∧ Text.natOfDigits digits ≤ 65535

theorem isSome_readPort?_iff : (readPort? s digits).isSome ↔ IsPortNumber digits := by
  rw [IsPortNumber, ← List.all_eq_true, ← Nat.not_lt]
  simp only [readPort?]
  split
  · rename_i hdigits
    refine iff_of_false nofun fun hall => ?_
    rw [hall.1] at hdigits
    cases hdigits
  · rename_i hdigits
    split
    · rename_i hlarge
      exact iff_of_false nofun fun hall => hall.2 hlarge
    · rename_i hlarge
      have hall : digits.all Char.isDigit = true := by simpa using hdigits
      split <;> exact iff_of_true rfl ⟨hall, hlarge⟩

-- ---------------------------------------------------------------------------
-- Naming a host
-- ---------------------------------------------------------------------------

/-- A host that may have a port number behind it. The colon between them is the first one outside
brackets. -/
inductive Locates : List Char → Host → Prop
  | intro {name : List Char} {number : Option (List Char)} {host : Host}
      (hcolons : ∀ front back, name = front ++ ':' :: back → IsOpen front)
      (hclosed : number ≠ none → ¬ IsOpen name) (hhost : Host.ofText? name = some host)
      (hnumber : ∀ digits ∈ number, IsPortNumber digits) :
      Locates (name ++ numberText number) host

/-- Slashes, credentials that end in an at-sign if there are any, a location, and whatever follows
from the first mark on. -/
inductive Names : List Char → Host → Prop
  | intro {slashes credentials location rest : List Char} {host : Host}
      (hslashes : ∀ c ∈ slashes, isSlash c = true)
      (hcredentials : ∀ last ∈ credentials.getLast?, last = '@')
      (hmarks : ∀ c ∈ credentials ++ location, isMark c = false) (hat : '@' ∉ location)
      (hlocation : Locates location host) (hrest : ∀ mark ∈ rest.head?, isMark mark = true) :
      Names (slashes ++ (credentials ++ location ++ rest)) host

theorem Locates.ne_nil (h : Locates location host) : location ≠ [] := by
  obtain ⟨-, -, hhost, -⟩ := h
  intro hnil
  rw [(List.append_eq_nil_iff.mp hnil).1] at hhost
  cases hhost

theorem Locates.exists_ofText? (h : Locates location host) :
    ∃ name, Host.ofText? name = some host := by
  obtain ⟨-, -, hhost, -⟩ := h
  exact ⟨_, hhost⟩

theorem Names.text_ne_nil (h : Names cs host) : host.text ≠ [] := by
  obtain ⟨-, -, -, -, hlocation, -⟩ := h
  obtain ⟨name, hhost⟩ := hlocation.exists_ofText?
  exact Host.text_ne_nil hhost

theorem locates_iff (s : Scheme) :
    Locates location host ↔
      Host.ofText? (cutPort false location).1 = some host ∧
        (readPort? s ((cutPort false location).2.getD [])).isSome := by
  have hnil : false = true ↔ IsOpen [] := iff_of_false nofun (not_isOpen_of_notMem List.not_mem_nil)
  rw [isSome_readPort?_iff]
  constructor
  · rintro ⟨hcolons, hclosed, hhost, hnumber⟩
    rename_i name number
    rw [(cutPort_eq_iff hnil).mpr ⟨rfl, hcolons, hclosed⟩]
    refine ⟨hhost, ?_⟩
    cases number with
    | none => exact ⟨nofun, Nat.zero_le _⟩
    | some digits => exact hnumber digits rfl
  · generalize hcut : cutPort false location = parts
    obtain ⟨name, number⟩ := parts
    rintro ⟨hhost, hnumber⟩
    obtain ⟨rfl, hcolons, hclosed⟩ := (cutPort_eq_iff hnil).mp hcut
    refine .intro hcolons hclosed hhost ?_
    rintro digits ⟨⟩
    exact hnumber

theorem names_iff :
    Names cs host ↔ Locates (cutCredentials (cutAt isMark (cs.dropWhile isSlash)).1).2 host := by
  constructor
  · rintro ⟨hslashes, hcredentials, hmarks, hat, hlocation, hrest⟩
    rename_i slashes credentials location rest
    have hfirst : ∀ c ∈ (credentials ++ location ++ rest).head?, isSlash c = false := by
      obtain ⟨c, authority, hauthority⟩ := List.exists_cons_of_ne_nil
        (List.append_ne_nil_of_right_ne_nil credentials hlocation.ne_nil)
      rw [hauthority]
      rintro _ ⟨⟩
      exact not_isSlash_of_not_isMark (hmarks c (by simp [hauthority]))
    have hhierarchy := (Text.span_eq_iff.mpr ⟨rfl, hslashes, hfirst⟩).2
    rw [hhierarchy, cutAt_eq_iff.mpr ⟨rfl, hmarks, hrest⟩,
      cutCredentials_eq_iff.mpr ⟨credentials, rfl, hcredentials, hat⟩]
    exact hlocation
  · generalize hparts : cutAt isMark (cs.dropWhile isSlash) = parts
    obtain ⟨authority, rest⟩ := parts
    generalize hlocated : (cutCredentials authority).2 = location
    intro hlocation
    obtain ⟨hhierarchy, hmarks, hrest⟩ := cutAt_eq_iff.mp hparts
    obtain ⟨credentials, rfl, hcredentials, hat⟩ := cutCredentials_eq_iff.mp hlocated
    obtain ⟨hcs, hslashes, -⟩ := Text.span_eq_iff.mp ⟨rfl, hhierarchy⟩
    rw [hcs]
    exact .intro hslashes hcredentials hmarks hat hlocation hrest

-- ---------------------------------------------------------------------------
-- Reading
-- ---------------------------------------------------------------------------

theorem exists_readAuthority?_iff :
    (∃ u, readAuthority? s cs = some u ∧ u.scheme = scheme ∧ u.host = host) ↔
      s = scheme ∧ Locates (cutCredentials cs).2 host := by
  rw [locates_iff s, Option.isSome_iff_exists]
  simp only [readAuthority?]
  constructor
  · rintro ⟨u, hread, rfl, rfl⟩
    split at hread
    · rename_i host portNumber hhost hport
      obtain rfl := Option.some.inj hread
      exact ⟨rfl, hhost, portNumber, hport⟩
    · cases hread
  · rintro ⟨rfl, hhost, portNumber, hport⟩
    rw [hhost, hport]
    exact ⟨_, rfl, rfl, rfl⟩

theorem exists_readHierarchy?_iff :
    (∃ u, readHierarchy? s cs = some u ∧ u.scheme = scheme ∧ u.host = host) ↔
      s = scheme ∧ Locates (cutCredentials (cutAt isMark cs).1).2 host := by
  rw [← exists_readAuthority?_iff, readHierarchy?_eq]
  constructor
  · rintro ⟨u, hread, hscheme, hhost⟩
    obtain ⟨base, hbase, rfl⟩ := Option.map_eq_some_iff.mp hread
    exact ⟨base, hbase, hscheme, hhost⟩
  · rintro ⟨base, hbase, hscheme, hhost⟩
    rw [hbase]
    exact ⟨_, rfl, hscheme, hhost⟩

theorem readClean?_scheme (s : Scheme) (cs : List Char) :
    readClean? (s.text ++ ':' :: cs) = readHierarchy? s (cs.dropWhile isSlash) := by
  have hcolon : ':' ∉ s.text := by cases s <;> decide
  rw [readClean?, Text.cut_append_cons hcolon]
  cases s with
  | http => exact if_pos (by decide)
  | https => exact (if_neg (by decide)).trans (if_pos (by decide))

def cleanEnd (cs : List Char) : List Char := (Text.dropEndWhile isEdge cs).filter (!isDropped ·)

theorem clean_append_cleanEnd {front : List Char} (hne : front ≠ [])
    (h : ∀ c ∈ front, isEdge c = false) : clean (front ++ cs) = front ++ cleanEnd cs := by
  have hfront : (front ++ cs).dropWhile isEdge = front ++ cs := by
    obtain ⟨c, front, rfl⟩ := List.exists_cons_of_ne_nil hne
    exact List.dropWhile_cons_of_neg (by simp [h])
  have hkept : front.filter (!isDropped ·) = front :=
    List.filter_eq_self.mpr fun c hc => by simp [isDropped_of_not_isEdge (h c hc)]
  have hlast : ∀ last ∈ front.getLast?, isEdge last = false :=
    fun last hlast => h last (List.mem_of_getLast? hlast)
  change ((Text.dropEndWhile isEdge ((front ++ cs).dropWhile isEdge)).filter _) = _
  rw [hfront, Text.dropEndWhile_append_left hlast, List.filter_append, hkept]
  rfl

/-- A text that starts with a scheme and two slashes is read as a URL of that scheme and of the host
that is named behind it. -/
theorem exists_ofText?_iff :
    (∃ u, ofText? (s.text ++ "://".toList ++ cs) = some u ∧ u.scheme = scheme ∧ u.host = host) ↔
      s = scheme ∧ Names (cleanEnd cs) host := by
  have hclean : clean (s.text ++ "://".toList ++ cs) = s.text ++ "://".toList ++ cleanEnd cs :=
    clean_append_cleanEnd (by simp) (by cases s <;> simp [Scheme.text, isEdge])
  have hslashes :
      ("//".toList ++ cleanEnd cs).dropWhile isSlash = (cleanEnd cs).dropWhile isSlash :=
    List.dropWhile_append_of_pos (by simp [isSlash])
  rw [ofText?_eq, hclean, names_iff, ← exists_readHierarchy?_iff, ← hslashes, ← readClean?_scheme,
    List.append_assoc]
  rfl

end Url

end AdminConsole
