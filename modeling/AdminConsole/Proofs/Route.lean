import AdminConsole.Proofs.Text
import AdminConsole.Route

/-!
# The addresses of routes

A route is read from the part of an address in front of its query and fragment. The two federation
routes have one grammar, which differs in the word only: the word, a method and an id with a slash
between them, and a slash in front and one at the end that may be missing. Every address of the
grammar is read as what it spells, and every other one as no route in particular.
-/

namespace AdminConsole.Route

open Text (split join)

variable {path address inner : List Char}

-- ---------------------------------------------------------------------------
-- The grammar
-- ---------------------------------------------------------------------------

def HasNoMark (cs : List Char) : Prop := ∀ c ∈ cs, c ≠ '?' ∧ c ≠ '#'

def IsTail (tail : List Char) : Prop := ∀ mark ∈ tail.head?, mark = '?' ∨ mark = '#'

structure IsPathOf (path address : List Char) : Prop where
  no_mark : HasNoMark path
  tail : ∃ tail, address = path ++ tail ∧ IsTail tail

/-- A slash in front and a slash at the end are both optional. -/
inductive Slashed (inner : List Char) : List Char → Prop
  | bare : Slashed inner inner
  | front : Slashed inner ('/' :: inner)
  | back : Slashed inner (inner ++ ['/'])
  | both : Slashed inner ('/' :: inner ++ ['/'])

structure IsSegment (cs : List Char) : Prop where
  ne_nil : cs ≠ []
  no_slash : '/' ∉ cs

/-- The path of the address spells a word, a method and an id. -/
structure Spells (word method id address : String) : Prop where
  path : ∃ path, IsPathOf path address.toList ∧
    Slashed (join '/' [word.toList, method.toList, id.toList]) path
  method : IsSegment method.toList
  id : IsSegment id.toList

-- ---------------------------------------------------------------------------
-- The parts of an address
-- ---------------------------------------------------------------------------

theorem isPathOf_iff : IsPathOf path address ↔ pathOf address = path := by
  constructor
  · rintro ⟨hmark, tail, haddress, htail⟩
    exact (Text.span_eq_iff.mpr ⟨haddress, by simpa [HasNoMark] using hmark,
      by simpa [IsTail, or_iff_not_imp_left] using htail⟩).1
  · intro hpath
    obtain ⟨haddress, hmark, htail⟩ := Text.span_eq_iff.mp ⟨hpath, rfl⟩
    exact ⟨by simpa [HasNoMark] using hmark, _, haddress,
      by simpa [IsTail, or_iff_not_imp_left] using htail⟩

theorem slashed_dropSlash (path : List Char) : Slashed (dropSlash (dropEndSlash path)) path := by
  have hfront (cs : List Char) : cs = dropSlash cs ∨ cs = '/' :: dropSlash cs := by
    unfold dropSlash
    split
    · exact .inr rfl
    · exact .inl rfl
  have hback : path = dropEndSlash path ∨ path = dropEndSlash path ++ ['/'] := by
    unfold dropEndSlash
    split
    · rename_i hlast
      obtain ⟨before, rfl⟩ := List.getLast?_eq_some_iff.mp hlast
      simp
    · exact .inl rfl
  generalize dropEndSlash path = bare at hback ⊢
  rcases hfront bare with hbare | hbare <;> generalize dropSlash bare = inner at hbare ⊢ <;>
    subst hbare <;> rcases hback with rfl | rfl
  · exact .bare
  · exact .back
  · exact .front
  · exact .both

theorem dropSlash_of_slashed (h : Slashed inner path) (hne : inner ≠ [])
    (hfront : inner.head? ≠ some '/') (hback : inner.getLast? ≠ some '/') :
    dropSlash (dropEndSlash path) = inner := by
  have hdrop : dropSlash inner = inner := by
    unfold dropSlash
    split
    · simp at hfront
    · rfl
  cases h with
  | bare => rw [dropEndSlash, if_neg hback, hdrop]
  | front =>
    have hlast : ('/' :: inner).getLast? ≠ some '/' := by
      rwa [List.getLast?_cons_of_ne_nil hne]
    rw [dropEndSlash, if_neg hlast, dropSlash]
  | back => rw [dropEndSlash, if_pos List.getLast?_concat, List.dropLast_concat, hdrop]
  | both => rw [dropEndSlash, if_pos List.getLast?_concat, List.dropLast_concat, dropSlash]

theorem head?_join_of_isSegment {piece : List Char} (h : IsSegment piece)
    (pieces : List (List Char)) : (join '/' (piece :: pieces)).head? ≠ some '/' := by
  obtain ⟨c, cs, rfl⟩ := List.exists_cons_of_ne_nil h.ne_nil
  intro hc
  obtain rfl : c = '/' := by simpa [join] using hc
  exact h.no_slash List.mem_cons_self

theorem getLast?_join_of_isSegment {piece : List Char} (h : IsSegment piece)
    (pieces : List (List Char)) : (join '/' (pieces ++ [piece])).getLast? ≠ some '/' := by
  have hlast : piece.getLast? ≠ some '/' := fun hc => h.no_slash (List.mem_of_getLast? hc)
  cases pieces with
  | nil => simpa [join] using hlast
  | cons first pieces =>
    have hjoin : join '/' (first :: pieces ++ [piece]) =
        first ++ pieces.flatMap ('/' :: ·) ++ ['/'] ++ piece := by simp [join]
    rwa [hjoin, List.getLast?_append_of_ne_nil _ h.ne_nil]

/-- An address is judged by the segments between the slashes of its path. -/
theorem spells_iff {word method id address : String} (hword : IsSegment word.toList) :
    Spells word method id address ↔
      split '/' (dropSlash (dropEndSlash (pathOf address.toList))) =
          [word.toList, method.toList, id.toList] ∧ method.toList ≠ [] ∧ id.toList ≠ [] := by
  constructor
  · rintro ⟨⟨path, hpath, hslashed⟩, hmethod, hid⟩
    refine ⟨?_, hmethod.ne_nil, hid.ne_nil⟩
    have hfront := head?_join_of_isSegment hword [method.toList, id.toList]
    have hback := getLast?_join_of_isSegment hid [word.toList, method.toList]
    have hne : join '/' [word.toList, method.toList, id.toList] ≠ [] := by simp [join]
    rw [isPathOf_iff.mp hpath, dropSlash_of_slashed hslashed hne hfront hback,
      Text.split_eq_iff]
    refine ⟨List.cons_ne_nil _ _, rfl, ?_⟩
    simp [hword.no_slash, hmethod.no_slash, hid.no_slash]
  · rintro ⟨hsplit, hmethod, hid⟩
    obtain ⟨-, hjoin, hfree⟩ := Text.split_eq_iff.mp hsplit
    refine ⟨⟨_, isPathOf_iff.mpr rfl, hjoin ▸ slashed_dropSlash _⟩, ⟨hmethod, ?_⟩, ⟨hid, ?_⟩⟩
    · exact hfree _ (by simp)
    · exact hfree _ (by simp)

-- ---------------------------------------------------------------------------
-- Reading
-- ---------------------------------------------------------------------------

inductive IsWord : String → (String → String → Route) → Prop
  | callback : IsWord "callback" callback
  | login : IsWord "login" login

theorem IsWord.isSegment {word : String} {route : String → String → Route}
    (h : IsWord word route) : IsSegment word.toList := by
  cases h <;> exact ⟨by decide, by decide⟩

theorem ofPath_of_spells {word method id address : String} {route : String → String → Route}
    (hword : IsWord word route) (h : Spells word method id address) :
    ofPath address = route method id := by
  obtain ⟨hsplit, hmethod, hid⟩ := (spells_iff hword.isSegment).mp h
  unfold ofPath
  rw [hsplit]
  simp only [hmethod, hid, or_self, if_false, String.ofList_toList]
  cases hword with
  | callback => rw [if_pos rfl]
  | login => rw [if_neg (by decide), if_pos rfl]

theorem ofPath_cases (address : String) :
    ofPath address = normal ∨
      ∃ word route method id, IsWord word route ∧ Spells word method id address ∧
        ofPath address = route method id := by
  have hread {word route} (hword : IsWord word route) {method id : List Char}
      (hsplit : split '/' (dropSlash (dropEndSlash (pathOf address.toList))) =
        [word.toList, method, id]) (hne : ¬ (method = [] ∨ id = [])) :
      ∃ word route method id, IsWord word route ∧ Spells word method id address ∧
        ofPath address = route method id := by
    obtain ⟨hmethod, hid⟩ := not_or.mp hne
    have hspells : Spells word (String.ofList method) (String.ofList id) address := by
      refine (spells_iff hword.isSegment).mpr ⟨?_, ?_, ?_⟩ <;> simpa only [String.toList_ofList]
    exact ⟨word, route, _, _, hword, hspells, ofPath_of_spells hword hspells⟩
  by_cases hnormal : ofPath address = normal
  · exact .inl hnormal
  · right
    unfold ofPath at hnormal
    split at hnormal
    · rename_i hsplit
      split at hnormal
      · exact absurd rfl hnormal
      · rename_i hne
        split at hnormal
        · rename_i hcallback
          exact hread .callback (hcallback ▸ hsplit) hne
        · split at hnormal
          · rename_i hlogin
            exact hread .login (hlogin ▸ hsplit) hne
          · exact absurd rfl hnormal
    · exact absurd rfl hnormal

theorem ofPath_eq_iff {word : String} {route : String → String → Route} (h : IsWord word route)
    {method id address : String} :
    ofPath address = route method id ↔ Spells word method id address := by
  refine ⟨fun hread => ?_, ofPath_of_spells h⟩
  rcases ofPath_cases address with hnormal | ⟨word', route', method', id', h', hspells, hread'⟩
  · rw [hnormal] at hread
    cases h <;> cases hread
  · rw [hread'] at hread
    cases h <;> cases h' <;> cases hread <;> exact hspells

-- ---------------------------------------------------------------------------
-- Written addresses
-- ---------------------------------------------------------------------------

def IsWritable : Route → Prop
  | callback method id | login method id =>
    (IsSegment method.toList ∧ HasNoMark method.toList) ∧ IsSegment id.toList ∧ HasNoMark id.toList
  | normal => True

theorem IsWord.toList_path {word : String} {route : String → String → Route}
    (h : IsWord word route) (method id : String) :
    (route method id).path.toList = '/' :: join '/' [word.toList, method.toList, id.toList] := by
  cases h <;> simp [path, join]

theorem IsWord.isWritable_iff {word : String} {route : String → String → Route}
    (h : IsWord word route) {method id : String} :
    (route method id).IsWritable ↔ (IsSegment method.toList ∧ HasNoMark method.toList) ∧
      IsSegment id.toList ∧ HasNoMark id.toList := by
  cases h <;> rfl

theorem IsWord.hasNoMark_path {word : String} {route : String → String → Route}
    (h : IsWord word route) {method id : String} (hmethod : HasNoMark method.toList)
    (hid : HasNoMark id.toList) : HasNoMark (route method id).path.toList := by
  have hword : HasNoMark word.toList := by cases h <;> simp [HasNoMark]
  intro c hc
  rw [h.toList_path] at hc
  simp only [join, List.mem_cons, List.mem_append, List.flatMap_cons, List.flatMap_nil,
    List.append_nil] at hc
  rcases hc with rfl | hc | (rfl | hc) | rfl | hc
  · decide
  · exact hword c hc
  · decide
  · exact hmethod c hc
  · decide
  · exact hid c hc

theorem ofPath_path {route : Route} (hroute : route.IsWritable) {tail : String}
    (htail : IsTail tail.toList) : ofPath (route.path ++ tail) = route := by
  have hword {word : String} {make : String → String → Route} (h : IsWord word make)
      {method id : String} (hmake : (make method id).IsWritable) :
      ofPath ((make method id).path ++ tail) = make method id := by
    obtain ⟨⟨hmethod, hmethod'⟩, hid, hid'⟩ := h.isWritable_iff.mp hmake
    refine ofPath_of_spells h ⟨⟨_, ⟨h.hasNoMark_path hmethod' hid', tail.toList,
      String.toList_append, htail⟩, ?_⟩, hmethod, hid⟩
    rw [h.toList_path]
    exact .front
  cases route with
  | callback method id => exact hword .callback hroute
  | login method id => exact hword .login hroute
  | normal =>
    have hpath : pathOf (normal.path ++ tail).toList = ['/'] :=
      isPathOf_iff.mp ⟨by simp [HasNoMark], tail.toList, String.toList_append, htail⟩
    unfold ofPath
    rw [hpath]
    rfl

/-- Whatever the address, a route is read from it exactly if its path spells the route, and no route
in particular if it spells none. A route is read from its own address, whatever query or fragment
follows. -/
theorem ofPath_spells (address : String) :
    (∀ method id, ofPath address = callback method id ↔ Spells "callback" method id address) ∧
    (∀ method id, ofPath address = login method id ↔ Spells "login" method id address) ∧
    (ofPath address = normal ↔
      ∀ method id, ¬ Spells "callback" method id address ∧ ¬ Spells "login" method id address) ∧
    ∀ (route : Route) (tail : String), route.IsWritable → IsTail tail.toList →
      ofPath (route.path ++ tail) = route := by
  refine ⟨fun _ _ => ofPath_eq_iff .callback, fun _ _ => ofPath_eq_iff .login, ?_,
    fun _ _ hroute htail => ofPath_path hroute htail⟩
  constructor
  · intro hnormal method id
    rw [← ofPath_eq_iff .callback, ← ofPath_eq_iff .login, hnormal]
    exact ⟨nofun, nofun⟩
  · intro hnone
    rcases ofPath_cases address with hnormal | ⟨word, route, method, id, hword, hspells, -⟩
    · exact hnormal
    · cases hword with
      | callback => exact absurd hspells (hnone method id).1
      | login => exact absurd hspells (hnone method id).2

end AdminConsole.Route
