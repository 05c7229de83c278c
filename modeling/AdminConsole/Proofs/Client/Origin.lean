import Mathlib.Data.List.Infix
import AdminConsole.Proofs.Client.Setup

/-!
# Base URLs on the site of the console

The base URL on a site is its origin, cleaned like any base URL, with the path of the backend behind
it. The path begins with a slash and what is cleaned ends in none, so the two cannot make up a
scheme or stand for a host together: the origin is judged as if it had been given alone.
-/

namespace AdminConsole

namespace BaseUrl

theorem slash_notMem_getLast?_dropSlashes (cs : List Char) :
    ∀ last ∈ (dropSlashes cs).getLast?, last ≠ '/' := fun _ hlast => by
  simpa using Text.getLast?_dropEndWhile hlast

theorem isAcceptable_of_beginning (scheme : Scheme) :
    ∀ cs ∈ (scheme.text ++ "://".toList).inits, cs.getLast? ≠ some '/' →
      isAcceptable (cs ++ apiPath.toList) = false := by
  cases scheme <;> decide

theorem isAcceptable_append_apiPath {cs : List Char} (h : ∀ last ∈ cs.getLast?, last ≠ '/') :
    isAcceptable (cs ++ apiPath.toList) = isAcceptable cs := by
  rw [Bool.eq_iff_iff]
  constructor
  · intro hacceptable
    obtain ⟨scheme, c, text, hu, hc⟩ := isAcceptable_iff.mp hacceptable
    have hhead : scheme.text ++ "://".toList ++ [c] <+: cs ++ apiPath.toList :=
      ⟨text, by rw [hu, List.append_assoc _ [c], List.singleton_append]⟩
    rcases List.prefix_or_prefix_of_prefix hhead (List.prefix_append cs _) with hin | hbeginning
    · obtain ⟨rest, rfl⟩ := hin
      exact isAcceptable_iff.mpr ⟨scheme, c, rest, by simp, hc⟩
    · rcases List.prefix_concat_iff.mp hbeginning with rfl | hbeginning
      · exact isAcceptable_iff.mpr ⟨scheme, c, [], rfl, hc⟩
      · have hnot := isAcceptable_of_beginning scheme cs ((List.mem_inits _ _).mpr hbeginning)
          fun hlast => h _ hlast rfl
        exact absurd (hacceptable.symm.trans hnot) nofun
  · intro hacceptable
    obtain ⟨scheme, c, text, rfl, hc⟩ := isAcceptable_iff.mp hacceptable
    exact isAcceptable_iff.mpr ⟨scheme, c, text ++ apiPath.toList, by simp, hc⟩

theorem getLast?_append_apiPath (cs : List Char) :
    (cs ++ apiPath.toList).getLast? = some 'i' := by
  rw [List.getLast?_append]
  rfl

theorem isTrimmed_append_apiPath (raw : List Char) :
    Text.IsTrimmed (dropSlashes (Text.trim raw) ++ apiPath.toList) := by
  refine ⟨fun first hfirst => ?_, fun last hlast => ?_⟩
  · rw [List.head?_append, Option.mem_def, Option.or_eq_some_iff] at hfirst
    rcases hfirst with hfirst | ⟨-, hpath⟩
    · obtain ⟨slashes, htrim⟩ := Text.dropEndWhile_prefix (· = '/') (Text.trim raw)
      refine (Text.isTrimmed_trim raw).front first ?_
      rw [← htrim, ← dropSlashes, List.head?_append, hfirst]
      rfl
    · obtain rfl := Option.some.inj hpath
      decide
  · rw [getLast?_append_apiPath] at hlast
    obtain rfl := Option.some.inj hlast
    decide

theorem dropSlashes_append_apiPath (cs : List Char) :
    dropSlashes (cs ++ apiPath.toList) = cs ++ apiPath.toList := by
  refine Text.dropEndWhile_eq_self_iff.mpr fun last hlast => ?_
  rw [getLast?_append_apiPath] at hlast
  obtain rfl := Option.some.inj hlast
  rfl

theorem ofOrigin_eq (origin : String) :
    ofOrigin origin =
      let text := String.ofList (dropSlashes (Text.trim origin.toList)) ++ apiPath
      if isAcceptable (dropSlashes (Text.trim origin.toList)) then .ok text
      else .error (.invalidBaseUrl text) := by
  have htext : (String.ofList (dropSlashes (Text.trim origin.toList)) ++ apiPath).toList =
      dropSlashes (Text.trim origin.toList) ++ apiPath.toList := by
    rw [String.toList_append, String.toList_ofList]
  have hne : dropSlashes (Text.trim origin.toList) ++ apiPath.toList ≠ [] :=
    List.append_ne_nil_of_right_ne_nil _ (by decide)
  have haccept := isAcceptable_append_apiPath
    (slash_notMem_getLast?_dropSlashes (Text.trim origin.toList))
  simp only [ofOrigin, normalize]
  rw [htext, Text.trim_eq_self_iff.mpr (isTrimmed_append_apiPath _), dropSlashes_append_apiPath,
    if_neg hne, haccept, ← htext, String.ofList_toList]

/-- The base URL on a site ends as its origin does by itself, with the path behind it. Without an
origin the path is left, which is refused. -/
theorem ofOrigin_cases (origin : String) :
    (∃ base, normalize origin = .ok base ∧ ofOrigin origin = .ok (base ++ "/api")) ∨
      (normalize origin = .error .emptyBaseUrl ∧
        ofOrigin origin = .error (.invalidBaseUrl "/api")) ∨
      ∃ text, normalize origin = .error (.invalidBaseUrl text) ∧
        ofOrigin origin = .error (.invalidBaseUrl (text ++ "/api")) := by
  rw [ofOrigin_eq]
  simp only [normalize]
  generalize dropSlashes (Text.trim origin.toList) = cs
  split
  · rename_i hnil
    subst hnil
    exact .inr (.inl ⟨rfl, rfl⟩)
  · split
    · exact .inl ⟨_, rfl, rfl⟩
    · exact .inr (.inr ⟨_, rfl, rfl⟩)

/-- A console has a base URL on its site exactly if the origin is a base URL by itself, and it is
that base URL with the path behind it. An origin that is refused by itself is refused on its site
too, and shown with the path behind it. -/
theorem ofOrigin_eq_ok_iff (origin : String) :
    (∀ u, ofOrigin origin = .ok u ↔ ∃ base, normalize origin = .ok base ∧ u = base ++ "/api") ∧
      (normalize origin = .error .emptyBaseUrl →
        ofOrigin origin = .error (.invalidBaseUrl "/api")) ∧
      ∀ text, normalize origin = .error (.invalidBaseUrl text) →
        ofOrigin origin = .error (.invalidBaseUrl (text ++ "/api")) := by
  rcases ofOrigin_cases origin with ⟨base, h, hsite⟩ | ⟨h, hsite⟩ | ⟨text, h, hsite⟩
  · rw [h, hsite]
    refine ⟨fun u => ?_, nofun, nofun⟩
    simp [eq_comm]
  · rw [h, hsite]
    exact ⟨fun u => ⟨nofun, fun ⟨_, hbase, _⟩ => nomatch hbase⟩, fun _ => rfl, nofun⟩
  · rw [h, hsite]
    refine ⟨fun u => ⟨nofun, fun ⟨_, hbase, _⟩ => nomatch hbase⟩, nofun, ?_⟩
    rintro _ ⟨⟩
    rfl

end BaseUrl

end AdminConsole
