import Mathlib.Data.List.TakeWhile
import AdminConsole.Proxy
import AdminConsole.Proofs.Text

/-!
# What the proxy passes on

A request that is not too large goes on to the backend once, and what comes back is the answer. Of
its headers three go on, each with its first value. No other header has an influence on what is sent
or answered.
-/

namespace AdminConsole

namespace Proxy

-- ---------------------------------------------------------------------------
-- Headers
-- ---------------------------------------------------------------------------

def isNamed (name : String) (header : String × String) : Bool :=
  Text.lower header.1.toList = name.toList

/-- The first value of a header, if there is a header of that name. -/
inductive IsFirst (headers : List (String × String)) (name : String) : Option String → Prop
  | present {before after : List (String × String)} {key value : String}
    (hsplit : headers = before ++ (key, value) :: after) (hkey : isNamed name (key, value) = true)
    (hbefore : ∀ header ∈ before, isNamed name header = false) : IsFirst headers name (some value)
  | absent (h : ∀ header ∈ headers, isNamed name header = false) : IsFirst headers name none

theorem firstValue?_eq (headers : List (String × String)) (name : String) :
    firstValue? headers name = (headers.find? (isNamed name)).map (·.2) := rfl

theorem firstValue?_eq_iff {headers : List (String × String)} {name : String}
    {value : Option String} : firstValue? headers name = value ↔ IsFirst headers name value := by
  rw [firstValue?_eq]
  constructor
  · rintro rfl
    cases hfind : headers.find? (isNamed name) with
    | none =>
      exact .absent fun header hmem => by simpa using List.find?_eq_none.mp hfind header hmem
    | some header =>
      obtain ⟨hkey, before, after, hsplit, hbefore⟩ := List.find?_eq_some_iff_append.mp hfind
      exact .present hsplit hkey fun other hmem => by simpa using hbefore other hmem
  · intro h
    cases h with
    | absent h =>
      have hfind : headers.find? (isNamed name) = none :=
        List.find?_eq_none.mpr fun header hmem => by simp [h header hmem]
      rw [hfind]
      rfl
    | @present before after key value hsplit hkey hbefore =>
      have hfind : headers.find? (isNamed name) = some (key, value) :=
        List.find?_eq_some_iff_append.mpr
          ⟨hkey, before, after, hsplit, fun other hmem => by simp [hbefore other hmem]⟩
      rw [hfind]
      rfl

def isForwarded (header : String × String) : Bool :=
  ["authorization", "content-type", "accept"].any fun name => isNamed name header

theorem firstValue?_filter {keep : String × String → Bool} {name : String}
    (h : ∀ header, isNamed name header = true → keep header = true)
    (headers : List (String × String)) :
    firstValue? (headers.filter keep) name = firstValue? headers name := by
  rw [firstValue?_eq, firstValue?_eq, List.find?_filter]
  congr 2
  funext header
  cases hnamed : isNamed name header with
  | false => simp
  | true => simp [h header hnamed]

theorem forwarded_filter (headers : List (String × String)) :
    forwarded (headers.filter isForwarded) = forwarded headers := by
  have hkeep : ∀ name ∈ ["authorization", "content-type", "accept"], ∀ header,
      isNamed name header = true → isForwarded header = true :=
    fun name hmem header hnamed => List.any_eq_true.mpr ⟨name, hmem, hnamed⟩
  rw [forwarded, forwarded, firstValue?_filter (hkeep "authorization" (by simp)),
    firstValue?_filter (hkeep "content-type" (by simp)),
    firstValue?_filter (hkeep "accept" (by simp))]

example : forwarded [("Cookie", "a=b"), ("AUTHORIZATION", "Bearer x"), ("authorization", "y")] =
    ⟨some "Bearer x", none, some "*/*"⟩ := by decide

-- ---------------------------------------------------------------------------
-- Path and query
-- ---------------------------------------------------------------------------

/-- What may stand in front of the path of a request: nothing, or a scheme and an authority. -/
inductive IsOrigin : List Char → Prop
  | none : IsOrigin []
  | absolute {scheme authority : List Char} (hne : scheme ≠ [])
    (hscheme : ∀ c ∈ scheme, c.isAlpha = true)
    (hauthority : ∀ c ∈ authority, c ≠ '/' ∧ c ≠ '?' ∧ c ≠ '#') :
    IsOrigin (scheme ++ ':' :: '/' :: '/' :: authority)

theorem IsOrigin.not_hash {origin : List Char} (h : IsOrigin origin) : '#' ∉ origin := by
  cases h with
  | none => exact List.not_mem_nil
  | absolute hne hscheme hauthority =>
    intro hmem
    rcases List.mem_append.mp hmem with hmem | hmem
    · exact absurd (hscheme _ hmem) (by decide)
    · simp only [List.mem_cons, Char.reduceEq, false_or] at hmem
      exact (hauthority _ hmem).2.2 rfl

theorem takeWhile_of_not_hash {cs : List Char} (h : '#' ∉ cs) :
    cs.takeWhile (· ≠ '#') = cs := by
  rw [List.takeWhile_eq_self_iff]
  intro c hc
  have hne : c ≠ '#' := by
    rintro rfl
    exact h hc
  simpa using hne

/-- A fragment is no part of what is asked for. -/
theorem pathAndQuery_hash {uri : List Char} (h : '#' ∉ uri) (fragment : List Char) :
    pathAndQuery (String.ofList (uri ++ '#' :: fragment)) =
      pathAndQuery (String.ofList uri) := by
  have hlocated : (uri ++ '#' :: fragment).takeWhile (· ≠ '#') = uri := by
    rw [List.takeWhile_append, takeWhile_of_not_hash h, if_pos rfl]
    simp
  simp only [pathAndQuery, String.toList_ofList, hlocated, takeWhile_of_not_hash h]

/-- What stands behind an authority is the path, and nothing stands for the root. -/
theorem pathAndQuery_absolute {scheme authority rest : List Char} (hne : scheme ≠ [])
    (hscheme : ∀ c ∈ scheme, c.isAlpha = true)
    (hauthority : ∀ c ∈ authority, c ≠ '/' ∧ c ≠ '?' ∧ c ≠ '#') (hrest : '#' ∉ rest)
    (hstart : rest.dropWhile (fun c => c ≠ '/' ∧ c ≠ '?') = rest) :
    pathAndQuery (String.ofList (scheme ++ ':' :: '/' :: '/' :: authority ++ rest)) =
      if rest = [] then ['/'] else rest := by
  have horigin : '#' ∉ scheme ++ ':' :: '/' :: '/' :: authority :=
    (IsOrigin.absolute hne hscheme hauthority).not_hash
  have hwhole : '#' ∉ scheme ++ ':' :: '/' :: '/' :: authority ++ rest :=
    fun hmem => (List.mem_append.mp hmem).elim horigin hrest
  have hlocated := takeWhile_of_not_hash hwhole
  rw [pathAndQuery, String.toList_ofList]
  simp only [hlocated]
  obtain ⟨c, scheme, rfl⟩ := List.exists_cons_of_ne_nil hne
  have hcolon : ':' ∉ c :: scheme := fun hmem => absurd (hscheme _ hmem) (by decide)
  have hcut := Text.cut_append_cons hcolon ('/' :: '/' :: (authority ++ rest))
  have hdrop : (authority ++ rest).dropWhile (fun c => c ≠ '/' ∧ c ≠ '?') = rest := by
    rw [List.dropWhile_append_of_pos fun c hc => by simpa using ⟨(hauthority c hc).1,
      (hauthority c hc).2.1⟩]
    exact hstart
  have hslash : c ≠ '/' := by
    rintro rfl
    exact absurd (hscheme '/' (by simp)) (by decide)
  have hstar : c ≠ '*' := by
    rintro rfl
    exact absurd (hscheme '*' (by simp)) (by decide)
  simp only [List.cons_append, List.append_assoc] at hcut ⊢
  -- The first character belongs to the scheme, so only the last way of reading is left.
  split
  · rename_i heq
    cases heq
  · rename_i heq
    cases heq
    exact absurd rfl hslash
  · rename_i heq
    cases heq
    exact absurd rfl hstar
  · rw [hcut]
    simp only [hdrop]
    cases rest with
    | nil => rfl
    | cons => simp

theorem pathAndQuery_append {origin path : List Char} (horigin : IsOrigin origin)
    (hpath : '#' ∉ path) :
    pathAndQuery (String.ofList (origin ++ '/' :: path)) = '/' :: path := by
  have hrest : '#' ∉ '/' :: path := by simpa using hpath
  cases horigin with
  | none =>
    rw [List.nil_append, pathAndQuery, String.toList_ofList]
    simp only [takeWhile_of_not_hash hrest]
  | absolute hne hscheme hauthority =>
    exact pathAndQuery_absolute hne hscheme hauthority hrest rfl

theorem pathAndQuery_origin {origin : List Char} (horigin : IsOrigin origin) :
    pathAndQuery (String.ofList origin) = ['/'] := by
  cases horigin with
  | none => rfl
  | absolute hne hscheme hauthority =>
    have hempty : '#' ∉ ([] : List Char) := List.not_mem_nil
    have habsolute := pathAndQuery_absolute hne hscheme hauthority hempty rfl
    rwa [List.append_nil] at habsolute

-- ---------------------------------------------------------------------------
-- Requests and answers
-- ---------------------------------------------------------------------------

/-- `request` is what `incoming` becomes on its way. A client that is not told which types to accept
says by itself that it accepts any. -/
structure Carries (p : Proxy) (incoming : Incoming) (request : Http.Request) : Prop where
  method : request.method = incoming.method
  url : Url.ofText? (p.backend.toList ++ pathAndQuery incoming.uri) = some request.url
  body : request.body = incoming.body
  authorization : IsFirst incoming.headers "authorization" request.headers.authorization
  contentType : IsFirst incoming.headers "content-type" request.headers.contentType
  accept : ∃ value, IsFirst incoming.headers "accept" value ∧
    request.headers.accept = some (value.getD "*/*")

theorem forward_eq_ok_iff {p : Proxy} {incoming : Incoming} {request : Http.Request} :
    p.forward incoming = .ok request ↔
      incoming.body.length ≤ maxBody ∧ p.Carries incoming request := by
  constructor
  · intro h
    simp only [forward] at h
    split at h
    · cases h
    · rename_i hbody
      split at h
      · cases h
      · rename_i url hurl
        obtain rfl := Except.ok.inj h
        exact ⟨Nat.not_lt.mp hbody, rfl, hurl, rfl, firstValue?_eq_iff.mp rfl,
          firstValue?_eq_iff.mp rfl, _, firstValue?_eq_iff.mp rfl, rfl⟩
  · rintro ⟨hbody, h⟩
    obtain ⟨value, hvalue, haccept⟩ := h.accept
    have hheaders : forwarded incoming.headers = request.headers := by
      rw [forwarded, firstValue?_eq_iff.mpr h.authorization, firstValue?_eq_iff.mpr h.contentType,
        firstValue?_eq_iff.mpr hvalue, Http.anyType, ← haccept]
    have hurl : Url.ofText? (p.target incoming.uri) = some request.url := h.url
    rw [forward, if_neg (Nat.not_lt.mpr hbody)]
    simp only [hurl, hheaders, ← h.method, ← h.body]

theorem forward_eq_error_iff {p : Proxy} {incoming : Incoming} {response : Http.Response} :
    p.forward incoming = .error response ↔
      maxBody < incoming.body.length ∧ response = tooLarge ∨
        incoming.body.length ≤ maxBody ∧
          Url.ofText? (p.backend.toList ++ pathAndQuery incoming.uri) = none ∧
          response = unreachable := by
  by_cases hbody : maxBody < incoming.body.length
  · simp [forward, hbody, Nat.not_le.mpr hbody, eq_comm]
  · rw [← target]
    cases hurl : Url.ofText? (p.target incoming.uri) <;>
      simp [forward, hbody, Nat.not_lt.mp hbody, hurl, eq_comm]

/-- What becomes of an incoming request, given what the backend answers: the request that is sent to
the backend, if any, and the answer. -/
inductive Relays (p : Proxy) (connection : Http.Request → Http.Answer) (incoming : Incoming) :
    Option Http.Request → Http.Response → Prop
  | tooLarge (hbody : 1024 * 1024 < incoming.body.length) :
    Relays p connection incoming none
      ⟨413, some "text/plain; charset=utf-8", Utf8.encode "length limit exceeded".toList⟩
  | unaddressed (hbody : incoming.body.length ≤ 1024 * 1024)
    (hurl : Url.ofText? (p.backend.toList ++ pathAndQuery incoming.uri) = none) :
    Relays p connection incoming none
      ⟨502, some "text/plain; charset=utf-8", Utf8.encode "API upstream unreachable".toList⟩
  | answered {request : Http.Request} {response : Http.Response}
    (hbody : incoming.body.length ≤ 1024 * 1024) (hcarries : p.Carries incoming request)
    (hanswer : connection request = .ok response) :
    Relays p connection incoming (some request) response
  | broken {request : Http.Request} {e : Http.TransportError}
    (hbody : incoming.body.length ≤ 1024 * 1024) (hcarries : p.Carries incoming request)
    (hanswer : connection request = .error e) :
    Relays p connection incoming (some request)
      ⟨502, some "text/plain; charset=utf-8", Utf8.encode "API upstream unreachable".toList⟩

theorem relays_handle (p : Proxy) (connection : Http.Request → Http.Answer)
    (incoming : Incoming) :
    p.Relays connection incoming (p.handle connection incoming).1
      (p.handle connection incoming).2 := by
  cases hforward : p.forward incoming with
  | error response =>
    simp only [handle, hforward]
    rcases forward_eq_error_iff.mp hforward with ⟨hbody, rfl⟩ | ⟨hbody, hurl, rfl⟩
    · exact .tooLarge hbody
    · exact .unaddressed hbody hurl
  | ok request =>
    obtain ⟨hbody, hcarries⟩ := forward_eq_ok_iff.mp hforward
    simp only [handle, hforward]
    cases hanswer : connection request with
    | error e => exact .broken hbody hcarries hanswer
    | ok response => exact .answered hbody hcarries hanswer

theorem Relays.handle_eq {p : Proxy} {connection : Http.Request → Http.Answer}
    {incoming : Incoming} {sent : Option Http.Request} {response : Http.Response}
    (h : p.Relays connection incoming sent response) :
    p.handle connection incoming = (sent, response) := by
  cases h with
  | tooLarge hbody =>
    have hforward : p.forward incoming = .error Proxy.tooLarge :=
      forward_eq_error_iff.mpr (.inl ⟨hbody, rfl⟩)
    rw [handle, hforward, Proxy.tooLarge, own_eq]
  | unaddressed hbody hurl =>
    have hforward : p.forward incoming = .error unreachable :=
      forward_eq_error_iff.mpr (.inr ⟨hbody, hurl, rfl⟩)
    rw [handle, hforward, unreachable, own_eq]
  | answered hbody hcarries hanswer =>
    simp only [handle, forward_eq_ok_iff.mpr ⟨hbody, hcarries⟩, hanswer, reply]
  | broken hbody hcarries hanswer =>
    simp only [handle, forward_eq_ok_iff.mpr ⟨hbody, hcarries⟩, hanswer, reply]
    rw [unreachable, own_eq]

/-- A proxy relays: at most one request is sent, it carries what came in, and the backend's answer
comes back as it is. Requests that differ in other headers only are relayed alike. What is carried
of an address is its path and query. -/
theorem handle_eq_iff (p : Proxy) (connection : Http.Request → Http.Answer) (incoming : Incoming) :
    (∀ sent response, p.handle connection incoming = (sent, response) ↔
        p.Relays connection incoming sent response) ∧
      (∀ other : Incoming, other.method = incoming.method →
        pathAndQuery other.uri = pathAndQuery incoming.uri → other.body = incoming.body →
        other.headers.filter isForwarded = incoming.headers.filter isForwarded →
        p.handle connection other = p.handle connection incoming) ∧
      (∀ origin path, IsOrigin origin → '#' ∉ path →
        pathAndQuery (String.ofList (origin ++ '/' :: path)) = '/' :: path) ∧
      (∀ origin, IsOrigin origin → pathAndQuery (String.ofList origin) = ['/']) ∧
      ∀ uri fragment, '#' ∉ uri →
        pathAndQuery (String.ofList (uri ++ '#' :: fragment)) =
          pathAndQuery (String.ofList uri) := by
  refine ⟨fun sent response => ⟨?_, Relays.handle_eq⟩, ?_, fun _ _ => pathAndQuery_append,
    fun _ => pathAndQuery_origin, fun _ fragment h => pathAndQuery_hash h fragment⟩
  · intro h
    have hrelays := relays_handle p connection incoming
    rwa [h] at hrelays
  · intro other hmethod huri hbody hheaders
    have hforwarded : forwarded other.headers = forwarded incoming.headers := by
      rw [← forwarded_filter, hheaders, forwarded_filter]
    have hforward : p.forward other = p.forward incoming := by
      simp only [forward, target, hmethod, huri, hbody, hforwarded]
    simp only [handle, hforward]

end Proxy

end AdminConsole
