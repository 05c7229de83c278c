import AdminConsole.Federation
import AdminConsole.Route
import AdminConsole.Proofs.Client.Exchange
import AdminConsole.Proofs.Url.Append
import AdminConsole.Proofs.Uuid

/-!
# To the provider

A login address comes from whoever typed it. Nothing is sent for it unless it names a method that
there is and an id of the hyphenated form, and then the request has method and id as its last
segments, the id in lower case. No character of them has to be escaped.
-/

namespace AdminConsole

open Text (lower)

namespace RedirectTarget

theorem ofSegments_eq (method id : String) :
    ofSegments method id =
      (FederationKind.ofText method).bind fun kind =>
        match Uuid.ofHyphenated? id.toList with
        | some uuid => .ok ⟨kind, ⟨uuid⟩⟩
        | none => .error (.invalidProviderId kind) := by
  have hid := ProviderId.toOption_ofText id
  simp only [ofSegments]
  cases FederationKind.ofText method with
  | error e => rfl
  | ok kind =>
    cases hparse : ProviderId.ofText id with
    | error e =>
      rw [hparse] at hid
      have hnone : Uuid.ofHyphenated? id.toList = none := Option.map_eq_none_iff.mp hid.symm
      simp [Except.bind, hnone]
    | ok p =>
      rw [hparse] at hid
      obtain ⟨uuid, hread, rfl⟩ := Option.map_eq_some_iff.mp hid.symm
      simp [Except.bind, hread]

theorem ofSegments_of_unsupported {method : String} (hoidc : method ≠ "oidc")
    (hsaml : method ≠ "saml") (id : String) :
    ofSegments method id = .error (.unsupportedMethod method) := by
  rw [ofSegments_eq, FederationKind.ofText, if_neg hoidc, if_neg hsaml]
  rfl

theorem ofSegments_of_malformed (kind : FederationKind) {id : String}
    (hid : ¬ Uuid.IsHyphenated id.toList) :
    ofSegments kind.text id = .error (.invalidProviderId kind) := by
  have hnone : Uuid.ofHyphenated? id.toList = none := by
    rw [← Uuid.isSome_ofHyphenated?_iff] at hid
    simpa using hid
  rw [ofSegments_eq, FederationKind.ofText_text, hnone]
  rfl

theorem ofSegments_of_hyphenated (kind : FederationKind) {id : String}
    (hid : Uuid.IsHyphenated id.toList) :
    ∃ uuid, Uuid.ofHyphenated? id.toList = some uuid ∧
      ofSegments kind.text id = .ok ⟨kind, ⟨uuid⟩⟩ := by
  obtain ⟨uuid, hread⟩ := Option.isSome_iff_exists.mp (Uuid.isSome_ofHyphenated?_iff.mpr hid)
  refine ⟨uuid, hread, ?_⟩
  rw [ofSegments_eq, FederationKind.ofText_text, hread]
  rfl

end RedirectTarget

theorem FederationKind.exists_text {method : String} (h : method = "oidc" ∨ method = "saml") :
    ∃ kind : FederationKind, method = kind.text := by
  rcases h with rfl | rfl
  · exact ⟨.oidc, rfl⟩
  · exact ⟨.saml, rfl⟩

-- ---------------------------------------------------------------------------
-- The address of the request
-- ---------------------------------------------------------------------------

theorem isPlain_kind (kind : FederationKind) : Url.IsPlain kind.text.toList := by
  cases kind <;> exact ⟨by decide, by decide, by decide, by decide⟩

theorem not_inSegment_digit {c : Char} (h : c = '-' ∨ Text.IsHexDigit c) :
    Url.inSegment c = false ∧ Url.inSegment c.toLower = false := by
  have hall : ∀ m < 0x80, (Text.hexValue? (Char.ofNat m)).isSome = true →
      Url.inSegment (Char.ofNat m) = false ∧ Url.inSegment (Char.ofNat m).toLower = false := by
    decide
  rcases h with rfl | hdigit
  · decide
  · have := hall c.toNat (Text.toNat_lt_of_isHexDigit hdigit)
    rw [Char.ofNat_toNat] at this
    exact this (Text.isHexDigit_iff.mp hdigit)

theorem isPlain_of_length {cs : List Char} (hlength : cs.length = 36)
    (h : ∀ c ∈ cs, Url.inSegment c = false) : Url.IsPlain cs := by
  have hne (segment : List Char) (hshort : segment.length < 36) : cs ≠ segment := by
    rintro rfl
    omega
  exact ⟨hne _ (by decide), hne _ (by decide), hne _ (by decide),
    List.any_eq_false.mpr fun c hc => by simp [h c hc]⟩

theorem isPlain_of_isHyphenated {cs : List Char} (h : Uuid.IsHyphenated cs) : Url.IsPlain cs :=
  isPlain_of_length h.length_eq fun _ hc => (not_inSegment_digit (h.mem hc)).1

theorem isPlain_lower {cs : List Char} (h : Uuid.IsHyphenated cs) : Url.IsPlain (lower cs) := by
  refine isPlain_of_length (by rw [lower, List.length_map, h.length_eq]) ?_
  rw [lower, List.forall_mem_map]
  exact fun _ hc => (not_inSegment_digit (h.mem hc)).2

theorem url_lookUp (c : ApiClient) {kind : FederationKind} {id : String} {uuid : Uuid}
    (hid : Uuid.ofHyphenated? id.toList = some uuid) :
    c.endpoint ["authmethods", kind.text, (ProviderId.mk uuid).text] =
      { c.base with
        path := (if c.base.path = [[], []] then [] else Url.dropEmptyLast c.base.path) ++
          ["authmethods".toList, kind.text.toList, lower id.toList] } := by
  have hform : Uuid.IsHyphenated id.toList := Uuid.isSome_ofHyphenated?_iff.mp (by simp [hid])
  have hword : Url.IsPlain "authmethods".toList := ⟨by decide, by decide, by decide, by decide⟩
  have hplain : ∀ s ∈ ["authmethods".toList, kind.text.toList, lower id.toList], Url.IsPlain s := by
    simp only [List.forall_mem_cons]
    exact ⟨hword, isPlain_kind kind, isPlain_lower hform, nofun⟩
  rw [← Url.append_of_isPlain hplain, ApiClient.endpoint, ProviderId.text,
    Uuid.hyphenated_of_ofHyphenated? hid]
  simp

-- ---------------------------------------------------------------------------
-- The answer
-- ---------------------------------------------------------------------------

theorem redirectAddress_eq_ok_iff {result : Except ApiError Provider} {uri : String} :
    Provider.redirectAddress result = .ok uri ↔
      ∃ provider, result = .ok provider ∧ provider.redirectUri = some uri ∧
        uri.isEmpty = false := by
  cases result with
  | error e => simp [Provider.redirectAddress]
  | ok provider =>
    cases huri : provider.redirectUri with
    | none => simp [Provider.redirectAddress, huri]
    | some given =>
      simp only [Provider.redirectAddress, Except.ok.injEq, exists_eq_left', huri,
        Option.some.injEq]
      constructor
      · intro h
        split at h
        · cases h
        · rename_i hempty
          obtain rfl := Except.ok.inj h
          exact ⟨rfl, Bool.eq_false_iff.mpr hempty⟩
      · rintro ⟨rfl, hempty⟩
        rw [hempty]
        rfl

theorem isExchangeFailure_of_redirectAddress {result : Except ApiError Provider}
    {e : FederationError} (h : Provider.redirectAddress result = .error e) :
    e.isExchangeFailure = false := by
  simp only [Provider.redirectAddress] at h
  split at h
  · obtain rfl := Except.error.inj h
    rfl
  · split at h
    · split at h
      · obtain rfl := Except.error.inj h
        rfl
      · cases h
    · obtain rfl := Except.error.inj h
      rfl

-- ---------------------------------------------------------------------------
-- The whole leg
-- ---------------------------------------------------------------------------

section
variable (c : ApiClient) (connection : Http.Request → Http.Answer)

theorem via_of_unsupported {method : String} (hoidc : method ≠ "oidc") (hsaml : method ≠ "saml")
    (id : String) :
    (resolveRedirect method id).via c connection = ([], .error (.unsupportedMethod method)) := by
  rw [resolveRedirect, RedirectTarget.ofSegments_of_unsupported hoidc hsaml]
  rfl

theorem via_of_malformed (kind : FederationKind) {id : String}
    (hid : ¬ Uuid.IsHyphenated id.toList) :
    (resolveRedirect kind.text id).via c connection = ([], .error (.invalidProviderId kind)) := by
  rw [resolveRedirect, RedirectTarget.ofSegments_of_malformed kind hid]
  rfl

theorem via_of_hyphenated (kind : FederationKind) {id : String}
    (hid : Uuid.IsHyphenated id.toList) :
    ∃ get uuid, (resolveRedirect kind.text id).via c connection =
        ([get], Provider.redirectAddress
          ((Call.providerRedirect kind.text (ProviderId.mk uuid).text).ofAnswer
            (connection get))) ∧
      get.method = "GET" ∧
      get.url = { c.base with
        path := (if c.base.path = [[], []] then [] else Url.dropEmptyLast c.base.path) ++
          ["authmethods".toList, kind.text.toList, lower id.toList] } := by
  obtain ⟨uuid, hread, htarget⟩ := RedirectTarget.ofSegments_of_hyphenated kind hid
  rw [resolveRedirect, htarget]
  obtain ⟨get, hvia, hmethod, hurl⟩ := @via_ask_of_no_token _ _ c connection
    (.providerRedirect kind.text (ProviderId.mk uuid).text) rfl Provider.redirectAddress
  exact ⟨get, uuid, hvia, hmethod, hurl.trans (url_lookUp c hread)⟩

theorem isExchangeFailure_of_via {method id : String} {sent : List Http.Request}
    {e : FederationError} (h : (resolveRedirect method id).via c connection = (sent, .error e)) :
    e.isExchangeFailure = false := by
  by_cases hmethod : method = "oidc" ∨ method = "saml"
  · obtain ⟨kind, rfl⟩ := FederationKind.exists_text hmethod
    by_cases hid : Uuid.IsHyphenated id.toList
    · obtain ⟨get, uuid, hget, -⟩ := via_of_hyphenated c connection kind hid
      obtain ⟨-, hresult⟩ := Prod.mk.inj (hget.symm.trans h)
      exact isExchangeFailure_of_redirectAddress hresult
    · rw [via_of_malformed c connection kind hid] at h
      cases h
      rfl
  · rw [not_or] at hmethod
    rw [via_of_unsupported c connection hmethod.1 hmethod.2] at h
    cases h
    rfl

end

/-- Nothing is sent to look up a provider unless the method is known and the id is well formed; the
method is judged first. Otherwise one request is sent, to an address that ends in both, and its
answer gives the address to go to. Ids that differ in case only are sent and answered alike. -/
theorem resolveRedirect_via (c : ApiClient) (connection : Http.Request → Http.Answer)
    (method id : String) :
    let (sent, result) := (resolveRedirect method id).via c connection
    let front := if c.base.path = [[], []] then [] else Url.dropEmptyLast c.base.path
    ((method = "oidc" ∨ method = "saml") ∧ Uuid.IsHyphenated id.toList →
        ∃ get, sent = [get] ∧ get.method = "GET" ∧
          get.url = { c.base with
            path := front ++ ["authmethods".toList, method.toList, lower id.toList] } ∧
          ∀ uri, result = .ok uri ↔
            ∃ provider, Http.Delivers Provider.codec (connection get) provider ∧
              provider.redirectUri = some uri ∧ uri.isEmpty = false) ∧
      (method ≠ "oidc" → method ≠ "saml" →
        sent = [] ∧ result = .error (.unsupportedMethod method)) ∧
      (∀ kind : FederationKind, method = kind.text → ¬ Uuid.IsHyphenated id.toList →
        sent = [] ∧ result = .error (.invalidProviderId kind)) ∧
      (∀ id' : String, lower id'.toList = lower id.toList →
        (resolveRedirect method id').via c connection = (sent, result)) ∧
      ∀ e, result = .error e → e.isExchangeFailure = false := by
  generalize hvia : (resolveRedirect method id).via c connection = done
  obtain ⟨sent, result⟩ := done
  refine ⟨?_, ?_, ?_, ?_, ?_⟩
  · rintro ⟨hmethod, hid⟩
    obtain ⟨kind, rfl⟩ := FederationKind.exists_text hmethod
    obtain ⟨get, uuid, hget, hverb, hurl⟩ := via_of_hyphenated c connection kind hid
    obtain ⟨rfl, rfl⟩ := Prod.mk.inj (hvia.symm.trans hget)
    refine ⟨get, rfl, hverb, hurl, fun uri => ?_⟩
    simp only [redirectAddress_eq_ok_iff, (Call.providerRedirect_expects _ _).ok_iff]
  · intro hoidc hsaml
    rw [via_of_unsupported c connection hoidc hsaml] at hvia
    exact Prod.mk.inj hvia.symm
  · rintro kind rfl hid
    rw [via_of_malformed c connection kind hid] at hvia
    exact Prod.mk.inj hvia.symm
  · intro id' hcase
    have htarget : RedirectTarget.ofSegments method id' = RedirectTarget.ofSegments method id := by
      rw [RedirectTarget.ofSegments_eq, RedirectTarget.ofSegments_eq,
        Uuid.ofHyphenated?_congr hcase]
    rw [resolveRedirect, htarget, ← resolveRedirect, hvia]
  · rintro e rfl
    exact isExchangeFailure_of_via c connection hvia

/-- Two slashes in front of the query: what is left without the empty last segment is `/`, and a
path has no empty segment in front of what is appended to `/`. -/
def doubleSlash : Url :=
  ⟨.http, [], [], .ipv4 ⟨0x7F000001⟩, some 8000, [[], []], some ['q'], none⟩

theorem ofBaseUrl_doubleSlash :
    ApiClient.ofBaseUrl "http://127.0.0.1:8000//?q" none = .ok ⟨doubleSlash⟩ := by
  have hnormal : BaseUrl.normalize "http://127.0.0.1:8000//?q" =
      .ok "http://127.0.0.1:8000//?q" := rfl
  have hurl : Url.ofText? "http://127.0.0.1:8000//?q".toList = some doubleSlash := by
    decide +kernel
  simp only [ApiClient.ofBaseUrl, hnormal, Except.bind, ApiClient.ofNormalized, hurl]

/-- So the path of the request need not begin with all that is left of the base path. -/
theorem not_forall_path :
    ¬ ∀ (raw : String) (c : ApiClient) (connection : Http.Request → Http.Answer)
      (address method id : String), ApiClient.ofBaseUrl raw none = .ok c →
      Route.ofPath address = .login method id → (method = "oidc" ∨ method = "saml") →
      Uuid.IsHyphenated id.toList →
      ∃ get, ((resolveRedirect method id).via c connection).1 = [get] ∧
        get.url.path = Url.dropEmptyLast c.base.path ++
          ["authmethods".toList, method.toList, lower id.toList] := by
  intro h
  have hid : Uuid.IsHyphenated "3fa85f64-5717-4562-b3fc-2c963f66afa6".toList :=
    Uuid.isSome_ofHyphenated?_iff.mp (by decide)
  obtain ⟨get, hsent, hpath⟩ := h _ _ (fun _ => .error .sending)
    "/login/oidc/3fa85f64-5717-4562-b3fc-2c963f66afa6" _ _ ofBaseUrl_doubleSlash (by decide)
    (.inl rfl) hid
  obtain ⟨get', uuid, hvia, -, hurl⟩ :=
    via_of_hyphenated ⟨doubleSlash⟩ (fun _ => .error .sending) .oidc hid
  have hsent' : [get'] = [get] := (congrArg Prod.fst hvia).symm.trans hsent
  obtain rfl := List.singleton_inj.mp hsent'
  rw [hurl] at hpath
  exact absurd (congrArg List.length hpath) (by decide)

end AdminConsole
