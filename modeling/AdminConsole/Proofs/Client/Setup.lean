import AdminConsole.ApiClient
import AdminConsole.Proofs.BaseUrl
import AdminConsole.Proofs.Url.Authority

/-!
# Base URLs that a client can be had for

A base URL is normalized if something follows its scheme that does not start with a slash. A client
needs a host there, and the two are not the same: a query, a fragment or a port number may stand
where the host should be. The server asks for a normalized base URL and no more.
-/

namespace AdminConsole

theorem ApiClient.ofNormalized_eq_ok_iff {u : String} {c : ApiClient} :
    ApiClient.ofNormalized u none = .ok c ↔ Url.ofText? u.toList = some c.base := by
  simp only [ApiClient.ofNormalized]
  cases Url.ofText? u.toList with
  | none => exact iff_of_false nofun nofun
  | some base =>
    rw [Option.some_inj]
    constructor
    · rintro ⟨⟩
      rfl
    · rintro rfl
      rfl

theorem ApiClient.ofNormalized_eq_invalid_iff {u : String} {obstacle : Option String} :
    ApiClient.ofNormalized u obstacle = .error (.invalidBaseUrl u) ↔
      Url.ofText? u.toList = none := by
  simp only [ApiClient.ofNormalized]
  cases Url.ofText? u.toList with
  | none => exact iff_of_true rfl rfl
  | some base => cases obstacle <;> exact iff_of_false nofun nofun

namespace BaseUrl

/-- What follows the scheme names a host, once the end of the base URL is cleaned. -/
def PointsTo (u : List Char) (scheme : Scheme) (host : Host) : Prop :=
  ∃ text, u = scheme.text ++ "://".toList ++ text ∧ Url.Names (Url.cleanEnd text) host

theorem PointsTo.text_ne_nil {u : List Char} {scheme : Scheme} {host : Host}
    (h : PointsTo u scheme host) : host.text ≠ [] := by
  obtain ⟨text, -, hnames⟩ := h
  exact hnames.text_ne_nil

theorem afterScheme?_eq_some_iff {u rest : List Char} :
    afterScheme? u = some rest ↔
      ∃ scheme : Scheme, u = scheme.text ++ "://".toList ++ rest := by
  simp only [afterScheme?, Option.or_eq_some_iff, Text.dropHead?_eq_some_iff]
  constructor
  · rintro (hhttp | ⟨-, hhttps⟩)
    · exact ⟨.http, hhttp⟩
    · exact ⟨.https, hhttps⟩
  · rintro ⟨scheme, rfl⟩
    cases scheme with
    | http => exact .inl rfl
    | https => exact .inr ⟨rfl, rfl⟩

theorem isAcceptable_iff {u : List Char} :
    isAcceptable u = true ↔
      ∃ (scheme : Scheme) (c : Char) (text : List Char),
        u = scheme.text ++ "://".toList ++ c :: text ∧ c ≠ '/' := by
  constructor
  · intro h
    simp only [isAcceptable] at h
    split at h
    · rename_i c text hafter
      obtain ⟨scheme, hu⟩ := afterScheme?_eq_some_iff.mp hafter
      exact ⟨scheme, c, text, hu, by simpa using h⟩
    · cases h
  · rintro ⟨scheme, c, text, hu, hc⟩
    simp only [isAcceptable, afterScheme?_eq_some_iff.mpr ⟨scheme, hu⟩]
    simpa using hc

theorem exists_url_iff {u : List Char} (h : isAcceptable u = true) {scheme : Scheme}
    {host : Host} :
    (∃ base, Url.ofText? u = some base ∧ base.scheme = scheme ∧ base.host = host) ↔
      PointsTo u scheme host := by
  constructor
  · intro hbase
    obtain ⟨s, c, text, rfl, -⟩ := isAcceptable_iff.mp h
    obtain ⟨rfl, hnames⟩ := Url.exists_ofText?_iff.mp hbase
    exact ⟨c :: text, rfl, hnames⟩
  · rintro ⟨text, rfl, hnames⟩
    exact Url.exists_ofText?_iff.mpr ⟨rfl, hnames⟩

end BaseUrl

/-- A normalized base URL has a scheme and something else than a slash behind it. A client can be
had for it exactly if it points to a host, which is not empty, and it is the client of that host.
The server takes the base URL even if it does not point to a host. -/
theorem client_iff_pointsTo {raw u : String} (h : BaseUrl.normalize raw = .ok u) :
    (ServerConfig.mk (some raw)).backendUrl = .ok (some u) ∧
      (∃ (scheme : Scheme) (c : Char) (text : List Char),
        u.toList = scheme.text ++ "://".toList ++ c :: text ∧ c ≠ '/') ∧
      (∀ scheme host,
        (∃ c, ApiClient.ofNormalized u none = .ok c ∧ c.base.scheme = scheme ∧
          c.base.host = host) ↔ BaseUrl.PointsTo u.toList scheme host) ∧
      (∀ scheme host, BaseUrl.PointsTo u.toList scheme host → host.text ≠ []) ∧
      ∀ obstacle, ApiClient.ofNormalized u obstacle = .error (.invalidBaseUrl u) ↔
        ¬ ∃ scheme host, BaseUrl.PointsTo u.toList scheme host := by
  obtain ⟨-, hacceptable⟩ := BaseUrl.normalize_eq_ok_iff.mp h
  refine ⟨BaseUrl.backendUrl_eq_ok_iff.mpr h, BaseUrl.isAcceptable_iff.mp hacceptable,
    fun scheme host => ?_, fun _ _ => BaseUrl.PointsTo.text_ne_nil, fun obstacle => ?_⟩
  · rw [← BaseUrl.exists_url_iff hacceptable]
    constructor
    · rintro ⟨c, hclient, hparts⟩
      exact ⟨c.base, ApiClient.ofNormalized_eq_ok_iff.mp hclient, hparts⟩
    · rintro ⟨base, hbase, hparts⟩
      exact ⟨⟨base⟩, ApiClient.ofNormalized_eq_ok_iff.mpr hbase, hparts⟩
  · rw [ApiClient.ofNormalized_eq_invalid_iff, Option.eq_none_iff_forall_ne_some]
    constructor
    · rintro hnone ⟨scheme, host, hpoints⟩
      obtain ⟨base, hbase, -⟩ := (BaseUrl.exists_url_iff hacceptable).mpr hpoints
      exact hnone base hbase
    · intro hpoints base hbase
      exact hpoints ⟨_, _, (BaseUrl.exists_url_iff hacceptable).mp ⟨base, hbase, rfl, rfl⟩⟩

theorem client_of_pointsTo_vpn :
    BaseUrl.normalize "https://admin@vpn.example.com:8443/api/" =
        .ok "https://admin@vpn.example.com:8443/api" ∧
      ∃ c, ApiClient.ofNormalized "https://admin@vpn.example.com:8443/api" none = .ok c ∧
        c.base.scheme = .https ∧ c.base.host = .domain "vpn.example.com".toList := by
  have hnormal : BaseUrl.normalize "https://admin@vpn.example.com:8443/api/" =
      .ok "https://admin@vpn.example.com:8443/api" := rfl
  have hhost : Host.ofText? "vpn.example.com".toList = some (.domain "vpn.example.com".toList) := by
    decide +kernel
  have hcolon : ':' ∉ "vpn.example.com".toList := by decide
  have hlocation : Url.Locates "vpn.example.com:8443".toList
      (.domain "vpn.example.com".toList) := by
    refine @Url.Locates.intro _ (some "8443".toList) _ (fun front back hname => ?_) (fun _ => ?_)
      hhost ?_
    · exact absurd (by simp [hname]) hcolon
    · exact Url.not_isOpen_of_notMem (by decide)
    · rintro _ ⟨⟩
      exact ⟨by simp, by decide⟩
  obtain ⟨-, -, hclient, -⟩ := client_iff_pointsTo hnormal
  refine ⟨hnormal, (hclient _ _).mpr ⟨"admin@vpn.example.com:8443/api".toList, rfl, ?_⟩⟩
  exact @Url.Names.intro [] "admin@".toList _ "/api".toList _ nofun (by simp)
    (by simp [Url.isMark, Url.isSlash]) (by decide) hlocation (by simp [Url.isMark, Url.isSlash])

/-- So a base URL that has a query in place of the host is normalized and taken by the server, and
no client can be had for it. -/
theorem not_forall_client :
    (¬ ∀ raw u, BaseUrl.normalize raw = .ok u →
      ∃ c, ApiClient.ofNormalized u none = .ok c) ∧
    (ServerConfig.mk (some "http://?x")).backendUrl = .ok (some "http://?x") := by
  have hnormal : BaseUrl.normalize "http://?x" = .ok "http://?x" := rfl
  have hurl : Url.ofText? "http://?x".toList = none := by decide +kernel
  refine ⟨fun h => ?_, BaseUrl.backendUrl_eq_ok_iff.mpr hnormal⟩
  obtain ⟨c, hclient⟩ := h _ _ hnormal
  rw [ApiClient.ofNormalized_eq_ok_iff, hurl] at hclient
  cases hclient

end AdminConsole
