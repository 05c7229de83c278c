import AdminConsole.Proofs.BaseUrl
import AdminConsole.Proofs.Client.Callback
import AdminConsole.Proofs.Client.Redirect
import AdminConsole.Proofs.Client.Relay
import AdminConsole.Proofs.Client.Setup
import AdminConsole.Proofs.Url.Written

/-!
# Asking through the proxy

The client appends segments to the path of the base URL, the proxy writes the request path behind
its text. They ask the backend for the same unless the base URL has a query or a fragment, ends in a
backslash or has the path `//`.
-/

namespace AdminConsole

open Url (IsPlain written)

inductive IsEndpoint : List String → Prop
  | userInfo : IsEndpoint ["userinfo"]
  | login : IsEndpoint ["auth"]
  | upgrade : IsEndpoint ["upgrade"]
  | authMethods : IsEndpoint ["authmethods"]
  | provider (kind : FederationKind) {id : String} (h : Uuid.IsHyphenated id.toList) :
      IsEndpoint ["authmethods", kind.text, id]

def requestPath (segments : List String) : String :=
  String.ofList (written (segments.map String.toList))

theorem IsEndpoint.exists_isPlain {segments : List String} (h : IsEndpoint segments) :
    ∃ first rest, segments.map String.toList = first :: rest ∧ ∀ s ∈ first :: rest, IsPlain s := by
  cases h with
  | provider kind hid =>
    refine ⟨_, _, rfl, ?_⟩
    simp only [List.map_cons, List.map_nil, List.forall_mem_cons]
    exact ⟨isPlain_authmethods, isPlain_kind kind, isPlain_of_isHyphenated hid, nofun⟩
  | _ =>
    refine ⟨_, _, rfl, ?_⟩
    simp only [List.map_nil, List.forall_mem_cons]
    exact ⟨⟨by decide, by decide, by decide, by decide⟩, nofun⟩

theorem Proxy.target_requestPath (u : String) {segments : List String} (h : IsEndpoint segments) :
    (Proxy.mk u).target (requestPath segments) =
      u.toList ++ written (segments.map String.toList) := by
  obtain ⟨first, rest, hsegments, hplain⟩ := h.exists_isPlain
  have hhash : '#' ∉ written (first :: rest) := Url.notMem_written hplain (by decide) (by decide)
  obtain ⟨path, hpath⟩ : ∃ path, written (first :: rest) = '/' :: path := ⟨_, rfl⟩
  rw [hpath] at hhash
  have hasked := pathAndQuery_append .none fun hmem => hhash (List.mem_cons_of_mem _ hmem)
  rw [List.nil_append] at hasked
  rw [Proxy.target, requestPath, hsegments, hpath, hasked]

/-- A request for an endpoint of the backend goes to the same address through the proxy as if the
client sends it, exactly if the base URL has neither query nor fragment, does not end in a backslash
and its path is not `//`. -/
theorem target_eq_endpoint_iff {raw u : String} {c : ApiClient}
    (hnormal : BaseUrl.normalize raw = .ok u) (hclient : ApiClient.ofNormalized u none = .ok c)
    (hend : ∀ last ∈ u.toList.getLast?, 0x20 < last.toNat) {segments : List String}
    (h : IsEndpoint segments) :
    Url.ofText? ((Proxy.mk u).target (requestPath segments)) = some (c.endpoint segments) ↔
      '?' ∉ u.toList ∧ '#' ∉ u.toList ∧ u.toList.getLast? ≠ some '\\' ∧
        c.base.path ≠ [[], []] := by
  obtain ⟨last, hlast, hslash⟩ := BaseUrl.getLast?_normalize hnormal
  obtain ⟨first, rest, hsegments, hplain⟩ := h.exists_isPlain
  have hedge : Url.isEdge last = false := by simpa [Url.isEdge] using hend last hlast
  have hbackslash : Url.isSlash last = false ↔ u.toList.getLast? ≠ some '\\' := by
    simp [hlast, Url.isSlash, hslash]
  rw [Proxy.target_requestPath u h, ApiClient.endpoint, hsegments, ← hbackslash]
  exact Url.ofText?_written_iff hplain (ApiClient.ofNormalized_eq_ok_iff.mp hclient) hlast hedge

theorem target_eq_endpoint_api :
    Url.ofText? ((Proxy.mk "http://127.0.0.1:8000/api").target (requestPath ["userinfo"])) =
      some ((ApiClient.mk apiBase).endpoint ["userinfo"]) := by
  have hlast : "http://127.0.0.1:8000/api".toList.getLast? = some 'i' := rfl
  have hend : ∀ last ∈ "http://127.0.0.1:8000/api".toList.getLast?, 0x20 < last.toNat := by
    rw [hlast]
    rintro _ ⟨⟩
    decide
  exact (target_eq_endpoint_iff normalize_api ofNormalized_api hend .userInfo).mpr
    ⟨by decide, by decide, by decide, by decide⟩

def queryBase : Url :=
  ⟨.http, [], [], .ipv4 ⟨0x7F000001⟩, some 8000, ["api".toList], some ['q'], none⟩

/-- So with a query in the base URL the two differ. -/
theorem not_forall_target :
    ¬ ∀ (raw u : String) (c : ApiClient) (segments : List String),
      BaseUrl.normalize raw = .ok u → ApiClient.ofNormalized u none = .ok c →
      IsEndpoint segments →
      Url.ofText? ((Proxy.mk u).target (requestPath segments)) = some (c.endpoint segments) := by
  intro h
  have hurl : Url.ofText? "http://127.0.0.1:8000/api?q".toList = some queryBase := by
    decide +kernel
  have hclient : ApiClient.ofNormalized "http://127.0.0.1:8000/api?q" none = .ok ⟨queryBase⟩ := by
    simp only [ApiClient.ofNormalized, hurl]
  have hsame := h _ _ _ _ (rfl : BaseUrl.normalize "http://127.0.0.1:8000/api?q" = .ok _) hclient
    .userInfo
  rw [Proxy.target_requestPath _ .userInfo] at hsame
  have hplain : ∀ s ∈ ["userinfo".toList], IsPlain s := by
    rw [List.forall_mem_singleton]
    exact ⟨by decide, by decide, by decide, by decide⟩
  have hlast : "http://127.0.0.1:8000/api?q".toList.getLast? = some 'q' := rfl
  have hiff := Url.ofText?_written_iff hplain hurl hlast (by decide)
  exact absurd (hiff.mp hsame).1 (by decide)

end AdminConsole
