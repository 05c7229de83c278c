import AdminConsole.Route
import AdminConsole.Proofs.Client.SignIn
import AdminConsole.Proofs.Url.Segment

/-!
# Back from the provider

A callback address comes from whoever typed it, and neither its method nor its id is judged before
they are sent. Whatever they hold, one request goes out. It is addressed to the endpoint that they
name unless one of them is a dot segment or holds a tab or a line break.
-/

namespace AdminConsole

open Url (IsKept IsPlain StandsFor)

theorem Call.exists_segments {β : Type} (call : Call β) :
    ∃ word rest, call.segments = word :: rest ∧ IsPlain word.toList := by
  cases call <;> exact ⟨_, _, rfl, by decide, by decide, by decide, by decide⟩

theorem ApiClient.endpoint_eq_iff (c : ApiClient) {β γ : Type} {call : Call β} {other : Call γ}
    (h : ∀ s ∈ call.segments, IsKept s.toList) (h' : ∀ s ∈ other.segments, IsKept s.toList) :
    c.endpoint call.segments = c.endpoint other.segments ↔ call.segments = other.segments := by
  refine ⟨fun hsame => ?_, congrArg c.endpoint⟩
  obtain ⟨word, rest, hcall, hword⟩ := call.exists_segments
  obtain ⟨word', rest', hother, hword'⟩ := other.exists_segments
  rw [hcall, List.forall_mem_cons] at h
  rw [hother, List.forall_mem_cons] at h'
  rw [hcall, hother] at hsame ⊢
  have hlists := c.base.append_injective hword hword' (List.forall_mem_map.mpr h.2)
    (List.forall_mem_map.mpr h'.2) hsame
  exact (List.map_inj_right fun _ _ => String.toList_inj.mp).mp hlists

theorem isPlain_authmethods : IsPlain "authmethods".toList :=
  ⟨by decide, by decide, by decide, by decide⟩

theorem standsFor_exchange_iff (c : ApiClient) (method id : String) :
    c.base.StandsFor ["authmethods".toList, method.toList, id.toList]
        (c.endpoint ["authmethods", method, id]) ↔
      c.base.path ≠ [[], []] ∧ IsKept method.toList ∧ IsKept id.toList := by
  refine (Url.standsFor_append_iff c.base isPlain_authmethods).trans (and_congr_right fun _ => ?_)
  simp only [List.forall_mem_cons, List.not_mem_nil, false_imp_iff, implies_true, and_true]

/-- One request is sent to exchange the values, whatever the address holds. It goes to the base URL
with three segments appended that stand for the word, the method and the id, exactly if nothing of
method and id is lost and the base path is not `//`. An address of which nothing is lost shares its
URL with no other question. -/
theorem complete_via (c : ApiClient) (connection : Http.Request → Http.Answer)
    (method id path query : String) :
    ∃ post, ((CallbackRequest.ofLocation method id path query).complete.via c connection).1 =
        [post] ∧
      post.method = "POST" ∧
      post.url = { c.base with path := post.url.path } ∧
      (c.base.StandsFor ["authmethods".toList, method.toList, id.toList] post.url ↔
        c.base.path ≠ [[], []] ∧ IsKept method.toList ∧ IsKept id.toList) ∧
      (IsKept method.toList → IsKept id.toList → ∀ {β : Type} (other : Call β),
        (∀ s ∈ other.segments, IsKept s.toList) → c.endpoint other.segments = post.url →
        other.segments = ["authmethods", method, id]) := by
  obtain ⟨post, hvia, hmethod, hurl⟩ :=
    via_complete (CallbackRequest.ofLocation method id path query) c connection
  refine ⟨post, congrArg Prod.fst hvia, hmethod, by rw [hurl]; rfl, ?_, ?_⟩
  · rw [hurl]
    exact standsFor_exchange_iff c method id
  · intro hkept hkept' β other hother hsame
    have hexchange : ∀ s ∈ (Call.providerRedirect method id).segments, IsKept s.toList := by
      simp only [Call.segments, List.forall_mem_cons, List.not_mem_nil, false_imp_iff, implies_true,
        and_true]
      exact ⟨isPlain_authmethods.isKept, hkept, hkept'⟩
    exact (c.endpoint_eq_iff hother hexchange).mp (hsame.trans hurl)

def apiBase : Url :=
  ⟨.http, [], [], .ipv4 ⟨0x7F000001⟩, some 8000, ["api".toList], none, none⟩

theorem normalize_api :
    BaseUrl.normalize "http://127.0.0.1:8000/api" = .ok "http://127.0.0.1:8000/api" := by rfl

theorem ofNormalized_api :
    ApiClient.ofNormalized "http://127.0.0.1:8000/api" none = .ok ⟨apiBase⟩ := by
  have hurl : Url.ofText? "http://127.0.0.1:8000/api".toList = some apiBase := by decide +kernel
  simp only [ApiClient.ofNormalized, hurl]

theorem ofBaseUrl_api : ApiClient.ofBaseUrl "http://127.0.0.1:8000/api" none = .ok ⟨apiBase⟩ := by
  simp only [ApiClient.ofBaseUrl, normalize_api, Except.bind, ofNormalized_api]

/-- So an id that is a dot segment is not part of the address that the values are sent to. -/
theorem not_forall_standsFor :
    ¬ ∀ (raw : String) (c : ApiClient) (connection : Http.Request → Http.Answer)
      (address method id path query : String), ApiClient.ofBaseUrl raw none = .ok c →
      Route.ofPath address = .callback method id →
      ∃ post, ((CallbackRequest.ofLocation method id path query).complete.via c connection).1 =
          [post] ∧
        c.base.StandsFor ["authmethods".toList, method.toList, id.toList] post.url := by
  intro h
  let connection : Http.Request → Http.Answer := fun _ => .error .sending
  obtain ⟨post, hsent, hstands⟩ := h _ _ connection "/callback/oidc/.." "oidc" ".." "" ""
    ofBaseUrl_api (by decide)
  obtain ⟨post', hvia, -, hurl⟩ :=
    via_complete (CallbackRequest.ofLocation "oidc" ".." "" "") ⟨apiBase⟩ connection
  obtain rfl := List.singleton_inj.mp ((congrArg Prod.fst hvia).symm.trans hsent)
  rw [hurl] at hstands
  exact absurd ((standsFor_exchange_iff ⟨apiBase⟩ "oidc" "..").mp hstands).2.2 (by decide)

end AdminConsole
