import AdminConsole.Proofs.Client.Exchange
import AdminConsole.Proofs.Session.Branch

/-!
# A whole identity check

A whole check asks the backend once, with the token that is current when it starts, so that its
outcome always counts. What is on screen afterwards depends on the status of the answer, on whether
the body of an accepted token can be read, and on whether the store takes a token that it does not
hold yet.
-/

namespace AdminConsole

/-- A response with that status came, and its body reads as `info`. -/
def Http.Reports (answer : Answer) (status : Nat) (info : UserInfo) : Prop :=
  ∃ r, answer = .ok r ∧ r.status = status ∧ UserInfo.codec.decode r.body = .ok info

namespace Call

theorem identityCheck_of_decode {r : Http.Response} {info : UserInfo}
    (h : UserInfo.codec.decode r.body = .ok info) : identityCheck r = .ok ⟨r.status, info⟩ := by
  simp [identityCheck, h]

theorem identityCheck_of_unreadable {r : Http.Response} {failure : Json.Failure}
    (h : UserInfo.codec.decode r.body = .error failure) :
    identityCheck r =
      if r.status = 200 then .error (.body (failure.message r.body))
      else .ok ⟨r.status, .blank⟩ := by
  simp [identityCheck, h]

end Call

namespace Verdict

theorem branch_eq_authenticated_iff {v : Verdict} {route : Route} :
    v.branch route = .authenticated ↔ v = .accepted := by
  cases v with
  | unstored e => simp [branch_unstored]
  | failed e => simp [branch_failed]
  | refused => cases route <;> simp [branch]
  | _ => simp [branch]

theorem branch_refused (route : Route) : refused.branch route = .of route .settled false := by
  cases route <;> rfl

def IsFailure : Verdict → Prop
  | unstored _ | failed _ | broken _ => True
  | pending | accepted | refused => False

theorem exists_branch_eq_error_iff {v : Verdict} {route : Route} :
    (∃ message, v.branch route = .error message) ↔ v.IsFailure := by
  cases v with
  | unstored e => simp [branch_unstored, IsFailure]
  | failed e => simp [branch_failed, IsFailure]
  | refused => cases route <;> simp [branch, IsFailure]
  | _ => simp [branch, IsFailure]

end Verdict

section
variable {c : ApiClient} {token : SessionToken}

theorem request_userInfo
    (h : ∀ x ∈ ("Bearer " ++ token.text).toList, 0x20 ≤ x.toNat ∧ x.toNat ≠ 0x7F ∨ x = '\t') :
    c.request? (.userInfo token) = some
      ⟨"GET", c.endpoint ["userinfo"], ⟨some ("Bearer " ++ token.text), none, some "*/*"⟩, []⟩ := by
  have hheader : Http.isHeaderValue token.bearer = true := by
    rw [token.bearer_eq]
    exact Http.isHeaderValue_iff.mpr h
  rw [request_of_token rfl, if_pos hheader, token.bearer_eq]
  rfl

theorem request_userInfo_eq_none
    (h : ¬ ∀ x ∈ ("Bearer " ++ token.text).toList, 0x20 ≤ x.toNat ∧ x.toNat ≠ 0x7F ∨ x = '\t') :
    c.request? (.userInfo token) = none := by
  have hheader : ¬ Http.isHeaderValue token.bearer = true := by
    rw [token.bearer_eq]
    exact fun hvalue => h (Http.isHeaderValue_iff.mp hvalue)
  rw [request_of_token rfl, if_neg hheader]

end

variable {σ : Type} [TokenStore σ]

namespace Session

section
variable {s : Session σ}

theorem persistFailure_eq_none_iff :
    s.persistFailure? = none ↔
      s.authenticated = true ∨
        ∃ store, TokenStore.set s.store tokenName s.token.text = .ok store := by
  cases ha : s.authenticated with
  | true => simp [persistFailure?, ha]
  | false => cases hset : TokenStore.set s.store tokenName s.token.text <;>
      simp [persistFailure?, ha, hset]

theorem persistFailure_eq_some_iff {e : StoreError} :
    s.persistFailure? = some e ↔
      s.authenticated = false ∧ TokenStore.set s.store tokenName s.token.text = .error e := by
  cases ha : s.authenticated with
  | true => simp [persistFailure?, ha]
  | false => cases hset : TokenStore.set s.store tokenName s.token.text <;>
      simp [persistFailure?, ha, hset]

end

section
variable {s t : Session σ} {outcome : Except ApiError IdentityCheck}
  {result : Except SessionError Bool}

theorem Applied.phase_ne (h : s.Applied outcome result t) : t.phase ≠ .resolving := by
  cases h <;> exact nofun

theorem Applied.result_ne (h : s.Applied outcome result t) : result ≠ .ok false := by
  cases h <;> exact nofun

theorem Applied.store_of_refused (h : s.Applied outcome result t)
    (hv : Verdict.of s outcome = .refused) : t.store = s.store := by
  cases h with
  | admitted hok ha hset =>
    have hp := persistFailure_eq_none_iff.mpr (.inr ⟨_, hset⟩)
    simp [Verdict.of, of_decide_eq_true hok, hp] at hv
  | _ => rfl

theorem Applied.error_iff (h : s.Applied outcome result t) :
    (∃ e, result = .error e) ↔ ∃ e, Verdict.of s outcome = .unstored e := by
  cases h with
  | failed e => simp [Verdict.of]
  | confirmed hok ha =>
    have hp := persistFailure_eq_none_iff.mpr (.inl ha)
    simp [Verdict.of, of_decide_eq_true hok, hp]
  | admitted hok ha hset =>
    have hp := persistFailure_eq_none_iff.mpr (.inr ⟨_, hset⟩)
    simp [Verdict.of, of_decide_eq_true hok, hp]
  | unstored hok ha hset =>
    have hp := persistFailure_eq_some_iff.mpr ⟨ha, hset⟩
    simp [Verdict.of, of_decide_eq_true hok, hp]
  | broken hok hs => simp [Verdict.of, of_decide_eq_false hok, of_decide_eq_true hs]
  | refused hok hs => simp [Verdict.of, of_decide_eq_false hok, of_decide_eq_false hs]

end

-- ---------------------------------------------------------------------------
-- From the answer to the verdict
-- ---------------------------------------------------------------------------

/-- What an answer to the identity check says of a session. -/
inductive Judged (s : Session σ) : Http.Answer → Verdict → Prop
  | lost (e : Http.TransportError) : Judged s (.error e) (.failed (.transport e.message))
  | accepted {r : Http.Response} {info : UserInfo} (hstatus : r.status = 200)
    (hread : UserInfo.codec.decode r.body = .ok info) (hp : s.persistFailure? = none) :
    Judged s (.ok r) .accepted
  | unstored {r : Http.Response} {info : UserInfo} {e : StoreError} (hstatus : r.status = 200)
    (hread : UserInfo.codec.decode r.body = .ok info) (hp : s.persistFailure? = some e) :
    Judged s (.ok r) (.unstored e)
  | unreadable {r : Http.Response} {failure : Json.Failure} (hstatus : r.status = 200)
    (hread : UserInfo.codec.decode r.body = .error failure) :
    Judged s (.ok r) (.failed (.body (failure.message r.body)))
  | broken {r : Http.Response} (hstatus : 500 ≤ r.status) : Judged s (.ok r) (.broken r.status)
  | refused {r : Http.Response} (hstatus : r.status ≠ 200) (hs : r.status < 500) :
    Judged s (.ok r) .refused

theorem verdict_of_ne {r : Http.Response} (s : Session σ) (hstatus : r.status ≠ 200) :
    Verdict.of s (Call.identityCheck r) =
      if 500 ≤ r.status then .broken r.status else .refused := by
  cases hread : UserInfo.codec.decode r.body with
  | ok info => simp [Call.identityCheck_of_decode hread, Verdict.of, hstatus]
  | error failure => simp [Call.identityCheck_of_unreadable hread, Verdict.of, hstatus]

theorem judged_of (s : Session σ) (token : SessionToken) (answer : Http.Answer) :
    Judged s answer (.of s ((Call.userInfo token).ofAnswer answer)) := by
  cases answer with
  | error e => exact .lost e
  | ok r =>
    change Judged s (.ok r) (.of s (Call.identityCheck r))
    by_cases hstatus : r.status = 200
    · cases hread : UserInfo.codec.decode r.body with
      | error failure =>
        rw [Call.identityCheck_of_unreadable hread, if_pos hstatus]
        exact .unreadable hstatus hread
      | ok info =>
        rw [Call.identityCheck_of_decode hread]
        simp only [Verdict.of, hstatus, if_true]
        cases hp : s.persistFailure? with
        | none => exact .accepted hstatus hread hp
        | some e => exact .unstored hstatus hread hp
    · rw [verdict_of_ne s hstatus]
      split
      · rename_i hs
        exact .broken hs
      · rename_i hs
        exact .refused hstatus (Nat.lt_of_not_le hs)

section
variable {s : Session σ} {answer : Http.Answer} {v : Verdict}

theorem Judged.accepted_iff (h : s.Judged answer v) :
    v = .accepted ↔ (∃ info, Http.Reports answer 200 info) ∧ s.persistFailure? = none := by
  cases h with
  | lost e => simp [Http.Reports]
  | accepted hstatus hread hp => simp [Http.Reports, hstatus, hread, hp]
  | unstored hstatus hread hp => simp [hp]
  | unreadable hstatus hread => simp [Http.Reports, hread]
  | @broken r hstatus =>
    have hne : r.status ≠ 200 := by omega
    simp [Http.Reports, hne]
  | refused hstatus hs => simp [Http.Reports, hstatus]

theorem Judged.unstored_iff (h : s.Judged answer v) :
    (∃ e, v = .unstored e) ↔
      (∃ info, Http.Reports answer 200 info) ∧ ∃ e, s.persistFailure? = some e := by
  cases h with
  | lost e => simp [Http.Reports]
  | accepted hstatus hread hp => simp [hp]
  | unstored hstatus hread hp => simp [Http.Reports, hstatus, hread, hp]
  | unreadable hstatus hread => simp [Http.Reports, hread]
  | @broken r hstatus =>
    have hne : r.status ≠ 200 := by omega
    simp [Http.Reports, hne]
  | refused hstatus hs => simp [Http.Reports, hstatus]

theorem Judged.failure_iff (h : s.Judged answer v) :
    v.IsFailure ↔
      (∃ e, answer = .error e) ∨ (∃ status, 500 ≤ status ∧ Http.HasStatus answer status) ∨
        (Http.HasStatus answer 200 ∧ ∀ info, ¬ Http.Reports answer 200 info) ∨
        ∃ e, v = .unstored e := by
  cases h with
  | lost e => simp [Verdict.IsFailure]
  | accepted hstatus hread hp =>
    simp [Verdict.IsFailure, Http.HasStatus, Http.Reports, hstatus, hread]
  | unstored hstatus hread hp => simp [Verdict.IsFailure]
  | unreadable hstatus hread =>
    simp [Verdict.IsFailure, Http.HasStatus, Http.Reports, hstatus, hread]
  | broken hstatus => simp [Verdict.IsFailure, Http.HasStatus, hstatus]
  | refused hstatus hs => simp [Verdict.IsFailure, Http.HasStatus, hstatus, hs]

theorem Judged.refused_of (h : s.Judged answer v) {status : Nat}
    (hstatus : Http.HasStatus answer status) (hne : status ≠ 200) (hs : status < 500) :
    v = .refused := by
  obtain ⟨r, rfl, rfl⟩ := hstatus
  cases h with
  | refused => rfl
  | accepted h200 | unstored h200 | unreadable h200 => exact absurd h200 hne
  | broken h500 => exact absurd h500 (Nat.not_le_of_lt hs)

end

-- ---------------------------------------------------------------------------
-- From the answer to the session
-- ---------------------------------------------------------------------------

section
variable {s t : Session σ} {token : SessionToken} {answer : Http.Answer}
  {result : Except SessionError Bool}

theorem Applied.authenticated_iff
    (h : s.Applied ((Call.userInfo token).ofAnswer answer) result t) (route : Route) :
    t.branch route = .authenticated ↔
      (∃ info, Http.Reports answer 200 info) ∧ (s.authenticated = true ∨
        ∃ store, TokenStore.set s.store tokenName s.token.text = .ok store) := by
  rw [h.verdict.branch, Verdict.branch_eq_authenticated_iff,
    (s.judged_of token answer).accepted_iff, persistFailure_eq_none_iff]

theorem Applied.rejected_iff (h : s.Applied ((Call.userInfo token).ofAnswer answer) result t) :
    (∃ e, result = .error e) ↔
      (∃ info, Http.Reports answer 200 info) ∧ s.authenticated = false ∧
        ∃ e, TokenStore.set s.store tokenName s.token.text = .error e := by
  rw [h.error_iff, (s.judged_of token answer).unstored_iff]
  simp [persistFailure_eq_some_iff]

theorem Applied.failure_iff (h : s.Applied ((Call.userInfo token).ofAnswer answer) result t)
    (route : Route) :
    (∃ message, t.branch route = .error message) ↔
      (∃ e, answer = .error e) ∨ (∃ status, 500 ≤ status ∧ Http.HasStatus answer status) ∨
        (Http.HasStatus answer 200 ∧ ¬ ∃ info, Http.Reports answer 200 info) ∨
        ∃ e, result = .error e := by
  rw [h.verdict.branch, Verdict.exists_branch_eq_error_iff, (s.judged_of token answer).failure_iff,
    h.error_iff, not_exists]

theorem Applied.refused_of_status
    (h : s.Applied ((Call.userInfo token).ofAnswer answer) result t) {status : Nat}
    (hstatus : Http.HasStatus answer status) (hne : status ≠ 200) (hs : status < 500) :
    t.store = s.store ∧ ∀ route, t.branch route = .of route .settled false := by
  have hv := (s.judged_of token answer).refused_of hstatus hne hs
  refine ⟨h.store_of_refused hv, fun route => ?_⟩
  rw [h.verdict.branch, hv, Verdict.branch_refused]

theorem Applied.profile_of_reports {status : Nat} {info : UserInfo}
    (h : s.Applied ((Call.userInfo token).ofAnswer answer) result t)
    (hreport : Http.Reports answer status info) (hlogin : info.login.isEmpty = false) :
    t.profile = info.profile := by
  obtain ⟨r, rfl, rfl, hread⟩ := hreport
  rw [Call.ofAnswer, Call.ofResponse, Call.identityCheck_of_decode hread] at h
  rw [h.profile_ok, hlogin]
  rfl

theorem Applied.profile_of_not_reports
    (h : s.Applied ((Call.userInfo token).ofAnswer answer) result t)
    (hnone : ∀ status info, Http.Reports answer status info → info.login.isEmpty = true) :
    t.profile = s.profile := by
  cases answer with
  | error e => exact h.profile_error
  | ok r =>
    rw [Call.ofAnswer, Call.ofResponse] at h
    cases hread : UserInfo.codec.decode r.body with
    | ok info =>
      rw [Call.identityCheck_of_decode hread] at h
      rw [h.profile_ok, hnone _ _ ⟨r, rfl, rfl, hread⟩]
      rfl
    | error failure =>
      rw [Call.identityCheck_of_unreadable hread] at h
      split at h
      · exact h.profile_error
      · exact h.profile_ok

end

@[simp] theorem token_beginCheck (s : Session σ) : s.beginCheck.token = s.loadToken.token := rfl

theorem exists_map_eq_error_iff {ε α β : Type} {f : α → β} {x : Except ε α} :
    (∃ e, x.map f = .error e) ↔ ∃ e, x = .error e := by
  cases x <;> simp [Except.map]

/-- A whole check asks one question, with the token that is current, and applies what comes of it. A
token that cannot stand in a header counts as a lost answer. The answer alone decides what is on
screen, except that a session which is not authenticated yet depends on its store as well. -/
theorem resolve_via (s : Session σ) (c : ApiClient) (connection : Http.Request → Http.Answer) :
    let token := s.loadToken.token
    let answer := c.answer connection (.userInfo token)
    let (sent, result, after) := s.resolve.via c connection
    let accepted := ∃ info, Http.Reports answer 200 info
    let rejected := s.authenticated = false ∧
      ∃ e, TokenStore.set s.store tokenName token.text = .error e
    let sendable := ∀ x ∈ ("Bearer " ++ token.text).toList,
      0x20 ≤ x.toNat ∧ x.toNat ≠ 0x7F ∨ x = '\t'
    let request : Http.Request :=
      ⟨"GET", c.endpoint ["userinfo"], ⟨some ("Bearer " ++ token.text), none, some "*/*"⟩, []⟩
    s.resolve.call? = some ⟨_, .userInfo token⟩ ∧
      (sendable → sent = [request] ∧ answer = connection request) ∧
      (¬ sendable → sent = [] ∧ answer = .error .building) ∧
      (∃ applied, applied ≠ .ok false ∧
        s.beginCheck.settle token ((Call.userInfo token).ofAnswer answer) = (applied, after)) ∧
      after.token = token ∧ after.phase ≠ .resolving ∧
      (∀ route, after.branch route = .authenticated ↔
        accepted ∧ (s.authenticated = true ∨
          ∃ store, TokenStore.set s.store tokenName token.text = .ok store)) ∧
      (∀ route, (∃ message, after.branch route = .error message) ↔
        (∃ e, answer = .error e) ∨ (∃ status, 500 ≤ status ∧ Http.HasStatus answer status) ∨
          (Http.HasStatus answer 200 ∧ ¬ accepted) ∨ (accepted ∧ rejected)) ∧
      (∀ status, Http.HasStatus answer status → status ≠ 200 → status < 500 →
        after.store = s.store ∧ ∀ route, after.branch route = .of route .settled false) ∧
      ((∃ e, result = .error e) ↔ accepted ∧ rejected) ∧
      (∀ status info, Http.Reports answer status info → info.login.isEmpty = false →
        after.profile = info.profile) ∧
      ((∀ status info, Http.Reports answer status info → info.login.isEmpty = true) →
        after.profile = s.profile) := by
  intro token answer
  have hvia : s.resolve.via c connection = _ := via_ask _
  have hend : s.beginCheck.Applied ((Call.userInfo token).ofAnswer answer) _ _ :=
    s.beginCheck.applied_apply _
  have hauthenticated := hend.authenticated_iff
  have hfailure := hend.failure_iff
  have hrejected := hend.rejected_iff
  simp only [store_beginCheck, authenticated_beginCheck, token_beginCheck]
    at hauthenticated hrejected
  rw [hvia]
  have hresult : (∃ e, (s.beginCheck.settle token
      ((Call.userInfo token).ofAnswer answer)).1.map (fun _ => ()) = .error e) ↔ _ :=
    exists_map_eq_error_iff.trans hrejected
  refine ⟨rfl, ?_, ?_, ⟨_, hend.result_ne, rfl⟩, hend.token, hend.phase_ne, hauthenticated, ?_, ?_,
    hresult, ?_, ?_⟩
  · intro hsendable
    have hrequest := request_userInfo (c := c) hsendable
    exact ⟨congrArg Option.toList hrequest, answer_of_request hrequest⟩
  · intro hsendable
    have hrequest := request_userInfo_eq_none (c := c) hsendable
    exact ⟨congrArg Option.toList hrequest, answer_of_no_request hrequest⟩
  · intro route
    rw [← hrejected]
    exact hfailure route
  · intro status hstatus hne hs
    obtain ⟨hstore, hbranch⟩ := hend.refused_of_status hstatus hne hs
    exact ⟨hstore.trans s.store_beginCheck, hbranch⟩
  · intro status info hreport hlogin
    exact hend.profile_of_reports hreport hlogin
  · intro hnone
    exact (hend.profile_of_not_reports hnone).trans s.profile_beginCheck

end Session

end AdminConsole
