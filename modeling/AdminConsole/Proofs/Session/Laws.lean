import AdminConsole.Session

/-!
# What the operations of a session do

Each operation is described by what it does to the four parts of a session. Applying the outcome of
a check has six endings; `Applied` lists them, and later proofs go through that list instead of
opening `settle`.
-/

namespace AdminConsole

/-- What the backend says of a visitor: the part of an identity that is not the token. -/
structure Profile where
  login : String
  role : Role
  userType : UserType
deriving DecidableEq, Repr

def Identity.profile (i : Identity) : Profile := ⟨i.login, i.role, i.userType⟩

def UserInfo.profile (info : UserInfo) : Profile :=
  ⟨info.login, ⟨info.role⟩, .ofText info.userType⟩

def Profile.blank : Profile := ⟨"", ⟨""⟩, .unknown⟩

theorem Identity.profile_anonymous : anonymous.profile = .blank := rfl

theorem Identity.profile_merge (i : Identity) (info : UserInfo) :
    (i.merge info).profile = if info.login.isEmpty then i.profile else info.profile := by
  simp only [Identity.merge]
  split <;> rfl

namespace Session

variable {σ : Type}

def profile (s : Session σ) : Profile := s.identity.profile

theorem check_role_iff {s : Session σ} {profile : Profile} (h : s.profile = profile)
    (required : Role) : Role.check required s.identity.role = .ok () ↔ required = profile.role := by
  rw [Role.check_eq_ok_iff, ← h]
  rfl

theorem branch_eq_authenticated_iff {s : Session σ} {route : Route} :
    s.branch route = .authenticated ↔ s.phase = .settled ∧ s.authenticated = true := by
  obtain ⟨store, identity, authenticated, phase⟩ := s
  cases phase with
  | resolving | failed => simp [branch, Branch.of]
  | settled => cases authenticated <;> cases route <;> simp [branch, Branch.of]

variable [TokenStore σ]

-- ---------------------------------------------------------------------------
-- Taking the stored token
-- ---------------------------------------------------------------------------

/-- At most the token changes, and then from none to the stored one. -/
theorem loadToken_cases (s : Session σ) :
    s.loadToken = s ∨
      s.token.isEmpty = true ∧ ∃ text, TokenStore.get s.store tokenName = some text ∧
        s.loadToken = { s with identity := s.identity.withToken ⟨text⟩ } := by
  unfold loadToken
  split
  · rename_i hempty
    split
    · rename_i text hget
      split
      · exact .inl rfl
      · exact .inr ⟨hempty, text, hget, rfl⟩
    · exact .inl rfl
  · exact .inl rfl

@[simp] theorem store_loadToken (s : Session σ) : s.loadToken.store = s.store := by
  rcases s.loadToken_cases with h | ⟨-, text, -, h⟩ <;> rw [h]

@[simp] theorem authenticated_loadToken (s : Session σ) :
    s.loadToken.authenticated = s.authenticated := by
  rcases s.loadToken_cases with h | ⟨-, text, -, h⟩ <;> rw [h]

@[simp] theorem phase_loadToken (s : Session σ) : s.loadToken.phase = s.phase := by
  rcases s.loadToken_cases with h | ⟨-, text, -, h⟩ <;> rw [h]

@[simp] theorem profile_loadToken (s : Session σ) : s.loadToken.profile = s.profile := by
  rcases s.loadToken_cases with h | ⟨-, text, -, h⟩ <;> rw [h]
  rfl

theorem token_loadToken (s : Session σ) :
    s.loadToken.token = s.token ∨
      TokenStore.get s.store tokenName = some s.loadToken.token.text := by
  rcases s.loadToken_cases with h | ⟨-, text, hget, h⟩
  · exact .inl (by rw [h])
  · exact .inr (by rw [h, hget]; rfl)

@[simp] theorem store_beginCheck (s : Session σ) : s.beginCheck.store = s.store :=
  s.store_loadToken

@[simp] theorem authenticated_beginCheck (s : Session σ) :
    s.beginCheck.authenticated = s.authenticated := s.authenticated_loadToken

@[simp] theorem phase_beginCheck (s : Session σ) : s.beginCheck.phase = .resolving := rfl

@[simp] theorem profile_beginCheck (s : Session σ) : s.beginCheck.profile = s.profile :=
  s.profile_loadToken

theorem isSome_revalidate? (s : Session σ) :
    s.revalidate?.isSome = true ↔ s.phase = .settled ∧ s.authenticated = true := by
  simp [revalidate?]

-- ---------------------------------------------------------------------------
-- Ending a session
-- ---------------------------------------------------------------------------

theorem logout_cases (s : Session σ) :
    (∃ e, TokenStore.set s.store tokenName "" = .error e ∧
      s.logout = (.error (.clearFailed e.message), ⟨s.store, .anonymous, false, .resolving⟩)) ∨
    ∃ store, TokenStore.set s.store tokenName "" = .ok store ∧
      s.logout = (.ok (), ⟨store, .anonymous, false, .resolving⟩) := by
  unfold logout
  dsimp only
  split
  · rename_i e hset
    exact .inl ⟨e, hset, rfl⟩
  · rename_i store hset
    exact .inr ⟨store, hset, rfl⟩

theorem authenticated_logout (s : Session σ) : s.logout.2.authenticated = false := by
  rcases s.logout_cases with ⟨e, -, h⟩ | ⟨store, -, h⟩ <;> rw [h]

theorem phase_logout (s : Session σ) : s.logout.2.phase = .resolving := by
  rcases s.logout_cases with ⟨e, -, h⟩ | ⟨store, -, h⟩ <;> rw [h]

theorem identity_logout (s : Session σ) : s.logout.2.identity = .anonymous := by
  rcases s.logout_cases with ⟨e, -, h⟩ | ⟨store, -, h⟩ <;> rw [h]

-- ---------------------------------------------------------------------------
-- Applying an outcome
-- ---------------------------------------------------------------------------

def apply (s : Session σ) (outcome : Except ApiError IdentityCheck) : Session σ :=
  (s.settle s.token outcome).2

/-- The endings of a check: its outcome, what `settle` reports, and the session that is left. -/
inductive Applied (s : Session σ) :
    Except ApiError IdentityCheck → Except SessionError Bool → Session σ → Prop
  | failed (e : ApiError) :
    Applied s (.error e) (.ok true) { s with authenticated := false, phase := .failed e.message }
  | confirmed {check : IdentityCheck} (hok : check.isAuthorized = true)
    (ha : s.authenticated = true) :
    Applied s (.ok check) (.ok true)
      { s with identity := s.identity.merge check.info, phase := .settled }
  | admitted {check : IdentityCheck} {store : σ} (hok : check.isAuthorized = true)
    (ha : s.authenticated = false)
    (hset : TokenStore.set s.store tokenName s.token.text = .ok store) :
    Applied s (.ok check) (.ok true)
      ⟨store, s.identity.merge check.info, true, .settled⟩
  | unstored {check : IdentityCheck} {e : StoreError} (hok : check.isAuthorized = true)
    (ha : s.authenticated = false)
    (hset : TokenStore.set s.store tokenName s.token.text = .error e) :
    Applied s (.ok check) (.error (.persistFailed e.message))
      { s with identity := s.identity.merge check.info, phase := .failed e.message }
  | broken {check : IdentityCheck} (hok : check.isAuthorized = false)
    (hs : check.isServerError = true) :
    Applied s (.ok check) (.ok true)
      ⟨s.store, s.identity.merge check.info, false,
        .failed ("Request failed with status code " ++ toString check.status)⟩
  | refused {check : IdentityCheck} (hok : check.isAuthorized = false)
    (hs : check.isServerError = false) :
    Applied s (.ok check) (.ok true) ⟨s.store, s.identity.merge check.info, false, .settled⟩

theorem Applied.token {s t : Session σ} {outcome : Except ApiError IdentityCheck}
    {result : Except SessionError Bool} (h : s.Applied outcome result t) : t.token = s.token := by
  cases h with
  | failed => rfl
  | _ => exact Identity.token_merge _ _

theorem Applied.profile_ok {s t : Session σ} {check : IdentityCheck}
    {result : Except SessionError Bool} (h : s.Applied (.ok check) result t) :
    t.profile = if check.info.login.isEmpty then s.profile else check.info.profile := by
  cases h <;> exact Identity.profile_merge _ _

theorem Applied.profile_error {s t : Session σ} {e : ApiError}
    {result : Except SessionError Bool} (h : s.Applied (.error e) result t) :
    t.profile = s.profile := by
  cases h
  rfl

theorem settle_of_ne {s : Session σ} {token : SessionToken} (h : token ≠ s.token)
    (outcome : Except ApiError IdentityCheck) : s.settle token outcome = (.ok false, s) := by
  simp [settle, h]

theorem settle_error (s : Session σ) (e : ApiError) :
    s.settle s.token (.error e) =
      (.ok true, { s with authenticated := false, phase := .failed e.message }) := by
  simp [settle]

theorem settle_ok (s : Session σ) (check : IdentityCheck) :
    s.settle s.token (.ok check) =
      let judged := judge { s with identity := s.identity.merge check.info } check
      (judged.1.map fun _ => true, judged.2) := by
  simp [settle]

theorem applied_judge (s : Session σ) (check : IdentityCheck) :
    Applied s (.ok check)
      ((judge { s with identity := s.identity.merge check.info } check).1.map fun _ => true)
      (judge { s with identity := s.identity.merge check.info } check).2 := by
  have htoken : token { s with identity := s.identity.merge check.info } = s.token :=
    Identity.token_merge _ _
  unfold judge
  rw [htoken]
  split
  · rename_i hok
    split
    · rename_i ha
      exact .confirmed hok ha
    · rename_i ha
      have ha : s.authenticated = false := Bool.eq_false_iff.mpr ha
      split
      · rename_i e hset
        exact .unstored hok ha hset
      · rename_i store hset
        exact .admitted hok ha hset
  · rename_i hok
    have hok : check.isAuthorized = false := Bool.eq_false_iff.mpr hok
    split
    · rename_i hs
      exact .broken hok hs
    · rename_i hs
      exact .refused hok (Bool.eq_false_iff.mpr hs)

theorem applied_apply (s : Session σ) (outcome : Except ApiError IdentityCheck) :
    Applied s outcome (s.settle s.token outcome).1 (s.apply outcome) := by
  unfold apply
  cases outcome with
  | error e =>
    rw [settle_error]
    exact .failed e
  | ok check =>
    rw [settle_ok]
    exact s.applied_judge check

theorem Applied.settle_eq {s t : Session σ} {outcome : Except ApiError IdentityCheck}
    {result : Except SessionError Bool} (h : s.Applied outcome result t) :
    s.settle s.token outcome = (result, t) := by
  cases h with
  | failed e => exact s.settle_error e
  | confirmed hok ha => simp [settle_ok, judge, hok, ha, Except.map]
  | admitted hok ha hset | unstored hok ha hset =>
    rw [settle_ok]
    rw [Session.token] at hset
    simp [judge, hok, ha, Session.token, Identity.token_merge, hset, Except.map]
  | broken hok hs => simp [settle_ok, judge, hok, hs, ApiError.message_status, Except.map]
  | refused hok hs => simp [settle_ok, judge, hok, hs, Except.map]

theorem applied_of_settle {s t : Session σ} {outcome : Except ApiError IdentityCheck}
    {result : Except SessionError Bool} (h : s.settle s.token outcome = (result, t)) :
    s.Applied outcome result t := by
  have hend := s.applied_apply outcome
  rwa [apply, h] at hend

theorem token_settle (s : Session σ) (token : SessionToken)
    (outcome : Except ApiError IdentityCheck) : (s.settle token outcome).2.token = s.token := by
  by_cases h : token = s.token
  · rw [h]
    exact (s.applied_apply outcome).token
  · rw [settle_of_ne h]

end Session

end AdminConsole
