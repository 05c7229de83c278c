import AdminConsole.Proofs.Session.Run

/-!
# Outcomes and endings that come again

An outcome that was taken changes nothing when it comes again: the session is where the outcome
would bring it, and the store is not asked. What the store refused can be tried again: what the
first attempt has left in memory makes no difference to the second.
-/

namespace AdminConsole

namespace Session

variable {σ : Type} [TokenStore σ]

omit [TokenStore σ] in
def withStore (s : Session σ) (store : σ) : Session σ := { s with store := store }

-- ---------------------------------------------------------------------------
-- Outcomes
-- ---------------------------------------------------------------------------

/-- An outcome that was taken ends the same way where it has led, with nothing to change. An
acceptance is a confirmation the second time. -/
theorem Applied.again {s t : Session σ} {outcome : Except ApiError IdentityCheck} {applied : Bool}
    (h : s.Applied outcome (.ok applied) t) (store : σ) :
    (t.withStore store).Applied outcome (.ok applied) (t.withStore store) := by
  cases h with
  | failed e => exact .failed e
  | @confirmed check hok ha =>
    have hagain := @confirmed _ _
      (withStore { s with identity := s.identity.merge check.info, phase := .settled } store)
      check hok ha
    simpa only [withStore, Identity.merge_merge] using hagain
  -- The first time the flag is set, and with it the store is not asked again.
  | @admitted check _ hok ha hset =>
    have hagain := @confirmed _ _ ⟨store, s.identity.merge check.info, true, .settled⟩ check hok rfl
    simpa only [withStore, Identity.merge_merge] using hagain
  | @broken check hok hs =>
    have hagain := @broken _ _
      ⟨store, s.identity.merge check.info, false,
        .failed ("Request failed with status code " ++ toString check.status)⟩ check hok hs
    simpa only [withStore, Identity.merge_merge] using hagain
  | @refused check hok hs =>
    have hagain := @refused _ _ ⟨store, s.identity.merge check.info, false, .settled⟩ check hok hs
    simpa only [withStore, Identity.merge_merge] using hagain

/-- An answer that was merged before is judged as it was then, whatever has become of the phase. -/
theorem settle_of_merged {s t : Session σ} {check : IdentityCheck} (hstore : t.store = s.store)
    (hidentity : t.identity = s.identity.merge check.info)
    (hflag : t.authenticated = s.authenticated) :
    t.settle s.token (.ok check) = s.settle s.token (.ok check) := by
  obtain ⟨store, identity, authenticated, phase⟩ := t
  dsimp only at hstore hidentity hflag
  subst hstore hidentity hflag
  -- An answer does not touch the token, so the outcome is about the current one again.
  have htoken : s.token =
      token ⟨s.store, s.identity.merge check.info, s.authenticated, phase⟩ :=
    (Identity.token_merge _ _).symm
  rw [settle_ok, htoken, settle_ok]
  dsimp only
  rw [Identity.merge_merge]
  rfl

theorem Applied.error_cases {s t : Session σ} {outcome : Except ApiError IdentityCheck}
    {error : SessionError} (h : s.Applied outcome (.error error) t) :
    ∃ check, ∃ e : StoreError, outcome = .ok check ∧ check.isAuthorized = true ∧
      error = .persistFailed e.message ∧ t.phase = .failed e.message ∧
      s.authenticated = false ∧ t.authenticated = false ∧ t.store = s.store ∧
      t.identity = s.identity.merge check.info := by
  cases h with
  | unstored hok ha hset => exact ⟨_, _, rfl, hok, rfl, rfl, ha, ha, rfl, rfl⟩

-- ---------------------------------------------------------------------------
-- Endings
-- ---------------------------------------------------------------------------

theorem logout_of_store {s t : Session σ} (h : t.store = s.store) : t.logout = s.logout := by
  unfold logout
  rw [h]

theorem logout_of_set {s : Session σ} {cleared : σ}
    (h : TokenStore.set s.store tokenName "" = .ok cleared) :
    s.logout = (.ok (), start cleared) := by
  simp [logout, h, start]

/-- An outcome that was taken changes nothing when it comes again, and is reported as it was,
whether or not the store takes writes by then. When the store has refused the token of a check, it
is as it was, the session has failed, and the same outcome has the effect over a store that takes
the token that it would have had over that store at first. A store that refused to be cleared is as
it was too, and ending the session again does what it would have done at first. -/
theorem settle_repeated (s : Session σ) (token : SessionToken)
    (outcome : Except ApiError IdentityCheck) :
    (∀ applied t, s.settle token outcome = (.ok applied, t) →
      ∀ store, (t.withStore store).settle token outcome = (.ok applied, t.withStore store)) ∧
    (∀ error t, s.settle token outcome = (.error error, t) →
      (∃ details, error = .persistFailed details ∧ t.phase = .failed details) ∧
      t.authenticated = false ∧ t.store = s.store ∧
      ∀ store accepted, TokenStore.set store tokenName token.text = .ok accepted →
        (t.withStore store).settle token outcome = (s.withStore store).settle token outcome ∧
        (t.withStore store).settle token outcome =
          (.ok true, ⟨accepted, t.identity, true, .settled⟩)) ∧
    (∀ error t, s.logout = (.error error, t) →
      (∃ details, error = .clearFailed details) ∧ t.store = s.store ∧
      ∀ store cleared, TokenStore.set store tokenName "" = .ok cleared →
        (t.withStore store).logout = (s.withStore store).logout ∧
        (t.withStore store).logout = (.ok (), start cleared)) := by
  refine ⟨fun applied t h store => ?_, fun error t h => ?_, fun error t h => ?_⟩
  · by_cases hcurrent : token = s.token
    · subst hcurrent
      have hend := applied_of_settle h
      rw [← hend.token]
      exact (hend.again store).settle_eq
    · rw [settle_of_ne hcurrent] at h
      cases h
      exact settle_of_ne (s := s.withStore store) hcurrent outcome
  · have hcurrent : token = s.token := by
      by_contra hne
      rw [settle_of_ne hne] at h
      cases h
    subst hcurrent
    obtain ⟨check, e, rfl, hok, rfl, hphase, hbefore, hafter, hstore, hidentity⟩ :=
      (applied_of_settle h).error_cases
    refine ⟨⟨_, rfl, hphase⟩, hafter, hstore, fun store accepted hset => ?_⟩
    have hretry := settle_of_merged (s := s.withStore store) (t := t.withStore store) rfl hidentity
      (hafter.trans hbefore.symm)
    have hfirst : (s.withStore store).settle s.token (.ok check) =
        (.ok true, ⟨accepted, s.identity.merge check.info, true, .settled⟩) :=
      (Applied.admitted (s := s.withStore store) hok hbefore hset).settle_eq
    rw [hidentity]
    exact ⟨hretry, hretry.trans hfirst⟩
  · rcases s.logout_cases with ⟨e, -, heq⟩ | ⟨store, -, heq⟩
    · rw [heq] at h
      cases h
      exact ⟨⟨_, rfl⟩, rfl, fun store cleared hset => ⟨logout_of_store rfl, logout_of_set hset⟩⟩
    · rw [heq] at h
      cases h

def unstorable : Session MemoryStore :=
  ⟨⟨[("theme", "dark")], 3, some (.unavailable "full")⟩, Identity.anonymous.withToken ⟨"new"⟩,
    false, .resolving⟩

theorem settle_repeated_unstorable :
    let outcome := .ok ⟨200, ⟨"alice", "admin", "local"⟩⟩
    let t := (unstorable.settle ⟨"new"⟩ outcome).2
    let u := ((t.withStore (t.store.refuse none)).settle ⟨"new"⟩ outcome).2
    t.phase = .failed "token store unavailable: full" ∧ t.store = unstorable.store ∧
      u.store = ⟨[("token", "new"), ("theme", "dark")], 4, none⟩ ∧ u.identity.login = "alice" ∧
      ∀ refusal, (u.withStore (u.store.refuse refusal)).settle ⟨"new"⟩ outcome =
        (.ok true, u.withStore (u.store.refuse refusal)) := by
  intro outcome t u
  obtain ⟨-, hrefused, -⟩ := settle_repeated unstorable ⟨"new"⟩ outcome
  obtain ⟨-, -, hstore, hretry⟩ := hrefused _ t rfl
  obtain ⟨-, htaken⟩ := hretry (t.store.refuse none) _ rfl
  obtain ⟨hagain, -, -⟩ := settle_repeated (t.withStore (t.store.refuse none)) ⟨"new"⟩ outcome
  have hu : u.store = ⟨[("token", "new"), ("theme", "dark")], 4, none⟩ := by decide
  exact ⟨by decide, hstore, hu, by decide, fun refusal => hagain true u htaken _⟩

end Session

end AdminConsole
