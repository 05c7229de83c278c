import AdminConsole.Proofs.Session.Run

/-!
# Accepted and stored tokens

A session becomes authenticated on a token that the backend has accepted, and while it stays so its
store holds that token, whatever tokens replace it in memory. So a later accepted check need not
leave its own token in the store. The application is still on screen for accepted tokens only: what
comes back from the store has been accepted too.
-/

namespace AdminConsole

/-- What a store shows of a token that was written to it. -/
def SessionToken.stored (t : SessionToken) : Option String :=
  if t.text = "" then none else some t.text

theorem SessionToken.stored_inj {t u : SessionToken} : t.stored = u.stored ↔ t = u := by
  obtain ⟨t⟩ := t
  obtain ⟨u⟩ := u
  simp only [stored, mk.injEq]
  constructor
  · intro h
    by_cases ht : t = "" <;> by_cases hu : u = "" <;> simp_all
  · rintro rfl
    rfl

theorem SessionToken.eq_of_stored_eq_some {t u : SessionToken} (h : t.stored = some u.text) :
    t = u := by
  obtain ⟨t⟩ := t
  obtain ⟨u⟩ := u
  simp only [stored, Option.ite_none_left_eq_some, Option.some.injEq] at h
  rw [h.2]

variable {σ ε : Type} [TokenStore σ] (act : ε → σ → σ)

namespace Moment

def accepted? (m : Moment σ ε) : Option SessionToken :=
  match m.applied? with
  | some (s, .ok check) => if check.status = 200 then some s.token else none
  | _ => none

def admitted? (m : Moment σ ε) : Option SessionToken :=
  if m.before.authenticated = false ∧ (m.after act).authenticated = true then
    some (m.after act).token
  else none

theorem accepted_of_applied {m : Moment σ ε} {s : Session σ} {check : IdentityCheck}
    (h : m.applied? = some (s, .ok check)) (hok : check.isAuthorized = true) :
    m.accepted? = some s.token := by
  simp only [accepted?, h, of_decide_eq_true hok, if_true]

theorem Effect.admission {m : Moment σ ε} {t : Session σ} (heff : Effect act m t)
    (hbefore : m.before.authenticated = false) (hafter : t.authenticated = true) :
    m.accepted? = some t.token ∧
      TokenStore.set m.before.store tokenName t.token.text = .ok t.store := by
  cases heff with
  | idle | adopted | moved => exact absurd hafter (Bool.eq_false_iff.mp hbefore)
  | loaded =>
    rw [Session.authenticated_loadToken] at hafter
    exact absurd hafter (Bool.eq_false_iff.mp hbefore)
  | begun =>
    rw [Session.authenticated_beginCheck] at hafter
    exact absurd hafter (Bool.eq_false_iff.mp hbefore)
  | ended =>
    rw [Session.authenticated_logout] at hafter
    cases hafter
  | applied happ hend =>
    have hflag := authenticated_of_applied happ
    have hstore := store_of_applied happ
    cases hend with
    | failed | broken | refused => cases hafter
    | confirmed hok ha =>
      rw [hflag, hbefore] at ha
      cases ha
    | unstored hok ha hset =>
      rw [ha] at hafter
      cases hafter
    | admitted hok ha hset =>
      have htoken := (Session.Applied.admitted hok ha hset).token
      rw [accepted_of_applied happ hok, htoken, ← store_of_applied happ]
      exact ⟨rfl, hset⟩

theorem Effect.get_of_authenticated {m : Moment σ ε} {t : Session σ} {name : String}
    (hact : ∀ action store, TokenStore.get (act action store) name = TokenStore.get store name)
    (heff : Effect act m t) (hbefore : m.before.authenticated = true)
    (hafter : t.authenticated = true) :
    TokenStore.get t.store name = TokenStore.get m.before.store name := by
  cases heff with
  | idle | adopted => rfl
  | loaded => rw [Session.store_loadToken]
  | begun => rw [Session.store_beginCheck]
  | ended =>
    rw [Session.authenticated_logout] at hafter
    cases hafter
  | moved => exact hact _ _
  | applied happ hend =>
    have hflag := authenticated_of_applied happ
    rw [← store_of_applied happ]
    cases hend with
    | failed | broken | refused => cases hafter
    | confirmed | unstored => rfl
    | admitted hok ha hset =>
      rw [hflag, hbefore] at ha
      cases ha

/-- An authenticated session is settled on a token that has just been accepted, or on the one it was
settled on before, or on the one that the store held. -/
theorem Effect.settled_token {m : Moment σ ε} {t : Session σ} (heff : Effect act m t)
    (hafter : t.authenticated = true) (hphase : t.phase = .settled) :
    m.accepted? = some t.token ∨ m.before.phase = .settled ∧ (t.token = m.before.token ∨
      TokenStore.get m.before.store tokenName = some t.token.text) := by
  cases heff with
  | idle | moved => exact .inr ⟨hphase, .inl rfl⟩
  | loaded =>
    rw [Session.phase_loadToken] at hphase
    exact .inr ⟨hphase, Session.token_loadToken _⟩
  | begun | adopted => cases hphase
  | ended =>
    rw [Session.phase_logout] at hphase
    cases hphase
  | applied happ hend =>
    have htoken := hend.token
    cases hend with
    | failed | broken | refused => cases hafter
    | unstored => cases hphase
    | confirmed hok | admitted hok =>
      rw [accepted_of_applied happ hok, htoken]
      exact .inl rfl

end Moment

/-- `recent` is the part of a history from the step on that last made the session authenticated. -/
def AuthenticatedSince (past recent : List (Moment σ ε)) : Prop :=
  ∃ m later, recent = m :: later ∧ recent <:+ past ∧ m.before.authenticated = false ∧
    (m.after act).authenticated = true ∧
    ∀ x ∈ later, x.before.authenticated = true ∧ (x.after act).authenticated = true

section
variable {past recent : List (Moment σ ε)} {m : Moment σ ε}

theorem authenticatedSince_singleton (hbefore : m.before.authenticated = false)
    (hafter : (m.after act).authenticated = true) : AuthenticatedSince act (past ++ [m]) [m] :=
  ⟨m, [], rfl, List.suffix_append _ _, hbefore, hafter, by simp⟩

theorem AuthenticatedSince.concat (h : AuthenticatedSince act past recent)
    (hbefore : m.before.authenticated = true) (hafter : (m.after act).authenticated = true) :
    AuthenticatedSince act (past ++ [m]) (recent ++ [m]) := by
  obtain ⟨first, later, rfl, ⟨earlier, hsplit⟩, hb, ha, hlater⟩ := h
  refine ⟨first, later ++ [m], rfl, ⟨earlier, ?_⟩, hb, ha, ?_⟩
  · rw [← hsplit, List.append_assoc]
  · intro x hx
    rcases List.mem_append.mp hx with hx | hx
    · exact hlater x hx
    · rw [List.mem_singleton.mp hx]
      exact ⟨hbefore, hafter⟩

end

-- ---------------------------------------------------------------------------
-- Over a store in memory that may refuse writes
-- ---------------------------------------------------------------------------

namespace Session

def lastAdmitted (past : List MemoryMoment) : Option SessionToken :=
  latest (Moment.admitted? MemoryStore.refuse) past

theorem get_set_tokenName {store store' : MemoryStore} {token : SessionToken}
    (h : TokenStore.set store tokenName token.text = .ok store') :
    store'.get tokenName = token.stored := MemoryStore.get_set_self h

/-- While a session is authenticated, its store holds the token of its admission. -/
def StoresAdmitted (past : List MemoryMoment) (s : Session MemoryStore) : Prop :=
  s.authenticated = true →
    ∃ token, lastAdmitted past = some token ∧ s.store.get tokenName = token.stored

theorem StoresAdmitted.after {past : List MemoryMoment} {m : MemoryMoment}
    (h : StoresAdmitted past m.before) :
    StoresAdmitted (past ++ [m]) (m.after MemoryStore.refuse) := by
  intro hafter
  have heff := m.effect_after MemoryStore.refuse
  rw [lastAdmitted, latest_concat]
  cases hbefore : m.before.authenticated with
  | false =>
    obtain ⟨-, hset⟩ := heff.admission _ hbefore hafter
    have hadmitted : m.admitted? MemoryStore.refuse = some (m.after MemoryStore.refuse).token :=
      if_pos ⟨hbefore, hafter⟩
    rw [hadmitted, Option.some_or]
    exact ⟨_, rfl, get_set_tokenName hset⟩
  | true =>
    obtain ⟨token, hlast, hget⟩ := h hbefore
    have hadmitted : m.admitted? MemoryStore.refuse = none := by simp [Moment.admitted?, hbefore]
    rw [hadmitted, Option.none_or]
    have hkeep := heff.get_of_authenticated MemoryStore.refuse MemoryStore.get_refuse hbefore hafter
    exact ⟨token, hlast, hkeep.trans hget⟩

theorem storesAdmitted_run (store : MemoryStore) (events : List MemoryEvent) :
    StoresAdmitted (historyMemory store events) (runMemory store events) :=
  run_induction _ store nofun (fun _ _ => .after) events

/-- An accepted check leaves its token in the store exactly if it makes the session authenticated
itself, or if the session last became so with that same token. Only a check of the first kind
writes. -/
theorem stored_eq_iff (store : MemoryStore) (events : List MemoryEvent) {token : SessionToken}
    {check : IdentityCheck} {s : Session MemoryStore} (hstatus : check.status = 200)
    (h : (runMemory store events).settle token (.ok check) = (.ok true, s)) :
    s.token = token ∧
      (s.store.get tokenName = token.stored ↔
        ((runMemory store events).authenticated = true →
          lastAdmitted (historyMemory store events) = some token)) := by
  have hadmitted := storesAdmitted_run store events
  generalize runMemory store events = before at h hadmitted ⊢
  have htoken : token = before.token := by
    by_contra hne
    rw [settle_of_ne hne] at h
    cases h
  subst htoken
  have hend : before.Applied (.ok check) (.ok true) s := by
    have := before.applied_apply (.ok check)
    rwa [apply, h] at this
  refine ⟨hend.token, ?_⟩
  cases hend with
  | confirmed hok ha =>
    obtain ⟨admitted, hlast, hget⟩ := hadmitted ha
    rw [hlast]
    simp [hget, SessionToken.stored_inj, ha]
  | admitted hok ha hset => simp [get_set_tokenName hset, ha]
  | broken hok | refused hok => simp [IdentityCheck.isAuthorized, hstatus] at hok

def acceptance : IdentityCheck := ⟨200, .blank⟩

/-- A token is accepted, and another one replaces it in the session that it made authenticated. -/
def replacement : List MemoryEvent :=
  [.adoptToken ⟨"old"⟩, .settle ⟨"old"⟩ (.ok acceptance), .adoptToken ⟨"new"⟩]

theorem stored_old_of_replacement :
    let after := ((runMemory .empty replacement).settle ⟨"new"⟩ (.ok acceptance)).2
    after.token = ⟨"new"⟩ ∧ after.store.get tokenName ≠ SessionToken.stored ⟨"new"⟩ := by
  obtain ⟨htoken, hstored⟩ := @stored_eq_iff .empty replacement ⟨"new"⟩ acceptance _ rfl rfl
  refine ⟨htoken, fun hnew => ?_⟩
  have hlast : lastAdmitted (historyMemory .empty replacement) = some ⟨"old"⟩ := by decide
  rw [hlast] at hstored
  exact absurd (hstored.mp hnew (by decide)) (by decide)

/-- Replacing the token of an authenticated session leaves it authenticated, so that a successful
check may leave the store with another token than the session. -/
theorem not_forall_stored :
    ¬ ∀ (store : MemoryStore) (events : List MemoryEvent) (token : SessionToken)
      (check : IdentityCheck) (s : Session MemoryStore), check.status = 200 →
      (runMemory store events).settle token (.ok check) = (.ok true, s) →
      s.store.get tokenName = token.stored := by
  intro h
  have hstored := h .empty replacement ⟨"new"⟩ acceptance _ rfl rfl
  exact absurd hstored (by decide)

/-- While a session is authenticated, its store holds a token that was accepted since the session
became so, and once it is settled its own token is another such one. -/
def Vouched (past : List MemoryMoment) (s : Session MemoryStore) : Prop :=
  s.authenticated = true →
    ∃ recent, AuthenticatedSince MemoryStore.refuse past recent ∧
      (∃ m ∈ recent, ∃ token, m.accepted? = some token ∧ s.store.get tokenName = token.stored) ∧
      (s.phase = .settled → ∃ m ∈ recent, m.accepted? = some s.token)

theorem Vouched.after {past : List MemoryMoment} {m : MemoryMoment} (h : Vouched past m.before) :
    Vouched (past ++ [m]) (m.after MemoryStore.refuse) := by
  intro hafter
  have heff := m.effect_after MemoryStore.refuse
  cases hbefore : m.before.authenticated with
  | false =>
    obtain ⟨haccepted, hset⟩ := heff.admission _ hbefore hafter
    exact ⟨[m], authenticatedSince_singleton _ hbefore hafter,
      ⟨m, by simp, _, haccepted, get_set_tokenName hset⟩, fun _ => ⟨m, by simp, haccepted⟩⟩
  | true =>
    obtain ⟨recent, hsince, ⟨holder, hholder, token, htoken, hget⟩, hsettled⟩ := h hbefore
    have hkeep := heff.get_of_authenticated MemoryStore.refuse MemoryStore.get_refuse hbefore hafter
    refine ⟨recent ++ [m], hsince.concat _ hbefore hafter,
      ⟨holder, by simp [hholder], token, htoken, hkeep.trans hget⟩, fun hphase => ?_⟩
    rcases heff.settled_token _ hafter hphase with haccepted | ⟨hphase, hsame | hloaded⟩
    · exact ⟨m, by simp, haccepted⟩
    · obtain ⟨x, hx, haccepted⟩ := hsettled hphase
      exact ⟨x, by simp [hx], hsame ▸ haccepted⟩
    · -- The stored token was taken into memory: it is one of those that were accepted.
      have := SessionToken.eq_of_stored_eq_some (hget.symm.trans hloaded)
      exact ⟨holder, by simp [hholder], this ▸ htoken⟩

/-- The application is on screen only for a token that the backend has accepted: on the step that
last made the session authenticated, or since. -/
theorem accepted_of_branch (store : MemoryStore) (events : List MemoryEvent) (route : Route)
    (h : (runMemory store events).branch route = .authenticated) :
    ∃ recent, AuthenticatedSince MemoryStore.refuse (historyMemory store events) recent ∧
      ∃ m ∈ recent, m.accepted? = some (runMemory store events).token := by
  have hvouched : Vouched (historyMemory store events) (runMemory store events) :=
    run_induction _ store nofun (fun _ _ => .after) events
  obtain ⟨hphase, hflag⟩ := branch_eq_authenticated_iff.mp h
  obtain ⟨recent, hsince, -, hsettled⟩ := hvouched hflag
  exact ⟨recent, hsince, hsettled hphase⟩

def reload : List MemoryEvent :=
  [.adoptToken ⟨"kept"⟩, .settle ⟨"kept"⟩ (.ok acceptance), .adoptToken .empty,
    .settle .empty (.ok acceptance), .loadToken]

theorem accepted_kept_of_reload :
    ∃ recent, AuthenticatedSince MemoryStore.refuse (historyMemory .empty reload) recent ∧
      ∃ m ∈ recent, m.accepted? = some ⟨"kept"⟩ :=
  accepted_of_branch .empty reload .normal (by decide)

end Session

end AdminConsole
