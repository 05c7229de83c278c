import AdminConsole.Proofs.Session.Admission

/-!
# What a session writes

A session writes to its store on two occasions: when it becomes authenticated, the token it was
checked with, and when it ends, that there is no token any more. So the writes of a run are counted
on its history, and what the store holds is the last of them.
-/

namespace AdminConsole

variable {σ ε : Type} [TokenStore σ] (act : ε → σ → σ)

theorem Session.Applied.store_cases {s t : Session σ} {outcome : Except ApiError IdentityCheck}
    {result : Except SessionError Bool} (h : s.Applied outcome result t) :
    t.store = s.store ∨ s.authenticated = false ∧ result = .ok true ∧
      ∃ check, outcome = .ok check ∧ check.status = 200 := by
  cases h with
  | admitted hok ha => exact .inr ⟨ha, rfl, _, rfl, of_decide_eq_true hok⟩
  | _ => exact .inl rfl

namespace Moment

-- ---------------------------------------------------------------------------
-- Steps that write
-- ---------------------------------------------------------------------------

def checked? (m : Moment σ ε) : Option SessionToken :=
  match m.event with
  | .settle token _ => some token
  | .resolve _ => some m.before.beginCheck.token
  | _ => none

def admits (m : Moment σ ε) : Bool := !m.before.authenticated && (m.after act).authenticated

/-- The step ends the session, and the store allows it. -/
def ends (m : Moment σ ε) : Bool :=
  match m.event with
  | .logout => m.before.logout.1.isOk
  | _ => false

def written? (m : Moment σ ε) : Option SessionToken :=
  if m.admits act then m.checked?
  else if m.ends then some .empty
  else none

theorem checked_of_applied {m : Moment σ ε} {s : Session σ}
    {outcome : Except ApiError IdentityCheck} (h : m.applied? = some (s, outcome)) :
    m.checked? = some s.token := by
  rcases applied_cases h with rfl | ⟨before, rfl, rfl⟩
  · rfl
  · rfl

theorem ends_of_ne {m : Moment σ ε} (h : m.event ≠ .logout) : m.ends = false := by
  obtain ⟨before, event⟩ := m
  cases event with
  | logout => exact absurd rfl h
  | _ => rfl

omit [TokenStore σ] in
theorem Quiet.event_ne {m : Moment σ ε} (h : m.Quiet) : m.event ≠ .logout := by
  intro heq
  simp [Quiet, heq] at h

theorem event_ne_of_applied {m : Moment σ ε} {s : Session σ}
    {outcome : Except ApiError IdentityCheck} (h : m.applied? = some (s, outcome)) :
    m.event ≠ .logout := by
  intro heq
  simp [applied?, heq] at h

inductive Access (m : Moment σ ε) (t : Session σ) : Prop
  | admission {token : SessionToken} (hadmits : (!m.before.authenticated && t.authenticated) = true)
    (hends : m.ends = false) (hchecked : m.checked? = some token)
    (hset : TokenStore.set m.before.store tokenName token.text = .ok t.store)
  | ending (hadmits : (!m.before.authenticated && t.authenticated) = false)
    (hends : m.ends = true)
    (hset : TokenStore.set m.before.store tokenName SessionToken.empty.text = .ok t.store)
  | neither (hadmits : (!m.before.authenticated && t.authenticated) = false)
    (hends : m.ends = false)
    (hstore : t.store = m.before.store ∨
      ∃ action, m.event = .outside action ∧ t.store = act action m.before.store)

theorem Effect.access {m : Moment σ ε} {t : Session σ} (heff : Effect act m t) :
    Access act m t := by
  cases heff with
  | idle hq => exact .neither (by simp) (ends_of_ne hq.event_ne) (.inl rfl)
  | loaded hq =>
    exact .neither (by simp) (ends_of_ne hq.event_ne) (.inl (Session.store_loadToken _))
  | begun => exact .neither (by simp) rfl (.inl (Session.store_beginCheck _))
  | adopted => exact .neither (by simp [Session.adoptToken]) rfl (.inl rfl)
  | @ended s =>
    have hadmits : (!s.authenticated && s.logout.2.authenticated) = false := by
      simp [s.authenticated_logout]
    rcases s.logout_cases with ⟨e, -, h⟩ | ⟨store, hset, h⟩
    · refine .neither hadmits ?_ (.inl ?_)
      · simp only [ends, h, Except.isOk, Except.toBool]
      · rw [h]
    · refine .ending hadmits ?_ ?_
      · simp only [ends, h, Except.isOk, Except.toBool]
      · rw [h]
        exact hset
  | @moved s action => exact .neither (by simp) rfl (.inr ⟨action, rfl, rfl⟩)
  | applied happ hend =>
    have hends : m.ends = false := ends_of_ne (event_ne_of_applied happ)
    have hflag := authenticated_of_applied happ
    have hstore := store_of_applied happ
    cases hend with
    | failed | broken | refused => exact .neither (by simp) hends (.inl hstore)
    | confirmed hok ha => exact .neither (by simp [← hflag, ha]) hends (.inl hstore)
    | unstored hok ha => exact .neither (by simp [ha]) hends (.inl hstore)
    | admitted hok ha hset =>
      exact .admission (by simp [← hflag, ha]) hends (checked_of_applied happ) (hstore ▸ hset)

-- ---------------------------------------------------------------------------
-- Steps that do not
-- ---------------------------------------------------------------------------

/-- The steps that leave the store alone. An outcome does if it is stale, if no token was accepted,
if the store refuses the token, and if the session was authenticated before. -/
inductive Silent : Moment σ ε → Prop
  | load {s : Session σ} : Silent ⟨s, .loadToken⟩
  | begin {s : Session σ} : Silent ⟨s, .beginCheck⟩
  | revalidate {s : Session σ} : Silent ⟨s, .revalidate⟩
  | adopt {s : Session σ} {token : SessionToken} : Silent ⟨s, .adoptToken token⟩
  | stale {s : Session σ} {token : SessionToken} {outcome : Except ApiError IdentityCheck}
    (h : token ≠ s.token) : Silent ⟨s, .settle token outcome⟩
  | failed {m : Moment σ ε} {s : Session σ} {e : ApiError} (h : m.applied? = some (s, .error e)) :
    Silent m
  | unaccepted {m : Moment σ ε} {s : Session σ} {check : IdentityCheck}
    (h : m.applied? = some (s, .ok check)) (hstatus : check.status ≠ 200) : Silent m
  | rejected {m : Moment σ ε} {s : Session σ} {outcome : Except ApiError IdentityCheck}
    (h : m.applied? = some (s, outcome)) (hresult : (s.settle s.token outcome).1.isOk = false) :
    Silent m
  | repeated {m : Moment σ ε} {s : Session σ} {outcome : Except ApiError IdentityCheck}
    (h : m.applied? = some (s, outcome)) (hflag : m.before.authenticated = true) : Silent m

theorem store_after_cases {m : Moment σ ε} {s : Session σ}
    {outcome : Except ApiError IdentityCheck} (happ : m.applied? = some (s, outcome)) :
    (m.after act).store = m.before.store ∨
      m.before.authenticated = false ∧ (s.settle s.token outcome).1 = .ok true ∧
        ∃ check, outcome = .ok check ∧ check.status = 200 := by
  rw [after_of_applied act happ, ← store_of_applied happ, ← authenticated_of_applied happ]
  exact (s.applied_apply outcome).store_cases

theorem Silent.store_after {m : Moment σ ε} (h : m.Silent) :
    (m.after act).store = m.before.store := by
  cases h with
  | load => exact Session.store_loadToken _
  | begin => exact Session.store_beginCheck _
  | @revalidate s =>
    simp only [after, Session.step, Session.revalidate?]
    split
    · exact s.store_loadToken
    · rfl
  | adopt => rfl
  | stale hne => exact congrArg Session.store (Session.step_settle_of_ne act hne _)
  | failed happ =>
    refine (store_after_cases act happ).resolve_right ?_
    rintro ⟨-, -, check, h, -⟩
    cases h
  | unaccepted happ hstatus =>
    refine (store_after_cases act happ).resolve_right ?_
    rintro ⟨-, -, check, h, hok⟩
    cases h
    exact hstatus hok
  | rejected happ hresult =>
    refine (store_after_cases act happ).resolve_right ?_
    rintro ⟨-, h, -⟩
    simp [h, Except.isOk, Except.toBool] at hresult
  | repeated happ hflag =>
    refine (store_after_cases act happ).resolve_right ?_
    rintro ⟨h, -⟩
    rw [hflag] at h
    cases h

end Moment

theorem Session.silent_of_isOk {s t : Session σ} {token : SessionToken}
    {outcome : Except ApiError IdentityCheck} (h : (s.settle token outcome).1.isOk = true)
    (htoken : t.token = (s.settle token outcome).2.token)
    (hflag : t.authenticated = (s.settle token outcome).2.authenticated) :
    (⟨t, .settle token outcome⟩ : Moment σ ε).Silent := by
  by_cases hcurrent : token = s.token
  · subst hcurrent
    have hend := s.applied_apply outcome
    have htoken : t.token = s.token := htoken.trans hend.token
    have happ : (⟨t, .settle s.token outcome⟩ : Moment σ ε).applied? = some (t, outcome) :=
      if_pos htoken.symm
    have hflag : t.authenticated = (s.apply outcome).authenticated := hflag
    generalize (s.settle s.token outcome).1 = result at h hend
    generalize s.apply outcome = after at hflag hend
    cases hend with
    | failed => exact .failed happ
    | confirmed hok ha => exact .repeated happ (hflag.trans ha)
    | admitted => exact .repeated happ hflag
    | unstored => cases h
    | broken hok | refused hok => exact .unaccepted happ (of_decide_eq_false hok)
  · rw [settle_of_ne hcurrent] at htoken
    exact .stale (htoken ▸ hcurrent)

-- ---------------------------------------------------------------------------
-- Over a store in memory that may refuse writes
-- ---------------------------------------------------------------------------

theorem Moment.access (m : Moment σ ε) : m.Access act (m.after act) :=
  (m.effect_after act).access act

namespace Session

/-- The writes of a history, and what they make of the store that the run started with. -/
structure Ledger (store : MemoryStore) (past : List MemoryMoment) (s : Session MemoryStore) :
    Prop where
  writes : s.store.writes = store.writes +
    (past.countP (Moment.admits MemoryStore.refuse) + past.countP Moment.ends)
  stored : s.store.get tokenName =
    (latest (Moment.written? MemoryStore.refuse) past).elim (store.get tokenName)
      SessionToken.stored
  others : ∀ name, name ≠ tokenName → s.store.get name = store.get name

section
variable {store : MemoryStore} {past : List MemoryMoment} {m : MemoryMoment}

theorem Ledger.write {token : SessionToken} (h : Ledger store past m.before)
    (honce : [m].countP (Moment.admits MemoryStore.refuse) + [m].countP Moment.ends = 1)
    (hwritten : m.written? MemoryStore.refuse = some token)
    (hset : TokenStore.set m.before.store tokenName token.text =
      .ok (m.after MemoryStore.refuse).store) :
    Ledger store (past ++ [m]) (m.after MemoryStore.refuse) where
  writes := by
    have hpast := h.writes
    have hnow := MemoryStore.writes_set hset
    rw [List.countP_append, List.countP_append]
    omega
  stored := by
    rw [latest_concat, hwritten, Option.some_or]
    exact get_set_tokenName hset
  others name hne := (MemoryStore.get_set_of_ne hset hne).trans (h.others name hne)

theorem Ledger.keep (h : Ledger store past m.before)
    (hadmits : m.admits MemoryStore.refuse = false) (hends : m.ends = false)
    (hwrites : (m.after MemoryStore.refuse).store.writes = m.before.store.writes)
    (hentries : (m.after MemoryStore.refuse).store.entries = m.before.store.entries) :
    Ledger store (past ++ [m]) (m.after MemoryStore.refuse) := by
  have hget (name : String) :
      (m.after MemoryStore.refuse).store.get name = m.before.store.get name :=
    congrArg (List.lookup name) hentries
  refine ⟨?_, ?_, fun name hne => (hget name).trans (h.others name hne)⟩
  · simp [List.countP_append, hadmits, hends, hwrites, h.writes]
  · simp [latest_concat, Moment.written?, hadmits, hends, hget, h.stored]

theorem Ledger.after (h : Ledger store past m.before) :
    Ledger store (past ++ [m]) (m.after MemoryStore.refuse) := by
  cases m.access MemoryStore.refuse with
  | admission hadmits hends hchecked hset =>
    have hadmits : m.admits MemoryStore.refuse = true := hadmits
    exact h.write (by simp [hadmits, hends]) (by simp [Moment.written?, hadmits, hchecked]) hset
  | ending hadmits hends hset =>
    have hadmits : m.admits MemoryStore.refuse = false := hadmits
    exact h.write (by simp [hadmits, hends]) (by simp [Moment.written?, hadmits, hends]) hset
  | neither hadmits hends hstore =>
    rcases hstore with hstore | ⟨refusal, -, hstore⟩
    · exact h.keep hadmits hends (by rw [hstore]) (by rw [hstore])
    · exact h.keep hadmits hends (by rw [hstore]; rfl) (by rw [hstore]; rfl)

end

/-- At any point of a run the store has taken one write for each time that the session became
authenticated and one for each time that it ended with the store's consent. The former writes the
token that the check was made with, the latter clears the entry, and the store holds what the last
of them has left. A silent step writes nothing, and neither does an outcome that comes again, even
if the store accepts writes now that it refused before. -/
theorem ledger_run (store : MemoryStore) (events : List MemoryEvent) :
    let s := runMemory store events
    Ledger store (historyMemory store events) s ∧
      (∀ event, let m : MemoryMoment := ⟨s, event⟩
        (m.admits MemoryStore.refuse = true →
          ∃ token, m.checked? = some token ∧ m.written? MemoryStore.refuse = some token ∧
            s.store.set tokenName token.text = .ok (m.after MemoryStore.refuse).store) ∧
        (m.ends = true → m.written? MemoryStore.refuse = some .empty ∧
          s.store.set tokenName "" = .ok (m.after MemoryStore.refuse).store) ∧
        (m.Silent → (m.after MemoryStore.refuse).store = s.store)) ∧
      ∀ token outcome refusal, (s.settle token outcome).1.isOk = true →
        let t := s.run MemoryStore.refuse [.settle token outcome, .outside refusal]
        (t.settle token outcome).2.store = t.store := by
  intro s
  refine ⟨run_induction _ store ⟨rfl, rfl, fun _ _ => rfl⟩ (fun _ _ => .after) events, ?_, ?_⟩
  · intro event m
    refine ⟨fun hadmits => ?_, fun hends => ?_, fun hsilent => hsilent.store_after _⟩
    · cases m.access MemoryStore.refuse with
      | admission _ _ hchecked hset =>
        exact ⟨_, hchecked, by simp [Moment.written?, hadmits, hchecked], hset⟩
      | ending hnot | neither hnot => exact absurd (hadmits.symm.trans hnot) nofun
    · cases m.access MemoryStore.refuse with
      | ending hnot _ hset =>
        have hnot : m.admits MemoryStore.refuse = false := hnot
        exact ⟨by simp [Moment.written?, hnot, hends], hset⟩
      | admission _ hnot | neither _ hnot => exact absurd (hends.symm.trans hnot) nofun
  · intro token outcome refusal hok t
    have hsilent : (⟨t, .settle token outcome⟩ : MemoryMoment).Silent := silent_of_isOk hok rfl rfl
    exact hsilent.store_after MemoryStore.refuse

end Session

end AdminConsole
