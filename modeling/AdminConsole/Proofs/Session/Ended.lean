import AdminConsole.Proofs.Session.Run

/-!
# After a session has ended

Ending a session takes its token out of memory and out of the store. From then on only a new token
can start another one: checks are made without a token, and the answers to earlier checks come too
late. Whether the store refuses writes makes no difference.
-/

namespace AdminConsole

namespace Session

structure Tokenless (s : Session MemoryStore) : Prop where
  token : s.token = .empty
  stored : s.store.get tokenName = none

namespace Tokenless

variable {s : Session MemoryStore}

theorem loadToken_eq (h : s.Tokenless) : s.loadToken = s := by
  rcases s.loadToken_cases with heq | ⟨-, text, hget, -⟩
  · exact heq
  · exact absurd (h.stored.symm.trans hget) nofun

theorem beginCheck (h : s.Tokenless) : s.beginCheck.Tokenless := by
  have hload : s.loadToken.Tokenless := h.loadToken_eq.symm ▸ h
  exact ⟨hload.token, hload.stored⟩

/-- An accepted check may write to the store, but only that there is no token. -/
theorem applied {t : Session MemoryStore} {outcome : Except ApiError IdentityCheck}
    {result : Except SessionError Bool} (h : s.Tokenless) (hend : s.Applied outcome result t) :
    t.Tokenless := by
  refine ⟨hend.token.trans h.token, ?_⟩
  cases hend with
  | failed | confirmed | unstored | broken | refused => exact h.stored
  | admitted hok ha hset =>
    rw [h.token] at hset
    exact MemoryStore.get_set_self hset

end Tokenless

theorem tokenless_logout {s : Session MemoryStore} (h : s.logout.1 = .ok ()) :
    s.logout.2.Tokenless := by
  rcases s.logout_cases with ⟨e, -, heq⟩ | ⟨store, hset, heq⟩
  · rw [heq] at h
    cases h
  · rw [heq]
    exact ⟨rfl, MemoryStore.get_set_self hset⟩

end Session

open Session (Tokenless)

/-- Only adopting a token brings one. Ending the session once more does not, even if the store
refuses to be cleared again. -/
theorem Moment.Effect.tokenless {m : MemoryMoment} {t : Session MemoryStore}
    (heff : Effect MemoryStore.refuse m t) (h : m.before.Tokenless)
    (hnew : ∀ token, m.event ≠ .adoptToken token) : t.Tokenless := by
  cases heff with
  | idle => exact h
  | loaded => exact h.loadToken_eq.symm ▸ h
  | begun => exact h.beginCheck
  | adopted => exact absurd rfl (hnew _)
  | @ended s =>
    rcases s.logout_cases with ⟨e, -, heq⟩ | ⟨store, hset, heq⟩ <;> rw [heq]
    · exact ⟨rfl, h.stored⟩
    · exact ⟨rfl, MemoryStore.get_set_self hset⟩
  | moved => exact ⟨h.token, h.stored⟩
  | applied happ hend =>
    rcases before_of_applied happ with rfl | rfl
    · exact h.applied hend
    · exact h.beginCheck.applied hend

namespace Session

theorem Tokenless.run {s : Session MemoryStore} (h : s.Tokenless) {events : List MemoryEvent}
    (hnew : ∀ event ∈ events, ∀ token, event ≠ .adoptToken token) :
    (s.run MemoryStore.refuse events).Tokenless := by
  induction events generalizing s with
  | nil => exact h
  | cons event events ih =>
    rw [List.forall_mem_cons] at hnew
    have heff := Moment.effect_after MemoryStore.refuse ⟨s, event⟩
    exact ih (heff.tokenless h hnew.1) hnew.2

/-- A session that has ended does not come back unless it is given a token: at every later point
memory and store are without one, whichever check is made next is made with the empty token, and the
outcome of a check that was made with another token changes nothing. -/
theorem ended_run (s : Session MemoryStore) (hend : s.logout.1 = .ok ())
    (events : List MemoryEvent) (hnew : ∀ event ∈ events, ∀ token, event ≠ .adoptToken token) :
    let t := s.logout.2.run MemoryStore.refuse events
    t.token = .empty ∧ t.store.get tokenName = none ∧
      (t.loadToken.token = .empty ∧ t.beginCheck.token = .empty ∧
        (∀ u, t.revalidate? = some u → u.token = .empty) ∧
        t.resolve.call? = some ⟨_, .userInfo .empty⟩) ∧
      ∀ token outcome, token ≠ .empty → t.settle token outcome = (.ok false, t) := by
  intro t
  have ht : t.Tokenless := (tokenless_logout hend).run hnew
  have hload : t.loadToken.token = .empty := ht.loadToken_eq.symm ▸ ht.token
  have hbegin : t.beginCheck.token = .empty := ht.beginCheck.token
  refine ⟨ht.token, ht.stored, ⟨hload, hbegin, ?_, ?_⟩, ?_⟩
  · intro u hu
    simp only [revalidate?, Option.ite_none_right_eq_some, Option.some.injEq] at hu
    exact hu.2 ▸ hload
  · simp only [resolve, Leg.call?, hbegin]
  · intro token outcome hne
    exact settle_of_ne (ht.token.symm ▸ hne) outcome

/-- The answers to two checks come after the end of the session that made them, and a new check is
accepted without a token. -/
def aftermath : List MemoryEvent :=
  [.settle ⟨"old"⟩ (.ok ⟨200, ⟨"alice", "admin", "local"⟩⟩), .loadToken,
    .resolve (.ok ⟨200, .blank⟩), .revalidate, .outside (some (.unavailable "")),
    .settle ⟨"old"⟩ (.error (.transport ""))]

theorem ended_of_aftermath :
    let s := runMemory (.ofToken "old") [.resolve (.ok ⟨200, .blank⟩)]
    let t := s.logout.2.run MemoryStore.refuse aftermath
    s.logout.1 = .ok () ∧ s.store.get tokenName = some "old" ∧ t.authenticated = true ∧
      t.token = .empty ∧ t.store.get tokenName = none := by
  intro s t
  have hend : s.logout.1 = .ok () := by decide
  obtain ⟨htoken, hstored, -⟩ := ended_run s hend aftermath (by simp [aftermath])
  exact ⟨hend, by decide, by decide, htoken, hstored⟩

end Session

end AdminConsole
