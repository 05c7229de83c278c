import AdminConsole.Proofs.Session.Run

/-!
# Which token a session has

A token comes from outside, when one is adopted, or from the store, when a step looks for one and
there is none in memory. The token in memory stays until another is adopted or the session ends, and
whatever others write to the store meanwhile makes no difference to the checks that are made.
-/

namespace AdminConsole

variable {σ ε : Type}

/-- The event brings a token of its own, or none, whatever there was. -/
def Event.Renews : Event ε → Prop
  | .adoptToken _ | .logout => True
  | _ => False

variable [TokenStore σ] (act : ε → σ → σ)

namespace Session

theorem loadToken_of_ne {s : Session σ} (h : s.token ≠ .empty) : s.loadToken = s := by
  rcases s.loadToken_cases with hload | ⟨hempty, -⟩
  · exact hload
  · exact absurd (congrArg SessionToken.mk (SessionToken.isEmpty_iff.mp hempty)) h

theorem token_loadToken_of_get {s : Session σ} {token : SessionToken} (hempty : s.token = .empty)
    (hget : TokenStore.get s.store tokenName = some token.text) (hne : token ≠ .empty) :
    s.loadToken.token = token := by
  have htext : token.text ≠ "" := fun h => hne (congrArg SessionToken.mk h)
  have hload : s.loadToken = { s with identity := s.identity.withToken token } := by
    simp [loadToken, hempty, hget, htext, SessionToken.isEmpty, SessionToken.empty]
  rw [hload]
  rfl

theorem stored_of_token_loadToken {s : Session σ} (h : s.loadToken.token ≠ s.token) :
    s.token = .empty ∧ TokenStore.get s.store tokenName = some s.loadToken.token.text ∧
      s.loadToken.token ≠ .empty := by
  have hempty : s.token = .empty := by
    by_contra hne
    exact h (congrArg token (loadToken_of_ne hne))
  exact ⟨hempty, s.token_loadToken.resolve_left h, hempty ▸ h⟩

end Session

namespace Moment

-- ---------------------------------------------------------------------------
-- One step
-- ---------------------------------------------------------------------------

def Loads (m : Moment σ ε) : Prop :=
  match m.event with
  | .loadToken | .beginCheck | .resolve _ => True
  | .revalidate => m.before.phase = .settled ∧ m.before.authenticated = true
  | _ => False

/-- The steps that put a token in the place of the one in memory. -/
inductive Brings : Moment σ ε → SessionToken → Prop
  | adopted {s : Session σ} {token : SessionToken} : Brings ⟨s, .adoptToken token⟩ token
  | ended {s : Session σ} : Brings ⟨s, .logout⟩ .empty
  | stored {m : Moment σ ε} {token : SessionToken} (hload : m.Loads)
    (hempty : m.before.token = .empty)
    (hget : TokenStore.get m.before.store tokenName = some token.text) (hne : token ≠ .empty) :
    Brings m token

def handed? (m : Moment σ ε) : Option SessionToken :=
  match m.event with
  | .loadToken => some m.before.loadToken.token
  | .beginCheck | .resolve _ => some m.before.beginCheck.token
  | .revalidate => m.before.revalidate?.map Session.token
  | _ => none

def moves (m : Moment σ ε) : Bool := (m.after act).token ≠ m.before.token

theorem token_after_of_loads {m : Moment σ ε} (h : m.Loads) :
    (m.after act).token = m.before.loadToken.token := by
  obtain ⟨s, event⟩ := m
  cases event with
  | loadToken | beginCheck => rfl
  | revalidate =>
    have hshown : s.phase = .settled ∧ s.authenticated = true := h
    simp [after, Session.step, Session.revalidate?, hshown]
  | resolve outcome => exact s.beginCheck.token_settle _ outcome
  | _ => exact h.elim

theorem token_after_of_not_loads {m : Moment σ ε} (h : ¬ m.Loads) (hevent : ¬ m.event.Renews) :
    (m.after act).token = m.before.token := by
  obtain ⟨s, event⟩ := m
  cases event with
  | loadToken | beginCheck | resolve outcome => exact absurd trivial h
  | revalidate =>
    have hhidden : ¬ (s.phase = .settled ∧ s.authenticated = true) := h
    simp [after, Session.step, Session.revalidate?, hhidden]
  | adoptToken token | logout => exact absurd trivial hevent
  | settle token outcome => exact s.token_settle token outcome
  | outside action => rfl

theorem Brings.token_after {m : Moment σ ε} {token : SessionToken} (h : m.Brings token) :
    (m.after act).token = token := by
  cases h with
  | adopted => rfl
  | @ended s => exact congrArg Identity.token s.identity_logout
  | stored hload hempty hget hne =>
    rw [token_after_of_loads act hload]
    exact Session.token_loadToken_of_get hempty hget hne

theorem Brings.ne_empty {m : Moment σ ε} {token : SessionToken} (h : m.Brings token)
    (hevent : ¬ m.event.Renews) : token ≠ .empty := by
  cases h with
  | adopted | ended => exact absurd trivial hevent
  | stored hload hempty hget hne => exact hne

theorem brings_of_moves {m : Moment σ ε} (h : (m.after act).token ≠ m.before.token) :
    m.Brings (m.after act).token := by
  by_cases hload : m.Loads
  · rw [token_after_of_loads act hload] at h ⊢
    obtain ⟨hempty, hget, hne⟩ := Session.stored_of_token_loadToken h
    exact .stored hload hempty hget hne
  · obtain ⟨s, event⟩ := m
    cases event with
    | adoptToken token => exact .adopted
    | logout =>
      have htoken : (after act ⟨s, .logout⟩).token = .empty :=
        congrArg Identity.token s.identity_logout
      rw [htoken]
      exact .ended
    | _ => exact absurd (token_after_of_not_loads act hload id) h

theorem token_of_handed {m : Moment σ ε} {token : SessionToken} (h : m.handed? = some token) :
    token = (m.after act).token := by
  obtain ⟨s, event⟩ := m
  cases event with
  | loadToken | beginCheck => exact (Option.some.inj h).symm
  | resolve outcome =>
    rw [← Option.some.inj h]
    exact (s.beginCheck.token_settle _ outcome).symm
  | revalidate =>
    obtain ⟨t, ht, rfl⟩ := Option.map_eq_some_iff.mp h
    simp only [after, Session.step, ht, Option.getD_some]
  | _ => cases h

theorem token_after_of_ne {m : Moment σ ε} (h : m.before.token ≠ .empty)
    (hevent : ¬ m.event.Renews) : (m.after act).token = m.before.token := by
  by_cases hload : m.Loads
  · rw [token_after_of_loads act hload, Session.loadToken_of_ne h]
  · exact token_after_of_not_loads act hload hevent

end Moment

-- ---------------------------------------------------------------------------
-- Runs
-- ---------------------------------------------------------------------------

namespace Session

variable {act} {s : Session σ} {later : List (Event ε)}

theorem token_history_of_ne (h : s.token ≠ .empty) (hlater : ∀ event ∈ later, ¬ event.Renews) :
    ∀ m ∈ s.history act later, m.before.token = s.token ∧ (m.after act).token = s.token := by
  induction later generalizing s with
  | nil => simp [history]
  | cons event later ih =>
    rw [List.forall_mem_cons] at hlater
    have hstep : (s.step act event).token = s.token :=
      Moment.token_after_of_ne act (m := ⟨s, event⟩) h hlater.1
    rw [history, List.forall_mem_cons]
    refine ⟨⟨rfl, hstep⟩, ?_⟩
    have hrest := ih (s := s.step act event) (hstep ▸ h) hlater.2
    rwa [hstep] at hrest

theorem countP_moves_of_ne (h : s.token ≠ .empty) (hlater : ∀ event ∈ later, ¬ event.Renews) :
    (s.history act later).countP (Moment.moves act) = 0 := by
  rw [List.countP_eq_zero]
  intro m hm
  obtain ⟨hbefore, hafter⟩ := token_history_of_ne h hlater m hm
  simp [Moment.moves, hbefore, hafter]

theorem countP_moves_le (hlater : ∀ event ∈ later, ¬ event.Renews) :
    (s.history act later).countP (Moment.moves act) ≤ 1 := by
  induction later generalizing s with
  | nil => simp [history]
  | cons event later ih =>
    rw [List.forall_mem_cons] at hlater
    rw [history, List.countP_cons]
    split
    · rename_i hmoves
      -- The token that was brought is not empty, so it stays.
      have hne : (s.step act event).token ≠ .empty :=
        (Moment.brings_of_moves act (of_decide_eq_true hmoves)).ne_empty hlater.1
      exact Nat.le_of_eq (congrArg (· + 1) (countP_moves_of_ne hne hlater.2))
    · exact ih hlater.2

/-- At every point of a run, whatever others do to the store: the token in memory is replaced by
adopting one, by ending the session, and by loading the stored one where there is none, and by
nothing else. A check is made with the token that is in memory when it has begun. Until a token is
adopted or the session ends, the token is replaced once at most, and once there is one, it stays and
every check is made with it. -/
theorem token_run (store : σ) (events : List (Event ε)) :
    let s := (start store).run act events
    (∀ event, let m : Moment σ ε := ⟨s, event⟩
      (∀ token, m.Brings token → (m.after act).token = token) ∧
      ((m.after act).token ≠ s.token → m.Brings (m.after act).token) ∧
      ∀ token, m.handed? = some token → token = (m.after act).token) ∧
    s.resolve.call? = some ⟨_, .userInfo s.beginCheck.token⟩ ∧
    ∀ later : List (Event ε), (∀ event ∈ later, ¬ event.Renews) →
      (s.history act later).countP (Moment.moves act) ≤ 1 ∧
      (s.token ≠ .empty → ∀ m ∈ s.history act later, (m.after act).token = s.token ∧
        ∀ token, m.handed? = some token → token = s.token) := by
  intro s
  refine ⟨fun event => ⟨fun token => Moment.Brings.token_after act, Moment.brings_of_moves act,
    fun token => Moment.token_of_handed act⟩, rfl, fun later hlater => ⟨countP_moves_le hlater, ?_⟩⟩
  intro hne m hm
  obtain ⟨-, hafter⟩ := token_history_of_ne hne hlater m hm
  exact ⟨hafter, fun token hhanded => (Moment.token_of_handed act hhanded).trans hafter⟩

example :
    let s := (start (MemoryStore.ofToken "first")).run (fun text _ => .ofToken text)
      [.beginCheck, .outside "second", .resolve (.ok ⟨401, .blank⟩)]
    s.token = ⟨"first"⟩ ∧ s.store.get tokenName = some "second" := by
  decide

end Session

end AdminConsole
