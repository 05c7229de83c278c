import Mathlib.Data.List.Induction
import AdminConsole.Proofs.Session.Laws

/-!
# Runs of a session

A run is a list of events: the operations of a session in any order, and what somebody else does to
its store in between. The history of a run pairs each event with the session that it met. Whatever
is said of the past, such as which outcomes were applied, is read off the history.
-/

namespace AdminConsole

-- ---------------------------------------------------------------------------
-- The past of a run
-- ---------------------------------------------------------------------------

/-- What `f` says of the last element that it says anything of. -/
def latest {α β : Type} (f : α → Option β) (past : List α) : Option β :=
  past.reverse.findSome? f

section
variable {α β : Type} {f : α → Option β} {past : List α}

theorem latest_concat {a : α} : latest f (past ++ [a]) = (f a).or (latest f past) := by
  cases h : f a <;> simp [latest, h]

theorem latest_eq_none_iff : latest f past = none ↔ ∀ a ∈ past, f a = none := by
  simp [latest, List.findSome?_eq_none_iff]

theorem latest_eq_some_iff {b : β} :
    latest f past = some b ↔
      ∃ earlier a later, past = earlier ++ a :: later ∧ f a = some b ∧ ∀ x ∈ later, f x = none := by
  rw [latest, List.findSome?_eq_some_iff]
  constructor
  · rintro ⟨later, a, earlier, hsplit, ha, hnone⟩
    refine ⟨earlier.reverse, a, later.reverse, ?_, ha, by simpa using hnone⟩
    simpa using congrArg List.reverse hsplit
  · rintro ⟨earlier, a, later, rfl, ha, hnone⟩
    exact ⟨later.reverse, a, earlier.reverse, by simp, ha, by simpa using hnone⟩

end

-- ---------------------------------------------------------------------------
-- Events
-- ---------------------------------------------------------------------------

/-- What can happen to a session. Others act on its store by the actions of type `ε`. -/
inductive Event (ε : Type) where
  | loadToken
  | beginCheck
  | revalidate
  | adoptToken (token : SessionToken)
  | logout
  | settle (token : SessionToken) (outcome : Except ApiError IdentityCheck)
  | resolve (outcome : Except ApiError IdentityCheck)
  | outside (action : ε)
deriving DecidableEq

/-- A step of a run: an event, and the session that it met. -/
structure Moment (σ ε : Type) where
  before : Session σ
  event : Event ε
deriving DecidableEq

variable {σ ε : Type}

/-- The step takes at most the stored token into memory. -/
def Moment.Quiet (m : Moment σ ε) : Prop :=
  match m.event with
  | .loadToken | .revalidate => True
  | .settle token _ => token ≠ m.before.token
  | _ => False

variable [TokenStore σ] (act : ε → σ → σ)

-- ---------------------------------------------------------------------------
-- Runs and their histories
-- ---------------------------------------------------------------------------

namespace Session

/-- Answers for a whole check, which asks who the visitor is and nothing else. -/
def checkAnswers (outcome : Except ApiError IdentityCheck) : Answers
  | _, .userInfo _ => outcome
  | _, _ => .error (.transport "")

def step (s : Session σ) : Event ε → Session σ
  | .loadToken => s.loadToken
  | .beginCheck => s.beginCheck
  | .revalidate => s.revalidate?.getD s
  | .adoptToken token => s.adoptToken token
  | .logout => s.logout.2
  | .settle token outcome => (s.settle token outcome).2
  | .resolve outcome => (s.resolve.run (checkAnswers outcome)).2
  | .outside action => { s with store := act action s.store }

def run (s : Session σ) (events : List (Event ε)) : Session σ := events.foldl (step act) s

def history (s : Session σ) : List (Event ε) → List (Moment σ ε)
  | [] => []
  | event :: events => ⟨s, event⟩ :: history (s.step act event) events

theorem run_concat (s : Session σ) (events : List (Event ε)) (event : Event ε) :
    s.run act (events ++ [event]) = (s.run act events).step act event := by
  simp [run]

theorem history_concat (s : Session σ) (events : List (Event ε)) (event : Event ε) :
    s.history act (events ++ [event]) = s.history act events ++ [⟨s.run act events, event⟩] := by
  induction events generalizing s with
  | nil => rfl
  | cons head tail ih => simp [history, run, ih]

theorem step_resolve (s : Session σ) (outcome : Except ApiError IdentityCheck) :
    s.step act (.resolve outcome) = s.beginCheck.apply outcome := rfl

theorem step_settle_of_ne {s : Session σ} {token : SessionToken} (h : token ≠ s.token)
    (outcome : Except ApiError IdentityCheck) : s.step act (.settle token outcome) = s := by
  simp [step, settle_of_ne h]

end Session

-- ---------------------------------------------------------------------------
-- What a step does
-- ---------------------------------------------------------------------------

namespace Moment

def after (m : Moment σ ε) : Session σ := m.before.step act m.event

/-- The outcome that a step applies, and the session that it is applied to. A stale outcome is not
applied, and a whole check starts with a check of its own. -/
def applied? (m : Moment σ ε) : Option (Session σ × Except ApiError IdentityCheck) :=
  match m.event with
  | .settle token outcome => if token = m.before.token then some (m.before, outcome) else none
  | .resolve outcome => some (m.before.beginCheck, outcome)
  | _ => none

theorem Quiet.applied? {m : Moment σ ε} (h : m.Quiet) : m.applied? = none := by
  obtain ⟨s, event⟩ := m
  cases event with
  | loadToken | revalidate => rfl
  | settle token outcome => exact if_neg h
  | _ => exact h.elim

theorem applied_cases {m : Moment σ ε} {s : Session σ} {outcome : Except ApiError IdentityCheck}
    (h : m.applied? = some (s, outcome)) :
    m = ⟨s, .settle s.token outcome⟩ ∨
      ∃ before, m = ⟨before, .resolve outcome⟩ ∧ s = before.beginCheck := by
  obtain ⟨before, event⟩ := m
  cases event with
  | settle token outcome' =>
    simp only [applied?, Option.ite_none_right_eq_some, Option.some.injEq, Prod.mk.injEq] at h
    obtain ⟨rfl, rfl, rfl⟩ := h
    exact .inl rfl
  | resolve outcome' =>
    simp only [applied?, Option.some.injEq, Prod.mk.injEq] at h
    obtain ⟨rfl, rfl⟩ := h
    exact .inr ⟨before, rfl, rfl⟩
  | _ => cases h

theorem before_of_applied {m : Moment σ ε} {s : Session σ}
    {outcome : Except ApiError IdentityCheck} (h : m.applied? = some (s, outcome)) :
    s = m.before ∨ s = m.before.beginCheck := by
  rcases applied_cases h with rfl | ⟨before, rfl, rfl⟩
  · exact .inl rfl
  · exact .inr rfl

theorem authenticated_of_applied {m : Moment σ ε} {s : Session σ}
    {outcome : Except ApiError IdentityCheck} (h : m.applied? = some (s, outcome)) :
    s.authenticated = m.before.authenticated := by
  rcases before_of_applied h with rfl | rfl
  · rfl
  · exact Session.authenticated_beginCheck _

theorem store_of_applied {m : Moment σ ε} {s : Session σ}
    {outcome : Except ApiError IdentityCheck} (h : m.applied? = some (s, outcome)) :
    s.store = m.before.store := by
  rcases before_of_applied h with rfl | rfl
  · rfl
  · exact Session.store_beginCheck _

theorem profile_of_applied {m : Moment σ ε} {s : Session σ}
    {outcome : Except ApiError IdentityCheck} (h : m.applied? = some (s, outcome)) :
    s.profile = m.before.profile := by
  rcases before_of_applied h with rfl | rfl
  · rfl
  · exact Session.profile_beginCheck _

theorem after_of_applied {m : Moment σ ε} {s : Session σ}
    {outcome : Except ApiError IdentityCheck} (h : m.applied? = some (s, outcome)) :
    m.after act = s.apply outcome := by
  rcases applied_cases h with rfl | ⟨before, rfl, rfl⟩
  · rfl
  · exact before.step_resolve act outcome

inductive Effect : Moment σ ε → Session σ → Prop
  | idle {m : Moment σ ε} (hq : m.Quiet) : Effect m m.before
  | loaded {m : Moment σ ε} (hq : m.Quiet) : Effect m m.before.loadToken
  | begun {s : Session σ} : Effect ⟨s, .beginCheck⟩ s.beginCheck
  | adopted {s : Session σ} {token : SessionToken} :
    Effect ⟨s, .adoptToken token⟩ (s.adoptToken token)
  | ended {s : Session σ} : Effect ⟨s, .logout⟩ s.logout.2
  | moved {s : Session σ} {action : ε} :
    Effect ⟨s, .outside action⟩ { s with store := act action s.store }
  | applied {m : Moment σ ε} {s t : Session σ} {outcome : Except ApiError IdentityCheck}
    {result : Except SessionError Bool} (h : m.applied? = some (s, outcome))
    (hend : s.Applied outcome result t) : Effect m t

theorem effect_after (m : Moment σ ε) : Effect act m (m.after act) := by
  cases happ : m.applied? with
  | some pair =>
    rw [after_of_applied act happ]
    exact .applied happ (pair.1.applied_apply pair.2)
  | none =>
    obtain ⟨s, event⟩ := m
    cases event with
    | loadToken => exact .loaded trivial
    | beginCheck => exact .begun
    | revalidate =>
      simp only [after, Session.step, Session.revalidate?]
      split
      · exact .loaded trivial
      · exact .idle trivial
    | adoptToken token => exact .adopted
    | logout => exact .ended
    | settle token outcome =>
      have hne : token ≠ s.token := by
        intro heq
        simp [applied?, heq] at happ
      simp only [after, Session.step_settle_of_ne act hne]
      exact .idle hne
    | resolve outcome => cases happ
    | outside action => exact .moved

end Moment

namespace Session

/-- What holds at the start and is kept by every step holds of every run and its history. -/
theorem run_induction {P : List (Moment σ ε) → Session σ → Prop} (store : σ)
    (hstart : P [] (start store))
    (hstep : ∀ past m, P past m.before → P (past ++ [m]) (m.after act)) (events : List (Event ε)) :
    P ((start store).history act events) ((start store).run act events) := by
  induction events using List.reverseRecOn with
  | nil => exact hstart
  | append_singleton events event ih =>
    rw [run_concat, history_concat]
    exact hstep _ ⟨_, event⟩ ih

theorem run_eq_of_unchanged {γ : Type} (f : Session σ → γ) (store : σ) (events : List (Event ε)) :
    ∀ earlier m later, (start store).history act events = earlier ++ m :: later →
      (∀ x ∈ later, f (x.after act) = f x.before) →
      f ((start store).run act events) = f (m.after act) := by
  refine run_induction act (P := fun past s => ∀ earlier m later, past = earlier ++ m :: later →
    (∀ x ∈ later, f (x.after act) = f x.before) → f s = f (m.after act)) store ?_ ?_ events
  · intro earlier m later hsplit
    simp at hsplit
  · intro past last ih earlier m later hsplit hkeep
    cases later using List.reverseRecOn with
    | nil =>
      obtain ⟨-, hlast⟩ := List.append_inj' hsplit rfl
      rw [List.singleton_inj.mp hlast]
    | append_singleton later x =>
      rw [← List.cons_append, ← List.append_assoc] at hsplit
      obtain ⟨hpast, hlast⟩ := List.append_inj' hsplit rfl
      obtain rfl := List.singleton_inj.mp hlast
      have hbefore := ih earlier m later hpast fun y hy => hkeep y (by simp [hy])
      exact (hkeep last (by simp)).trans hbefore

end Session

-- ---------------------------------------------------------------------------
-- Stores in memory
-- ---------------------------------------------------------------------------

def MemoryStore.refuse (refusal : Option StoreError) (s : MemoryStore) : MemoryStore :=
  { s with refusal := refusal }

theorem MemoryStore.get_refuse (refusal : Option StoreError) (store : MemoryStore) :
    TokenStore.get (store.refuse refusal) tokenName = TokenStore.get store tokenName := rfl

abbrev MemoryEvent := Event (Option StoreError)

abbrev MemoryMoment := Moment MemoryStore (Option StoreError)

namespace Session

/-- A run over a store in memory. Nobody else writes to it, but it may start and stop to refuse
writes at any time. -/
abbrev runMemory (store : MemoryStore) (events : List MemoryEvent) : Session MemoryStore :=
  (start store).run MemoryStore.refuse events

abbrev historyMemory (store : MemoryStore) (events : List MemoryEvent) : List MemoryMoment :=
  (start store).history MemoryStore.refuse events

end Session

end AdminConsole
