import Mathlib.Data.List.Nodup
import AdminConsole.Proofs.Session.Run

/-!
# The order of arrival

Several checks may be under way at once, each with a token of its own. Their outcomes arrive in some
order. At most one of them is for the current token, and none replaces that token, so the order does
not matter.
-/

namespace AdminConsole

/-- A check that is under way: the token it is made with, and the outcome that it will have. -/
structure Check where
  token : SessionToken
  outcome : Except ApiError IdentityCheck
deriving DecidableEq

def Check.event {ε : Type} (c : Check) : Event ε := .settle c.token c.outcome

variable {σ ε : Type} [TokenStore σ] (act : ε → σ → σ)

namespace Session

theorem step_check_of_ne {s : Session σ} {c : Check} (h : c.token ≠ s.token) :
    s.step act c.event = s := step_settle_of_ne act h _

theorem token_step_check (s : Session σ) (c : Check) : (s.step act c.event).token = s.token :=
  s.token_settle _ _

theorem step_check_comm (s : Session σ) {c d : Check} (h : c.token ≠ d.token) :
    (s.step act c.event).step act d.event = (s.step act d.event).step act c.event := by
  by_cases hc : c.token = s.token
  · have hd : d.token ≠ s.token := fun hd => h (hc.trans hd.symm)
    have hlater : d.token ≠ (s.step act c.event).token := by rwa [token_step_check]
    rw [step_check_of_ne act hd, step_check_of_ne act hlater]
  · have hlater : c.token ≠ (s.step act d.event).token := by rwa [token_step_check]
    rw [step_check_of_ne act hc, step_check_of_ne act hlater]

theorem run_checks_perm (s : Session σ) {arrivals checks : List Check}
    (hperm : arrivals.Perm checks) (hdistinct : (checks.map Check.token).Nodup) :
    s.run act (arrivals.map Check.event) = s.run act (checks.map Check.event) := by
  have hnodup : (arrivals.map Check.token).Nodup := (hperm.map _).nodup_iff.mpr hdistinct
  refine (hperm.map Check.event).foldl_eq' ?_ s
  intro x hx y hy t
  obtain ⟨c, hc, rfl⟩ := List.mem_map.mp hx
  obtain ⟨d, hd, rfl⟩ := List.mem_map.mp hy
  by_cases hsame : c.token = d.token
  · rw [List.inj_on_of_nodup_map hnodup hc hd hsame]
  · exact t.step_check_comm act hsame

theorem run_checks_of_ne {s : Session σ} {checks : List Check}
    (h : ∀ c ∈ checks, c.token ≠ s.token) : s.run act (checks.map Check.event) = s := by
  induction checks with
  | nil => rfl
  | cons c checks ih =>
    rw [List.forall_mem_cons] at h
    rw [List.map_cons, run, List.foldl_cons, step_check_of_ne act h.1]
    exact ih h.2

theorem token_run_checks (s : Session σ) (checks : List Check) :
    (s.run act (checks.map Check.event)).token = s.token := by
  induction checks generalizing s with
  | nil => rfl
  | cons c checks ih => exact (ih _).trans (s.token_step_check act c)

end Session

theorem Check.token_ne_of_nodup {earlier later : List Check} {c : Check}
    (h : ((earlier ++ c :: later).map Check.token).Nodup) :
    ∀ d ∈ earlier ++ later, d.token ≠ c.token := by
  have hfront := (List.perm_middle.map Check.token).nodup_iff.mp h
  rw [List.map_cons, List.nodup_cons] at hfront
  exact fun d hd heq => hfront.1 (List.mem_map.mpr ⟨d, hd, heq⟩)

namespace Session

/-- The check with the current token meets the session as it was before any arrived, and those that
come later leave what it has made of the session. -/
theorem run_checks_of_current {s : Session σ} {earlier later : List Check} {c : Check}
    (hdistinct : ((earlier ++ c :: later).map Check.token).Nodup) (hc : c.token = s.token) :
    s.run act (earlier.map Check.event) = s ∧
      s.run act ((earlier ++ c :: later).map Check.event) = s.apply c.outcome := by
  have hne := Check.token_ne_of_nodup hdistinct
  rw [hc] at hne
  have hearlier : s.run act (earlier.map Check.event) = s :=
    run_checks_of_ne act fun d hd => hne d (List.mem_append_left _ hd)
  refine ⟨hearlier, ?_⟩
  have hstep : s.step act c.event = s.apply c.outcome := by
    rw [Check.event, hc]
    rfl
  have htoken : (s.apply c.outcome).token = s.token := s.token_settle _ _
  have hlater : (s.apply c.outcome).run act (later.map Check.event) = s.apply c.outcome :=
    run_checks_of_ne act fun d hd => htoken ▸ hne d (List.mem_append_right _ hd)
  calc s.run act ((earlier ++ c :: later).map Check.event)
      = ((s.run act (earlier.map Check.event)).step act c.event).run act
          (later.map Check.event) := by simp [run]
    _ = s.apply c.outcome := by rw [hearlier, hstep, hlater]

/-- Outcomes of checks with different tokens leave the same session in whatever order they arrive.
The one for the current token is applied to the session as it was, and decides what it is at the
end; without one the session stays as it was. Every other is reported as stale on arrival and
changes nothing. -/
theorem run_arrivals (s : Session σ) {arrivals checks : List Check} (hperm : arrivals.Perm checks)
    (hdistinct : (checks.map Check.token).Nodup) :
    s.run act (arrivals.map Check.event) = s.run act (checks.map Check.event) ∧
      ((∀ c ∈ checks, c.token ≠ s.token) → s.run act (arrivals.map Check.event) = s) ∧
      ∀ earlier c later, arrivals = earlier ++ c :: later →
        let t := s.run act (earlier.map Check.event)
        (c.token ≠ s.token → t.settle c.token c.outcome = (.ok false, t)) ∧
          (c.token = s.token → t = s ∧
            s.Applied c.outcome (t.settle c.token c.outcome).1 (t.settle c.token c.outcome).2 ∧
            s.run act (arrivals.map Check.event) = (t.settle c.token c.outcome).2) := by
  refine ⟨s.run_checks_perm act hperm hdistinct, fun hne => ?_, ?_⟩
  · exact run_checks_of_ne act fun c hc => hne c (hperm.mem_iff.mp hc)
  · rintro earlier c later rfl t
    refine ⟨fun hne => settle_of_ne ?_ _, fun hc => ?_⟩
    · rwa [s.token_run_checks act earlier]
    · have hnodup := (hperm.map Check.token).nodup_iff.mpr hdistinct
      obtain ⟨hbefore, hafter⟩ := run_checks_of_current act hnodup hc
      have ht : t = s := hbefore
      rw [ht, hc]
      exact ⟨rfl, s.applied_apply c.outcome, hafter⟩

/-- A session whose token was replaced while an earlier one was being checked, over a store that
refuses to be written. -/
def replaced : Session MemoryStore :=
  ⟨⟨[], 0, some (.unavailable "full")⟩, Identity.anonymous.withToken ⟨"new"⟩, false, .resolving⟩

def underway : List Check :=
  [⟨.empty, .error (.transport "")⟩, ⟨⟨"old"⟩, .ok ⟨200, ⟨"alice", "admin", "local"⟩⟩⟩,
    ⟨⟨"new"⟩, .ok ⟨200, ⟨"bob", "user", "local"⟩⟩⟩]

theorem run_underway_reverse :
    let s := replaced.run MemoryStore.refuse (underway.reverse.map Check.event)
    s = replaced.run MemoryStore.refuse (underway.map Check.event) ∧ s.identity.login = "bob" ∧
      s.phase = .failed "token store unavailable: full" ∧ s.store = replaced.store := by
  intro s
  have hdistinct : (underway.map Check.token).Nodup := by decide
  obtain ⟨hsame, -, -⟩ :=
    run_arrivals MemoryStore.refuse replaced (List.reverse_perm underway) hdistinct
  exact ⟨hsame, by decide, by decide, by decide⟩

end Session

end AdminConsole
