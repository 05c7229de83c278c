import AdminConsole.Proofs.Session.Run

/-!
# What is on screen

Some steps of a run speak a verdict on the session: those that start a check, replace the token, end
the session or apply an outcome. The branch of a session is that of the last verdict, whatever else
has happened since.
-/

namespace AdminConsole

inductive Verdict where
  | pending
  | accepted
  | unstored (e : StoreError)
  | failed (e : ApiError)
  | broken (status : Nat)
  | refused
deriving DecidableEq, Repr

variable {σ ε : Type}

namespace Verdict

/-- What a verdict puts on screen. Only a refusal lets the route decide. -/
def branch (route : Route) : Verdict → Branch
  | pending => .resolving
  | accepted => .authenticated
  | unstored (.unavailable details) => .error ("token store unavailable: " ++ details)
  | unstored (.writeFailed name details) => .error ("failed to write '" ++ name ++ "': " ++ details)
  | failed (.transport details) => .error ("request failed: " ++ details)
  | failed (.body details) => .error ("invalid response body: " ++ details)
  | failed (.status code _) => .error ("Request failed with status code " ++ toString code)
  | broken status => .error ("Request failed with status code " ++ toString status)
  | refused =>
    match route with
    | .callback method id => .callbackHandoff method id
    | .login method id => .redirectHandoff method id
    | .normal => .unauthenticated

theorem branch_unstored (e : StoreError) (route : Route) :
    (unstored e).branch route = .error e.message := by
  cases e with
  | unavailable details => rw [StoreError.message_unavailable, branch]
  | writeFailed name details => rw [StoreError.message_writeFailed, branch]

theorem branch_failed (e : ApiError) (route : Route) :
    (failed e).branch route = .error e.message := by
  cases e with
  | transport details => rw [ApiError.message_transport, branch]
  | body details => rw [ApiError.message_body, branch]
  | status code body => rw [ApiError.message_status, branch]

/-- What phase and flag are after a verdict. While nothing is known the flag may be of before. -/
def Holds (s : Session σ) : Verdict → Prop
  | pending => s.phase = .resolving
  | accepted => s.phase = .settled ∧ s.authenticated = true
  | unstored e => s.phase = .failed e.message ∧ s.authenticated = false
  | failed e => s.phase = .failed e.message ∧ s.authenticated = false
  | broken status =>
    s.phase = .failed ("Request failed with status code " ++ toString status) ∧
      s.authenticated = false
  | refused => s.phase = .settled ∧ s.authenticated = false

theorem Holds.branch {s : Session σ} {v : Verdict} (h : v.Holds s) (route : Route) :
    s.branch route = v.branch route := by
  cases v with
  | pending =>
    have hphase : s.phase = .resolving := h
    simp [Session.branch, Branch.of, Verdict.branch, hphase]
  | unstored e =>
    rw [branch_unstored]
    simp [Session.branch, Branch.of, h.1]
  | failed e =>
    rw [branch_failed]
    simp [Session.branch, Branch.of, h.1]
  | broken status => simp [Session.branch, Branch.of, Verdict.branch, h.1]
  | accepted | refused =>
    obtain ⟨hphase, hflag⟩ := h
    cases route <;> simp [Session.branch, Branch.of, Verdict.branch, hphase, hflag]

theorem Holds.congr {s t : Session σ} {v : Verdict} (h : v.Holds s) (hphase : t.phase = s.phase)
    (hflag : t.authenticated = s.authenticated) : v.Holds t := by
  cases v <;> simpa only [Holds, hphase, hflag] using h

theorem Holds.not_authenticated {s : Session σ} {v : Verdict} {message : String} (h : v.Holds s)
    (hphase : s.phase = .failed message) : s.authenticated = false := by
  cases v with
  | pending => exact absurd (h.symm.trans hphase) nofun
  | accepted => exact absurd (h.1.symm.trans hphase) nofun
  | _ => exact h.2

end Verdict

variable [TokenStore σ] (act : ε → σ → σ)

/-- Why the store will not take the token of a session that is about to become authenticated. -/
def Session.persistFailure? (s : Session σ) : Option StoreError :=
  if s.authenticated then none
  else
    match TokenStore.set s.store tokenName s.token.text with
    | .error e => some e
    | .ok _ => none

def Verdict.of (s : Session σ) : Except ApiError IdentityCheck → Verdict
  | .error e => failed e
  | .ok check =>
    if check.status = 200 then
      match s.persistFailure? with
      | some e => unstored e
      | none => accepted
    else if 500 ≤ check.status then broken check.status
    else refused

theorem Session.Applied.verdict {s t : Session σ} {outcome : Except ApiError IdentityCheck}
    {result : Except SessionError Bool} (h : s.Applied outcome result t) :
    (Verdict.of s outcome).Holds t := by
  cases h with
  | failed e => exact ⟨rfl, rfl⟩
  | confirmed hok ha =>
    have hstatus := of_decide_eq_true hok
    simp only [Verdict.of, hstatus, Session.persistFailure?, ha, if_true]
    exact ⟨rfl, rfl⟩
  | admitted hok ha hset =>
    have hstatus := of_decide_eq_true hok
    simp only [Verdict.of, hstatus, Session.persistFailure?, ha, hset, if_true]
    exact ⟨rfl, rfl⟩
  | unstored hok ha hset =>
    have hstatus := of_decide_eq_true hok
    simp only [Verdict.of, hstatus, Session.persistFailure?, ha, hset, if_true]
    exact ⟨rfl, rfl⟩
  | broken hok hs =>
    have hstatus := of_decide_eq_false hok
    have hserver := of_decide_eq_true hs
    simp only [Verdict.of, hstatus, hserver, if_true, if_false]
    exact ⟨rfl, rfl⟩
  | refused hok hs =>
    have hstatus := of_decide_eq_false hok
    have hserver := of_decide_eq_false hs
    simp only [Verdict.of, hstatus, hserver, if_false]
    exact ⟨rfl, rfl⟩

namespace Moment

/-- The verdict that a step speaks, if any. Ending a session speaks one though its store refuses. -/
def verdict? (m : Moment σ ε) : Option Verdict :=
  match m.event with
  | .beginCheck | .adoptToken _ | .logout => some .pending
  | _ => m.applied?.map fun (s, outcome) => .of s outcome

theorem Quiet.verdict? {m : Moment σ ε} (h : m.Quiet) : m.verdict? = none := by
  have happ := h.applied?
  obtain ⟨s, event⟩ := m
  cases event with
  | beginCheck | adoptToken | logout => exact h.elim
  | _ => simp [Moment.verdict?, happ]

theorem verdict_of_applied {m : Moment σ ε} {s : Session σ}
    {outcome : Except ApiError IdentityCheck} (h : m.applied? = some (s, outcome)) :
    m.verdict? = some (.of s outcome) := by
  rcases applied_cases h with rfl | ⟨before, rfl, rfl⟩ <;> simp [verdict?, h]

theorem Effect.holds {m : Moment σ ε} {t : Session σ} {v : Verdict} (heff : Effect act m t)
    (h : v.Holds m.before) : (m.verdict?.getD v).Holds t := by
  cases heff with
  | idle hq =>
    rw [hq.verdict?]
    exact h
  | loaded hq =>
    rw [hq.verdict?]
    exact h.congr (Session.phase_loadToken _) (Session.authenticated_loadToken _)
  | begun => exact Session.phase_beginCheck _
  | adopted => exact rfl
  | ended => exact Session.phase_logout _
  | moved => exact h.congr rfl rfl
  | applied happ hend =>
    rw [verdict_of_applied happ]
    exact hend.verdict

end Moment

namespace Session

def lastVerdict (history : List (Moment σ ε)) : Verdict :=
  (latest Moment.verdict? history).getD .pending

theorem holds_run (store : σ) (events : List (Event ε)) :
    (lastVerdict ((start store).history act events)).Holds ((start store).run act events) := by
  refine run_induction act (P := fun past s => (lastVerdict past).Holds s) store rfl ?_ events
  intro past m ih
  rw [lastVerdict, latest_concat, Option.getD_or]
  exact (m.effect_after act).holds act ih

/-- The branch of a session is that of the last verdict of its run. A step that speaks none leaves
the branch alone, a check behind the application starts exactly while the application is shown, and
a failed session is never authenticated. -/
theorem branch_run (store : σ) (events : List (Event ε)) :
    let s := (start store).run act events
    (∀ route, s.branch route = (lastVerdict ((start store).history act events)).branch route) ∧
      (∀ event, Moment.verdict? ⟨s, event⟩ = none →
        ∀ route, (s.step act event).branch route = s.branch route) ∧
      (∀ route, s.revalidate?.isSome = true ↔ s.branch route = .authenticated) ∧
      ∀ message, s.phase = .failed message → s.authenticated = false := by
  intro s
  have hs : (lastVerdict ((start store).history act events)).Holds s := holds_run act store events
  refine ⟨fun route => hs.branch route, ?_, ?_, fun message h => hs.not_authenticated h⟩
  · intro event hnone route
    have hnext := (Moment.effect_after act ⟨s, event⟩).holds act hs
    rw [hnone] at hnext
    exact (hnext.branch route).trans (hs.branch route).symm
  · intro route
    rw [isSome_revalidate?, branch_eq_authenticated_iff]

end Session

end AdminConsole
