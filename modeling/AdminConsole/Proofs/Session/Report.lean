import AdminConsole.Proofs.Session.Run

/-!
# Who a session says its visitor is

Login, role and user type of a session are those of the last answer with a login, whatever its
status. Replacing the token keeps them, and so does an answer without a login, so that they may have
been reported for another token than the current one. Ending the session makes its visitor nobody.
-/

namespace AdminConsole

def Profile.ofReport : Option (SessionToken × UserInfo) → Profile
  | none => .blank
  | some (_, info) => info.profile

variable {σ ε : Type} [TokenStore σ] (act : ε → σ → σ)

namespace Moment

def answer? (m : Moment σ ε) : Option (SessionToken × UserInfo) :=
  match m.applied? with
  | some (s, .ok check) => some (s.token, check.info)
  | _ => none

def report? (m : Moment σ ε) : Option (SessionToken × UserInfo) :=
  m.answer?.filter fun (_, info) => !info.login.isEmpty

/-- What a step settles about the visitor, if anything: who it is, or that nobody is known. -/
def told? (m : Moment σ ε) : Option (Option (SessionToken × UserInfo)) :=
  match m.event with
  | .logout => some none
  | _ => m.report?.map some

theorem told_of_applied {m : Moment σ ε} {s : Session σ} {outcome : Except ApiError IdentityCheck}
    (h : m.applied? = some (s, outcome)) : m.told? = m.report?.map some := by
  rcases applied_cases h with rfl | ⟨before, rfl, rfl⟩
  · rfl
  · rfl

theorem Quiet.told? {m : Moment σ ε} (h : m.Quiet) : m.told? = none := by
  have happ := h.applied?
  obtain ⟨s, event⟩ := m
  cases event with
  | logout => exact h.elim
  | _ => simp [Moment.told?, report?, answer?, happ]

theorem told_eq_none_iff {m : Moment σ ε} :
    m.told? = none ↔ m.event ≠ .logout ∧ m.report? = none := by
  obtain ⟨before, event⟩ := m
  cases event <;> simp [told?]

theorem report_of_told {m : Moment σ ε} {report : SessionToken × UserInfo}
    (h : m.told? = some (some report)) : m.report? = some report := by
  obtain ⟨before, event⟩ := m
  cases event with
  | logout => cases h
  | _ => simpa [told?] using h

theorem Effect.profile {m : Moment σ ε} {t : Session σ} (heff : Effect act m t) :
    t.profile = m.told?.elim m.before.profile Profile.ofReport := by
  cases heff with
  | idle hq =>
    rw [hq.told?]
    rfl
  | loaded hq =>
    rw [hq.told?]
    exact Session.profile_loadToken _
  | begun => exact Session.profile_beginCheck _
  | adopted | moved => rfl
  | ended =>
    exact (congrArg Identity.profile (Session.identity_logout _)).trans Identity.profile_anonymous
  | @applied _ s _ outcome _ happ hend =>
    rw [told_of_applied happ, ← profile_of_applied happ]
    cases outcome with
    | error e => simp [report?, answer?, happ, hend.profile_error]
    | ok check =>
      rw [hend.profile_ok]
      cases hlogin : check.info.login.isEmpty <;>
        simp [report?, answer?, happ, Option.filter_some, hlogin, Profile.ofReport]

theorem token_of_report {m : Moment σ ε} {token : SessionToken} {info : UserInfo}
    (h : m.report? = some (token, info)) : (m.after act).token = token := by
  cases happ : m.applied? with
  | none => simp [report?, answer?, happ] at h
  | some pair =>
    obtain ⟨s, outcome⟩ := pair
    rw [after_of_applied act happ, (s.applied_apply outcome).token]
    cases outcome with
    | error e => simp [report?, answer?, happ] at h
    | ok check =>
      simp only [report?, answer?, happ, Option.filter_eq_some_iff, Option.some.injEq,
        Prod.mk.injEq] at h
      exact h.1.1

end Moment

/-- The last report of a history was `info` for `token`, and the steps `later` came after it. None
of them ended the session. -/
def LastReport (past later : List (Moment σ ε)) (token : SessionToken) (info : UserInfo) : Prop :=
  ∃ earlier m, past = earlier ++ m :: later ∧ m.report? = some (token, info) ∧
    ∀ x ∈ later, x.event ≠ .logout ∧ x.report? = none

namespace Session

def lastTold (past : List (Moment σ ε)) : Option (SessionToken × UserInfo) :=
  (latest Moment.told? past).getD none

theorem lastReport_of_lastTold {past : List (Moment σ ε)} {token : SessionToken} {info : UserInfo}
    (h : lastTold past = some (token, info)) : ∃ later, LastReport past later token info := by
  have hlast : latest Moment.told? past = some (some (token, info)) := by
    cases hlast : latest Moment.told? past with
    | none => simp [lastTold, hlast] at h
    | some told => simpa [lastTold, hlast] using h
  obtain ⟨earlier, m, later, hsplit, htold, hnone⟩ := latest_eq_some_iff.mp hlast
  exact ⟨later, earlier, m, hsplit, Moment.report_of_told htold,
    fun x hx => Moment.told_eq_none_iff.mp (hnone x hx)⟩

theorem profile_eq_ofReport (store : σ) (events : List (Event ε)) :
    ((start store).run act events).profile =
      .ofReport (lastTold ((start store).history act events)) := by
  refine run_induction act (P := fun past s => s.profile = .ofReport (lastTold past)) store rfl ?_
    events
  intro past m ih
  rw [(m.effect_after act).profile act, ih, lastTold, lastTold, latest_concat]
  cases m.told? <;> rfl

/-- The token of the last report is still the current one, unless a step has replaced it. -/
theorem token_of_lastReport {store : σ} {events : List (Event ε)} {later : List (Moment σ ε)}
    {token : SessionToken} {info : UserInfo}
    (h : LastReport ((start store).history act events) later token info) :
    token = ((start store).run act events).token ∨
      ∃ x ∈ later, (x.after act).token ≠ x.before.token := by
  obtain ⟨earlier, m, hsplit, hreport, -⟩ := h
  by_cases hchange : ∃ x ∈ later, (x.after act).token ≠ x.before.token
  · exact .inr hchange
  · have hkeep : ∀ x ∈ later, (x.after act).token = x.before.token := by
      intro x hx
      by_contra hne
      exact hchange ⟨x, hx, hne⟩
    have hsame := run_eq_of_unchanged act Session.token store events earlier m later hsplit hkeep
    exact .inl (hsame.trans (Moment.token_of_report act hreport)).symm

/-- Either nothing is known of the visitor, or login, role and user type are those of one report:
the last one, since when no session was ended. The report was made for the current token, unless a
step has replaced that token since. The visitor passes the gate for the reported role only. -/
theorem profile_run (store : σ) (events : List (Event ε)) :
    let s := (start store).run act events
    (s.profile = .blank ∧
        ∀ required, Role.check required s.identity.role = .ok () ↔ required = .anonymous) ∨
      ∃ later token info, LastReport ((start store).history act events) later token info ∧
        s.profile = info.profile ∧
        (token = s.token ∨ ∃ x ∈ later, (x.after act).token ≠ x.before.token) ∧
        ∀ required, Role.check required s.identity.role = .ok () ↔ required = ⟨info.role⟩ := by
  intro s
  have hprofile : s.profile = .ofReport (lastTold ((start store).history act events)) :=
    profile_eq_ofReport act store events
  cases hlast : lastTold ((start store).history act events) with
  | none =>
    rw [hlast] at hprofile
    exact .inl ⟨hprofile, check_role_iff hprofile⟩
  | some report =>
    obtain ⟨token, info⟩ := report
    rw [hlast] at hprofile
    obtain ⟨later, hreport⟩ := lastReport_of_lastTold hlast
    exact .inr ⟨later, token, info, hreport, hprofile, token_of_lastReport act hreport,
      check_role_iff hprofile⟩

/-- A refused token comes with a report, and the accepted one that replaces it with none. -/
def carryOver : List MemoryEvent :=
  [.adoptToken ⟨"old"⟩, .settle ⟨"old"⟩ (.ok ⟨401, ⟨"alice", "admin", "local"⟩⟩),
    .adoptToken ⟨"new"⟩, .settle ⟨"new"⟩ (.ok ⟨200, .blank⟩)]

/-- So an authenticated session may pass a gate on a role that was never reported for its token. -/
theorem not_forall_reported :
    (¬ ∀ (store : MemoryStore) (events : List MemoryEvent) (route : Route),
      (runMemory store events).branch route = .authenticated →
      (runMemory store events).profile = .blank ∨
        ∃ info, ((runMemory store events).token, info) ∈
            (historyMemory store events).filterMap Moment.answer? ∧
          (runMemory store events).profile = info.profile) ∧
    ¬ ∀ (store : MemoryStore) (events : List MemoryEvent) (route : Route)
      (required : Role), (runMemory store events).branch route = .authenticated →
      required.isAnonymous = false →
      Role.check required (runMemory store events).identity.role = .ok () →
        ∃ info, ((runMemory store events).token, info) ∈
            (historyMemory store events).filterMap Moment.answer? ∧ required.name = info.role := by
  have hanswers : (historyMemory .empty carryOver).filterMap Moment.answer? =
      [(⟨"old"⟩, ⟨"alice", "admin", "local"⟩), (⟨"new"⟩, .blank)] := by decide
  have htoken : (runMemory .empty carryOver).token = ⟨"new"⟩ := by decide
  have hblank : ∀ info, ((runMemory .empty carryOver).token, info) ∈
      (historyMemory .empty carryOver).filterMap Moment.answer? → info = .blank := by
    intro info hmem
    rw [hanswers, htoken] at hmem
    simpa using hmem
  refine ⟨fun h => ?_, fun h => ?_⟩
  · rcases h .empty carryOver .normal (by decide) with hprofile | ⟨info, hmem, hprofile⟩
    · exact absurd hprofile (by decide)
    · rw [hblank info hmem] at hprofile
      exact absurd hprofile (by decide)
  · obtain ⟨info, hmem, hrole⟩ := h .empty carryOver .normal .admin (by decide) rfl (by decide)
    rw [hblank info hmem] at hrole
    exact absurd hrole (by decide)

end Session

-- ---------------------------------------------------------------------------
-- Whole answers
-- ---------------------------------------------------------------------------

def Unreported (past : List (Moment σ ε)) : Prop :=
  ∃ earlier recent, past = earlier ++ recent ∧
    (earlier = [] ∨ ∃ m, earlier.getLast? = some m ∧ m.event = .logout) ∧
    ∀ x ∈ recent, x.report? = none

theorem Unreported.concat {past : List (Moment σ ε)} {m : Moment σ ε} (h : Unreported past)
    (hreport : m.report? = none) : Unreported (past ++ [m]) := by
  obtain ⟨earlier, recent, rfl, hend, hrecent⟩ := h
  refine ⟨earlier, recent ++ [m], List.append_assoc _ _ _, hend, fun x hx => ?_⟩
  rcases List.mem_append.mp hx with hx | hx
  · exact hrecent x hx
  · rwa [List.mem_singleton.mp hx]

namespace Moment

theorem report_eq_some_iff {m : Moment σ ε} {token : SessionToken} {info : UserInfo} :
    m.report? = some (token, info) ↔
      ∃ s check, m.applied? = some (s, .ok check) ∧ s.token = token ∧ check.info = info ∧
        info.login ≠ "" := by
  rw [report?, answer?, Option.filter_eq_some_iff]
  constructor
  · rintro ⟨hanswer, hlogin⟩
    split at hanswer
    · rename_i s check happ
      cases hanswer
      exact ⟨s, check, happ, rfl, rfl, by simpa using hlogin⟩
    · cases hanswer
  · rintro ⟨s, check, happ, rfl, rfl, hlogin⟩
    rw [happ]
    exact ⟨rfl, by simpa using hlogin⟩

theorem told_of_report {m : Moment σ ε} {report : SessionToken × UserInfo}
    (h : m.report? = some report) : m.told? = some (some report) := by
  obtain ⟨s, check, happ, -⟩ := report_eq_some_iff.mp h
  rw [told_of_applied happ, h]
  rfl

theorem told_of_logout {m : Moment σ ε} (h : m.event = .logout) : m.told? = some none := by
  simp [told?, h]

inductive Mute : Moment σ ε → Prop
  | load {s : Session σ} : Mute ⟨s, .loadToken⟩
  | begin {s : Session σ} : Mute ⟨s, .beginCheck⟩
  | revalidate {s : Session σ} : Mute ⟨s, .revalidate⟩
  | adopt {s : Session σ} {token : SessionToken} : Mute ⟨s, .adoptToken token⟩
  | outside {s : Session σ} {action : ε} : Mute ⟨s, .outside action⟩
  | stale {s : Session σ} {token : SessionToken} {outcome : Except ApiError IdentityCheck}
    (h : token ≠ s.token) : Mute ⟨s, .settle token outcome⟩
  | failed {m : Moment σ ε} {s : Session σ} {e : ApiError} (h : m.applied? = some (s, .error e)) :
    Mute m
  | unnamed {m : Moment σ ε} {s : Session σ} {check : IdentityCheck}
    (h : m.applied? = some (s, .ok check)) (hlogin : check.info.login = "") : Mute m

theorem Mute.profile_after {m : Moment σ ε} (h : m.Mute) :
    (m.after act).profile = m.before.profile := by
  have htold : m.told? = none := by
    cases h with
    | load | begin | revalidate | adopt | outside => rfl
    | stale hne => exact Quiet.told? (m := ⟨_, .settle _ _⟩) hne
    | failed happ => simp [told_of_applied happ, report?, answer?, happ]
    | unnamed happ hlogin =>
      simp [told_of_applied happ, report?, answer?, happ, Option.filter_some, hlogin]
  rw [(m.effect_after act).profile act, htold]
  rfl

end Moment

namespace Session

variable {past : List (Moment σ ε)}

theorem lastTold_of_lastReport {later : List (Moment σ ε)} {token : SessionToken} {info : UserInfo}
    (h : LastReport past later token info) : lastTold past = some (token, info) := by
  obtain ⟨earlier, m, hsplit, hreport, hlater⟩ := h
  have hlast : latest Moment.told? past = some (some (token, info)) :=
    latest_eq_some_iff.mpr ⟨earlier, m, later, hsplit, Moment.told_of_report hreport,
      fun x hx => Moment.told_eq_none_iff.mpr (hlater x hx)⟩
  rw [lastTold, hlast]
  rfl

theorem lastTold_concat (past : List (Moment σ ε)) (m : Moment σ ε) :
    lastTold (past ++ [m]) = m.told?.getD (lastTold past) := by
  rw [lastTold, latest_concat, Option.getD_or, ← lastTold]

theorem lastTold_logout {m : Moment σ ε} (h : m.event = .logout) :
    lastTold (past ++ [m]) = none := by
  rw [lastTold_concat, Moment.told_of_logout h]
  rfl

theorem lastTold_of_silence {m : Moment σ ε} (hevent : m.event ≠ .logout) (h : m.report? = none) :
    lastTold (past ++ [m]) = lastTold past := by
  rw [lastTold_concat, Moment.told_eq_none_iff.mpr ⟨hevent, h⟩]
  rfl

theorem lastTold_of_unreported (h : Unreported past) : lastTold past = none := by
  obtain ⟨earlier, recent, rfl, hend, hrecent⟩ := h
  induction recent using List.reverseRecOn with
  | nil =>
    rw [List.append_nil]
    rcases hend with rfl | ⟨m, hlast, hevent⟩
    · rfl
    · obtain ⟨front, rfl⟩ := List.getLast?_eq_some_iff.mp hlast
      exact lastTold_logout hevent
  | append_singleton recent m ih =>
    rw [← List.append_assoc]
    by_cases hevent : m.event = .logout
    · exact lastTold_logout hevent
    · rw [lastTold_of_silence hevent (hrecent m (by simp))]
      exact ih fun x hx => hrecent x (List.mem_append_left _ hx)

theorem unreported_of_lastTold (h : lastTold past = none) : Unreported past := by
  induction past using List.reverseRecOn with
  | nil => exact ⟨[], [], rfl, .inl rfl, by simp⟩
  | append_singleton past m ih =>
    by_cases hevent : m.event = .logout
    · exact ⟨past ++ [m], [], by simp, .inr ⟨m, by simp, hevent⟩, by simp⟩
    · cases hreport : m.report? with
      | none => exact (ih (lastTold_of_silence hevent hreport ▸ h)).concat hreport
      | some report =>
        rw [lastTold_concat, Moment.told_of_report hreport] at h
        cases h

/-- The visitor is nobody until there is a report, and afterwards who the last report says, until
the session is ended. Nothing else changes login, role or user type, and what an answer with a login
says is taken over whatever its status is and whether or not the store then takes the token. An
outcome never replaces the token. -/
theorem reported_run (store : σ) (events : List (Event ε)) :
    let s := (start store).run act events
    let past := (start store).history act events
    (Unreported past → s.profile = .blank) ∧
    (∀ later token info, LastReport past later token info → s.profile = info.profile) ∧
    (Unreported past ∨ ∃ later token info, LastReport past later token info) ∧
    (∀ event, Moment.Mute ⟨s, event⟩ → (s.step act event).profile = s.profile) ∧
    (∀ check, (s.settle s.token (.ok check)).2.profile =
      if check.info.login = "" then s.profile else check.info.profile) ∧
    ∀ token outcome, (s.settle token outcome).2.token = s.token := by
  intro s past
  have hprofile : s.profile = .ofReport (lastTold past) := profile_eq_ofReport act store events
  refine ⟨fun h => ?_, fun later token info h => ?_, ?_, fun event h => h.profile_after act,
    fun check => ?_, fun token outcome => s.token_settle token outcome⟩
  · rw [hprofile, lastTold_of_unreported h]
    rfl
  · rw [hprofile, lastTold_of_lastReport h]
    rfl
  · cases hlast : lastTold past with
    | none => exact .inl (unreported_of_lastTold hlast)
    | some report =>
      obtain ⟨later, hreport⟩ := lastReport_of_lastTold hlast
      exact .inr ⟨later, _, _, hreport⟩
  · have hend : s.Applied _ _ (s.settle s.token (.ok check)).2 := s.applied_apply (.ok check)
    simpa using hend.profile_ok

end Session

end AdminConsole
