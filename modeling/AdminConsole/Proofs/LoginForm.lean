import Mathlib.Data.List.DropRight
import AdminConsole.Proofs.Client.SignIn
import AdminConsole.Proofs.Session.Run
import AdminConsole.Proofs.Wire.RoundTrip

/-!
# Filling in the login form

What the visitor enters and the challenges of the backend reach the form in any order. A request
carries what was entered last, except for the code: that counts for one challenge only. A challenge
puts the form into factor entry by the factors that it lists, so one that lists none does not.
-/

namespace AdminConsole

inductive LoginFormEvent where
  | setLogin (value : String)
  | setPassword (value : String)
  | setCode (value : String)
  | selectFactor (name : String)
  | requireFactors (factors : List String)
  | apply (outcome : LoginOutcome)
  | submit (result : Except ApiError LoginResponse)
deriving DecidableEq

namespace LoginFormEvent

def login? : LoginFormEvent → Option String
  | .setLogin value => some value
  | _ => none

def password? : LoginFormEvent → Option String
  | .setPassword value => some value
  | _ => none

def code? : LoginFormEvent → Option String
  | .setCode value => some value
  | _ => none

def challenge? : LoginFormEvent → Option (List String)
  | .requireFactors factors => some factors
  | .apply (.factorRequired factors) => some factors
  | .submit (.ok response) => if response.mfaRequired then some response.factors else none
  | _ => none

/-- The factor that is selected. A challenge selects the first that it lists, or the empty name. -/
def factor? : LoginFormEvent → Option String
  | .selectFactor name => some name
  | event => event.challenge?.map fun factors => factors.head?.getD ""

end LoginFormEvent

open LoginFormEvent (login? password? code? challenge? factor?)

namespace LoginForm

variable {events : List LoginFormEvent}

-- ---------------------------------------------------------------------------
-- One event
-- ---------------------------------------------------------------------------

def take (f : LoginForm) : Except LoginError LoginOutcome → LoginForm
  | .ok outcome => (f.apply outcome).2
  | .error _ => f

/-- Answers for a submission, which asks for a login and nothing else. -/
def loginAnswers (result : Except ApiError LoginResponse) : Answers
  | _, .login _ => result
  | _, _ => .error (.transport "")

def step (f : LoginForm) : LoginFormEvent → LoginForm
  | .setLogin value => f.setLogin value
  | .setPassword value => f.setPassword value
  | .setCode value => f.setCode value
  | .selectFactor name => f.selectFactor name
  | .requireFactors factors => f.requireFactors factors
  | .apply outcome => (f.apply outcome).2
  | .submit result => f.take (f.request.submit.run (loginAnswers result))

theorem step_submit (f : LoginForm) (result : Except ApiError LoginResponse) :
    f.step (.submit result) = f.take (LoginOutcome.of result) := rfl

theorem step_eq (f : LoginForm) (event : LoginFormEvent) :
    f.step event =
      ⟨event.login?.getD f.login, event.password?.getD f.password, event.challenge?.getD f.factors,
        ⟨event.factor?.getD f.factor.name,
          if event.challenge?.isSome then "" else event.code?.getD f.factor.code⟩⟩ := by
  cases event with
  | apply outcome => cases outcome <;> rfl
  | submit result =>
    have hend := LoginOutcome.ends_of result
    rw [step_submit]
    generalize LoginOutcome.of result = outcome at hend ⊢
    cases hend with
    | challenged hfactor =>
      simp [login?, password?, factor?, challenge?, hfactor, take, apply, requireFactors]
    | admitted hfactor | tokenless hfactor =>
      simp [login?, password?, code?, factor?, challenge?, hfactor, take, apply]
    | denied | throttled | failed => rfl
  | _ => rfl

-- ---------------------------------------------------------------------------
-- Runs
-- ---------------------------------------------------------------------------

def run (f : LoginForm) (events : List LoginFormEvent) : LoginForm := events.foldl step f

theorem run_concat (f : LoginForm) (events : List LoginFormEvent) (event : LoginFormEvent) :
    f.run (events ++ [event]) = (f.run events).step event := List.foldl_concat ..

/-- The events behind the last challenge, or all of them if there was none. -/
def sinceChallenge (events : List LoginFormEvent) : List LoginFormEvent :=
  events.rtakeWhile (·.challenge?.isNone)

theorem sinceChallenge_concat (events : List LoginFormEvent) (event : LoginFormEvent) :
    sinceChallenge (events ++ [event]) =
      if event.challenge?.isSome then [] else sinceChallenge events ++ [event] := by
  rw [sinceChallenge, List.rtakeWhile_concat]
  cases event.challenge? <;> simp [sinceChallenge]

theorem sinceChallenge_append_cons {event : LoginFormEvent} (h : event.challenge?.isSome = true)
    (earlier later : List LoginFormEvent) :
    sinceChallenge (earlier ++ event :: later) = sinceChallenge later := by
  induction later using List.reverseRecOn with
  | nil =>
    rw [sinceChallenge_concat, if_pos h]
    rfl
  | append_singleton later last ih =>
    rw [← List.cons_append, ← List.append_assoc, sinceChallenge_concat, ih, ← sinceChallenge_concat]

theorem run_eq (events : List LoginFormEvent) :
    empty.run events =
      ⟨(latest login? events).getD "", (latest password? events).getD "",
        (latest challenge? events).getD [],
        ⟨(latest factor? events).getD "", (latest code? (sinceChallenge events)).getD ""⟩⟩ := by
  induction events using List.reverseRecOn with
  | nil => rfl
  | append_singleton events event ih =>
    rw [run_concat, step_eq, ih, sinceChallenge_concat]
    simp only [latest_concat, Option.getD_or]
    split
    · rfl
    · rw [latest_concat, Option.getD_or]

theorem code_run_of_challenge {event : LoginFormEvent} {earlier later : List LoginFormEvent}
    (h : event.challenge?.isSome = true) (hcode : ∀ x ∈ later, x.code? = none) :
    (empty.run (earlier ++ event :: later)).factor.code = "" := by
  have hnone : latest code? (sinceChallenge later) = none :=
    latest_eq_none_iff.mpr fun x hx => hcode x ((List.rtakeWhile_suffix ..).mem hx)
  rw [run_eq, sinceChallenge_append_cons h, hnone]
  rfl

theorem step_submit_of_no_challenge (f : LoginForm) {result : Except ApiError LoginResponse}
    (h : ∀ response, result = .ok response → response.mfaRequired = false) :
    f.step (.submit result) = f := by
  have hnone : challenge? (.submit result) = none := by
    cases result with
    | error e => rfl
    | ok response => simp [challenge?, h response rfl]
  simp [step_eq, login?, password?, code?, factor?, hnone]

/-- A request carries the last login and the last password that were entered, the factor that was
selected last, by the visitor or by a challenge, and the last code that was entered for the last
challenge. A code that was entered in front of a challenge is not sent behind it. The factors are
those of the last challenge. What is neither an entry nor a challenge changes nothing. -/
theorem request_run (events : List LoginFormEvent) :
    let f := empty.run events
    f.request =
        ⟨(latest login? events).getD "", (latest password? events).getD "",
          ⟨(latest factor? events).getD "", (latest code? (sinceChallenge events)).getD ""⟩⟩ ∧
      f.request.submit.call? = some ⟨_, .login f.request⟩ ∧
      f.factors = (latest challenge? events).getD [] ∧
      (∀ earlier event later, events = earlier ++ event :: later →
        event.challenge?.isSome = true → (∀ x ∈ later, x.code? = none) →
        f.request.factor.code = "") ∧
      (∀ token, f.apply (.authenticated token) = (some token, f)) ∧
      ∀ result, (∀ response, result = .ok response → response.mfaRequired = false) →
        f.step (.submit result) = f := by
  intro f
  have hf : f = _ := run_eq events
  refine ⟨congrArg request hf, rfl, congrArg factors hf, ?_, fun token => rfl,
    fun result => f.step_submit_of_no_challenge⟩
  rintro earlier event later rfl h hcode
  exact code_run_of_challenge h hcode

-- ---------------------------------------------------------------------------
-- Demands for a second factor
-- ---------------------------------------------------------------------------

/-- However the form was filled in, a demand for a second factor gives no token, brings the factors
that it lists, selects the first of them and drops the code. The form asks for a code, and for one
of its factors, exactly if the demand lists any. -/
theorem apply_of_demand (events : List LoginFormEvent) (response : LoginResponse)
    (hdemand : response.mfaRequired = true) :
    ∃ f, (LoginOutcome.of (.ok response)).map (empty.run events).apply = .ok (none, f) ∧
      f.factors = response.factors ∧ f.factor = ⟨response.factors.head?.getD "", ""⟩ ∧
      (f.needsFactor = true ↔ response.factors ≠ []) ∧
      (f.factor.name ∈ f.factors ↔ response.factors ≠ []) := by
  have houtcome : LoginOutcome.of (.ok response) = .ok (.factorRequired response.factors) := by
    simp [LoginOutcome.of, hdemand]
  rw [houtcome]
  refine ⟨(empty.run events).requireFactors response.factors, rfl, rfl, rfl, ?_, ?_⟩
  · simp [needsFactor, requireFactors]
  · cases hfactors : response.factors with
    | nil => simp [requireFactors]
    | cons factor factors => simp [requireFactors]

/-- A code was entered for a challenge, and another one comes. -/
theorem apply_of_demand_again :
    ∃ f, (LoginOutcome.of (.ok ⟨false, .empty, true, ["totp", "yubikey"], false, false⟩)).map
        (empty.run [.setLogin "alice", .requireFactors ["phone"], .setCode "1"]).apply =
        .ok (none, f) ∧
      f.needsFactor = true ∧ f.factor = ⟨"totp", ""⟩ ∧ f.factor.name ∈ f.factors := by
  obtain ⟨f, happly, -, hfactor, hneeds, hname⟩ :=
    apply_of_demand [.setLogin "alice", .requireFactors ["phone"], .setCode "1"]
      ⟨false, .empty, true, ["totp", "yubikey"], false, false⟩ rfl
  exact ⟨f, happly, hneeds.mpr (by decide), hfactor, hname.mpr (by decide)⟩

def unlisted : LoginResponse := ⟨false, .empty, true, [], false, false⟩

/-- Such a demand can come, and leaves the form where login and password are entered. -/
theorem not_forall_needsFactor :
    (∃ answer, Http.Delivers LoginResponse.codec answer unlisted) ∧
      ¬ ∀ (events : List LoginFormEvent) (response : LoginResponse), response.mfaRequired = true →
        ∃ f, (LoginOutcome.of (.ok response)).map (empty.run events).apply = .ok (none, f) ∧
          f.needsFactor = true ∧ f.factor.name ∈ f.factors ∧ f.factor.code = "" := by
  constructor
  · exact ⟨.ok ⟨200, none, Utf8.encode (LoginResponse.codec.encode unlisted).toList⟩, _, rfl,
      by decide, (LoginResponse.codec_carries unlisted).decode_encode⟩
  · intro h
    obtain ⟨f, happly, hneeds, -⟩ := h [] unlisted rfl
    cases happly
    exact absurd hneeds (by decide)

end LoginForm

end AdminConsole
