import AdminConsole.Federation
import AdminConsole.Login
import AdminConsole.Session
import AdminConsole.Proofs.Client.Exchange

/-!
# Where tokens come from

A login and a federation callback each send one request, and both are answered by a body of the same
form. A token comes of it only if the answer is a success that carries one and nothing in it stands
against it: a demand for a second factor at a login, a suspended account or a missing license at a
callback. Every other answer is told apart by what stands against it or by its status.
-/

namespace AdminConsole

-- ---------------------------------------------------------------------------
-- Login
-- ---------------------------------------------------------------------------

namespace LoginOutcome

inductive Ends : Except ApiError LoginResponse → Except LoginError LoginOutcome → Prop
  | challenged {response : LoginResponse} (hfactor : response.mfaRequired = true) :
    Ends (.ok response) (.ok (.factorRequired response.factors))
  | admitted {response : LoginResponse} (hfactor : response.mfaRequired = false)
    (htoken : response.token.text ≠ "") :
    Ends (.ok response) (.ok (.authenticated response.token))
  | tokenless {response : LoginResponse} (hfactor : response.mfaRequired = false)
    (htoken : response.token.text = "") :
    Ends (.ok response) (.error (.other "no session token was returned"))
  | denied {e : ApiError} (hcode : e.status? = some 401) :
    Ends (.error e) (.error .invalidCredentials)
  | throttled {e : ApiError} (hcode : e.status? = some 429) :
    Ends (.error e) (.error .tooManyAttempts)
  | failed {e : ApiError} (hdenied : e.status? ≠ some 401) (hthrottled : e.status? ≠ some 429) :
    Ends (.error e) (.error (.other e.message))

theorem ends_of (result : Except ApiError LoginResponse) : Ends result (of result) := by
  cases result with
  | ok response =>
    simp only [of]
    split
    · rename_i hfactor
      exact .challenged hfactor
    · rename_i hfactor
      have hfactor : response.mfaRequired = false := Bool.eq_false_iff.mpr hfactor
      split
      · rename_i htoken
        exact .tokenless hfactor (SessionToken.isEmpty_iff.mp htoken)
      · rename_i htoken
        exact .admitted hfactor fun hempty => htoken (SessionToken.isEmpty_iff.mpr hempty)
  | error e =>
    simp only [of]
    split
    · rename_i hcode
      exact .denied hcode
    · rename_i hcode
      exact .throttled hcode
    · rename_i hdenied hthrottled
      exact .failed hdenied hthrottled

variable {result : Except ApiError LoginResponse} {outcome : Except LoginError LoginOutcome}

theorem Ends.authenticated_iff (h : Ends result outcome) {token : SessionToken} :
    outcome = .ok (.authenticated token) ↔
      ∃ response, result = .ok response ∧ response.mfaRequired = false ∧
        response.token.text ≠ "" ∧ response.token = token := by
  cases h with
  | challenged hfactor => simp [hfactor]
  | admitted hfactor htoken => simp [hfactor, htoken]
  | tokenless hfactor htoken => simp [htoken]
  | denied | throttled | failed => simp

theorem Ends.factorRequired_iff (h : Ends result outcome) {factors : List String} :
    outcome = .ok (.factorRequired factors) ↔
      ∃ response, result = .ok response ∧ response.mfaRequired = true ∧
        response.factors = factors := by
  cases h with
  | challenged hfactor => simp [hfactor]
  | admitted hfactor | tokenless hfactor => simp [hfactor]
  | denied | throttled | failed => simp

theorem Ends.invalidCredentials_iff (h : Ends result outcome) :
    outcome = .error .invalidCredentials ↔ ∃ e, result = .error e ∧ e.status? = some 401 := by
  cases h with
  | challenged | admitted | tokenless => simp
  | denied hcode => simp [hcode]
  | throttled hcode => simp [hcode]
  | failed hdenied => simp [hdenied]

theorem Ends.tooManyAttempts_iff (h : Ends result outcome) :
    outcome = .error .tooManyAttempts ↔ ∃ e, result = .error e ∧ e.status? = some 429 := by
  cases h with
  | challenged | admitted | tokenless => simp
  | denied hcode => simp [hcode]
  | throttled hcode => simp [hcode]
  | failed hdenied hthrottled => simp [hthrottled]

theorem Ends.other_iff (h : Ends result outcome) :
    (∃ details, outcome = .error (.other details)) ↔
      (¬ ∃ e, result = .error e ∧ e.status? = some 401) ∧
      (¬ ∃ e, result = .error e ∧ e.status? = some 429) ∧
      ∀ response, result = .ok response →
        response.mfaRequired = false ∧ response.token.text = "" := by
  cases h with
  | challenged hfactor => simp [hfactor]
  | admitted hfactor htoken => simp [htoken]
  | tokenless hfactor htoken => simp [hfactor, htoken]
  | denied hcode => simp [hcode]
  | throttled hcode => simp [hcode]
  | failed hdenied hthrottled => simp [hdenied, hthrottled]

/-- How the outcome of a login follows from the answer to its request. A demand for a second factor
counts even if a token comes with it. -/
structure Follows (answer : Http.Answer) (outcome : Except LoginError LoginOutcome) : Prop where
  authenticated : ∀ token, outcome = .ok (.authenticated token) ↔
    ∃ response, Http.Delivers LoginResponse.codec answer response ∧ response.mfaRequired = false ∧
      response.token.text ≠ "" ∧ response.token = token
  factorRequired : ∀ factors, outcome = .ok (.factorRequired factors) ↔
    ∃ response, Http.Delivers LoginResponse.codec answer response ∧ response.mfaRequired = true ∧
      response.factors = factors
  invalidCredentials : outcome = .error .invalidCredentials ↔ Http.HasStatus answer 401
  tooManyAttempts : outcome = .error .tooManyAttempts ↔ Http.HasStatus answer 429
  other : (∃ details, outcome = .error (.other details)) ↔
    ¬ Http.HasStatus answer 401 ∧ ¬ Http.HasStatus answer 429 ∧
      ∀ response, Http.Delivers LoginResponse.codec answer response →
        response.mfaRequired = false ∧ response.token.text = ""

theorem follows_of {call : Call LoginResponse} (hcall : call.Expects LoginResponse.codec)
    (answer : Http.Answer) : Follows answer (of (call.ofAnswer answer)) := by
  have h := ends_of (call.ofAnswer answer)
  have hdenied : (∃ e, call.ofAnswer answer = .error e ∧ e.status? = some 401) ↔
      Http.HasStatus answer 401 := hcall.status_iff (.inr (by decide))
  have hthrottled : (∃ e, call.ofAnswer answer = .error e ∧ e.status? = some 429) ↔
      Http.HasStatus answer 429 := hcall.status_iff (.inr (by decide))
  refine ⟨fun token => ?_, fun factors => ?_, ?_, ?_, ?_⟩
  · simp only [h.authenticated_iff, hcall.ok_iff]
  · simp only [h.factorRequired_iff, hcall.ok_iff]
  · rw [h.invalidCredentials_iff, hdenied]
  · rw [h.tooManyAttempts_iff, hthrottled]
  · simp only [h.other_iff, hdenied, hthrottled, hcall.ok_iff]

end LoginOutcome

-- ---------------------------------------------------------------------------
-- Callback
-- ---------------------------------------------------------------------------

namespace CallbackRequest

inductive Ends : Except ApiError LoginResponse → Except FederationError SessionToken → Prop
  | suspended {response : LoginResponse} (hsuspended : response.suspended = true) :
    Ends (.ok response) (.error .suspended)
  | unlicensed {response : LoginResponse} (hsuspended : response.suspended = false)
    (hlicense : response.noLicense = true) : Ends (.ok response) (.error .noLicense)
  | admitted {response : LoginResponse} (hsuspended : response.suspended = false)
    (hlicense : response.noLicense = false) (htoken : response.token.text ≠ "") :
    Ends (.ok response) (.ok response.token)
  | tokenless {response : LoginResponse} (hsuspended : response.suspended = false)
    (hlicense : response.noLicense = false) (htoken : response.token.text = "") :
    Ends (.ok response) (.error (.exchange "no session token was returned"))
  | denied {e : ApiError} (hcode : e.status? = some 401) :
    Ends (.error e) (.error .invalidCredentials)
  | failed {e : ApiError} (hdenied : e.status? ≠ some 401) :
    Ends (.error e) (.error (.exchange e.message))

theorem ends_outcome (result : Except ApiError LoginResponse) : Ends result (outcome result) := by
  cases result with
  | ok response =>
    simp only [outcome, tokenOf]
    split
    · rename_i hsuspended
      exact .suspended hsuspended
    · rename_i hsuspended
      have hsuspended : response.suspended = false := Bool.eq_false_iff.mpr hsuspended
      split
      · rename_i hlicense
        exact .unlicensed hsuspended hlicense
      · rename_i hlicense
        have hlicense : response.noLicense = false := Bool.eq_false_iff.mpr hlicense
        split
        · rename_i htoken
          exact .tokenless hsuspended hlicense (SessionToken.isEmpty_iff.mp htoken)
        · rename_i htoken
          exact .admitted hsuspended hlicense fun hempty =>
            htoken (SessionToken.isEmpty_iff.mpr hempty)
  | error e =>
    simp only [outcome]
    split
    · rename_i hcode
      exact .denied hcode
    · rename_i hdenied
      exact .failed hdenied

variable {result : Except ApiError LoginResponse} {outcome : Except FederationError SessionToken}

theorem Ends.ok_iff (h : Ends result outcome) {token : SessionToken} :
    outcome = .ok token ↔
      ∃ response, result = .ok response ∧ response.suspended = false ∧
        response.noLicense = false ∧ response.token.text ≠ "" ∧ response.token = token := by
  cases h with
  | suspended hsuspended => simp [hsuspended]
  | unlicensed hsuspended hlicense => simp [hlicense]
  | admitted hsuspended hlicense htoken => simp [hsuspended, hlicense, htoken]
  | tokenless hsuspended hlicense htoken => simp [htoken]
  | denied | failed => simp

theorem Ends.suspended_iff (h : Ends result outcome) :
    outcome = .error .suspended ↔
      ∃ response, result = .ok response ∧ response.suspended = true := by
  cases h with
  | suspended hsuspended => simp [hsuspended]
  | unlicensed hsuspended | admitted hsuspended | tokenless hsuspended => simp [hsuspended]
  | denied | failed => simp

theorem Ends.noLicense_iff (h : Ends result outcome) :
    outcome = .error .noLicense ↔
      ∃ response, result = .ok response ∧ response.suspended = false ∧
        response.noLicense = true := by
  cases h with
  | suspended hsuspended => simp [hsuspended]
  | unlicensed hsuspended hlicense => simp [hsuspended, hlicense]
  | admitted hsuspended hlicense | tokenless hsuspended hlicense => simp [hlicense]
  | denied | failed => simp

theorem Ends.invalidCredentials_iff (h : Ends result outcome) :
    outcome = .error .invalidCredentials ↔ ∃ e, result = .error e ∧ e.status? = some 401 := by
  cases h with
  | suspended | unlicensed | admitted | tokenless => simp
  | denied hcode => simp [hcode]
  | failed hdenied => simp [hdenied]

theorem Ends.exchange_iff (h : Ends result outcome) :
    (∃ details, outcome = .error (.exchange details)) ↔
      (¬ ∃ e, result = .error e ∧ e.status? = some 401) ∧
      ∀ response, result = .ok response →
        response.suspended = false ∧ response.noLicense = false ∧
          response.token.text = "" := by
  cases h with
  | suspended hsuspended => simp [hsuspended]
  | unlicensed hsuspended hlicense => simp [hlicense]
  | admitted hsuspended hlicense htoken => simp [htoken]
  | tokenless hsuspended hlicense htoken => simp [hsuspended, hlicense, htoken]
  | denied hcode => simp [hcode]
  | failed hdenied => simp [hdenied]

theorem Ends.isExchangeFailure (h : Ends result outcome) {e : FederationError}
    (he : outcome = .error e) : e.isExchangeFailure = true := by
  cases h with
  | admitted => cases he
  | suspended | unlicensed | tokenless | denied | failed =>
    obtain rfl := Except.error.inj he
    rfl

/-- How the outcome of a callback follows from the answer to its request. A suspended account is
reported even if the license is missing too. -/
structure Follows (answer : Http.Answer) (outcome : Except FederationError SessionToken) :
    Prop where
  ok : ∀ token, outcome = .ok token ↔
    ∃ response, Http.Delivers LoginResponse.codec answer response ∧ response.suspended = false ∧
      response.noLicense = false ∧ response.token.text ≠ "" ∧ response.token = token
  suspended : outcome = .error .suspended ↔
    ∃ response, Http.Delivers LoginResponse.codec answer response ∧ response.suspended = true
  noLicense : outcome = .error .noLicense ↔
    ∃ response, Http.Delivers LoginResponse.codec answer response ∧ response.suspended = false ∧
      response.noLicense = true
  invalidCredentials : outcome = .error .invalidCredentials ↔ Http.HasStatus answer 401
  exchange : (∃ details, outcome = .error (.exchange details)) ↔
    ¬ Http.HasStatus answer 401 ∧
      ∀ response, Http.Delivers LoginResponse.codec answer response →
        response.suspended = false ∧ response.noLicense = false ∧ response.token.text = ""
  isExchangeFailure : ∀ e, outcome = .error e → e.isExchangeFailure = true

theorem follows_outcome {call : Call LoginResponse} (hcall : call.Expects LoginResponse.codec)
    (answer : Http.Answer) : Follows answer (CallbackRequest.outcome (call.ofAnswer answer)) := by
  have h := ends_outcome (call.ofAnswer answer)
  have hdenied : (∃ e, call.ofAnswer answer = .error e ∧ e.status? = some 401) ↔
      Http.HasStatus answer 401 := hcall.status_iff (.inr (by decide))
  refine ⟨fun token => ?_, ?_, ?_, ?_, ?_, fun e he => h.isExchangeFailure he⟩
  · simp only [h.ok_iff, hcall.ok_iff]
  · simp only [h.suspended_iff, hcall.ok_iff]
  · simp only [h.noLicense_iff, hcall.ok_iff]
  · rw [h.invalidCredentials_iff, hdenied]
  · simp only [h.exchange_iff, hdenied, hcall.ok_iff]

end CallbackRequest

-- ---------------------------------------------------------------------------
-- Both
-- ---------------------------------------------------------------------------

theorem via_submit (request : LoginRequest) (c : ApiClient)
    (connection : Http.Request → Http.Answer) :
    ∃ post, request.submit.via c connection =
        ([post], LoginOutcome.of ((Call.login request).ofAnswer (connection post))) ∧
      post.method = "POST" ∧ post.url = c.endpoint ["auth"] :=
  via_ask_of_no_token rfl _

theorem via_complete (callback : CallbackRequest) (c : ApiClient)
    (connection : Http.Request → Http.Answer) :
    ∃ post, callback.complete.via c connection =
        ([post], CallbackRequest.outcome
          ((Call.exchangeCode callback.method callback.id callback.body).ofAnswer
            (connection post))) ∧
      post.method = "POST" ∧
      post.url = c.endpoint ["authmethods", callback.method, callback.id] :=
  via_ask_of_no_token rfl _

/-- A login and a callback send one request each, whose answer settles what comes of them: a token
only comes from a success that gives it. So a session that adopts it has one. -/
theorem signIn_via {σ : Type} (c : ApiClient) (connection : Http.Request → Http.Answer)
    (request : LoginRequest) (callback : CallbackRequest) :
    let (sentLogin, login) := request.submit.via c connection
    let (sentCallback, exchange) := callback.complete.via c connection
    (∃ post, sentLogin = [post] ∧ post.method = "POST" ∧ post.url = c.endpoint ["auth"] ∧
        LoginOutcome.Follows (connection post) login) ∧
      (∃ post, sentCallback = [post] ∧ post.method = "POST" ∧
        post.url = c.endpoint ["authmethods", callback.method, callback.id] ∧
        CallbackRequest.Follows (connection post) exchange) ∧
      ∀ (s : Session σ) (token : SessionToken),
        login = .ok (.authenticated token) ∨ exchange = .ok token →
        (s.adoptToken token).token.text ≠ "" := by
  obtain ⟨post, hlogin, hmethod, hurl⟩ := via_submit request c connection
  obtain ⟨post', hexchange, hmethod', hurl'⟩ := via_complete callback c connection
  have hfollows := LoginOutcome.follows_of (Call.login_expects request) (connection post)
  have hfollows' := CallbackRequest.follows_outcome
    (Call.exchangeCode_expects callback.method callback.id callback.body) (connection post')
  rw [hlogin, hexchange]
  refine ⟨⟨post, rfl, hmethod, hurl, hfollows⟩, ⟨post', rfl, hmethod', hurl', hfollows'⟩, ?_⟩
  rintro s token (htoken | htoken)
  · obtain ⟨response, -, -, hgiven, rfl⟩ := (hfollows.authenticated token).mp htoken
    exact hgiven
  · obtain ⟨response, -, -, -, hgiven, rfl⟩ := (hfollows'.ok token).mp htoken
    exact hgiven

end AdminConsole
