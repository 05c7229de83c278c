import AdminConsole.ApiClient

/-!
# Decisions over a client

A decision that needs an answer from the backend sends one request for it. What the answer is read
as depends on the status and the body of the response alone, or on none having come.
-/

namespace AdminConsole

namespace Http

/-- A success whose body reads as `value`. -/
def Delivers {β : Type} (codec : Json.Codec β) (answer : Answer) (value : β) : Prop :=
  ∃ r, answer = .ok r ∧ (200 ≤ r.status ∧ r.status < 300) ∧ codec.decode r.body = .ok value

def HasStatus (answer : Answer) (status : Nat) : Prop := ∃ r, answer = .ok r ∧ r.status = status

end Http

namespace ApiClient

/-- What comes of the request for a question. One that cannot be put together fails like one that
gets no response. -/
def answer {β : Type} (c : ApiClient) (connection : Http.Request → Http.Answer) (call : Call β) :
    Http.Answer :=
  match c.request? call with
  | some request => connection request
  | none => .error .building

end ApiClient

namespace Leg

variable {α : Type}

/-- The requests that a client sends for a decision, and what is decided. -/
def via (c : ApiClient) (connection : Http.Request → Http.Answer) : Leg α → List Http.Request × α
  | .decided a => ([], a)
  | .ask call decide =>
    let (request, answer) := c.perform connection call
    (request.toList, decide answer)

end Leg

section
variable {α β : Type} {c : ApiClient} {connection : Http.Request → Http.Answer} {call : Call β}

theorem via_ask (decide : Except ApiError β → α) :
    (Leg.ask call decide).via c connection =
      ((c.request? call).toList, decide (call.ofAnswer (c.answer connection call))) := by
  simp only [Leg.via, ApiClient.perform, ApiClient.answer]
  cases c.request? call <;> rfl

theorem answer_of_request {request : Http.Request} (h : c.request? call = some request) :
    c.answer connection call = connection request := by
  simp only [ApiClient.answer, h]

theorem answer_of_no_request (h : c.request? call = none) :
    c.answer connection call = .error .building := by
  simp only [ApiClient.answer, h]

theorem request_of_token {token : SessionToken} (h : call.token? = some token) :
    c.request? call =
      if Http.isHeaderValue token.bearer then
        some
          { method := call.method
            url := c.endpoint call.segments
            headers :=
              ⟨some token.bearer, call.body?.map fun _ => Http.jsonType, some Http.anyType⟩
            body := Utf8.encode (call.body?.getD "").toList }
      else none := by
  simp [ApiClient.request?, h]

theorem request_of_no_token (h : call.token? = none) :
    c.request? call = some
      { method := call.method
        url := c.endpoint call.segments
        headers := ⟨none, call.body?.map fun _ => Http.jsonType, some Http.anyType⟩
        body := Utf8.encode (call.body?.getD "").toList } := by
  simp [ApiClient.request?, h]

theorem via_ask_of_no_token (h : call.token? = none) (decide : Except ApiError β → α) :
    ∃ request, (Leg.ask call decide).via c connection =
        ([request], decide (call.ofAnswer (connection request))) ∧
      request.method = call.method ∧ request.url = c.endpoint call.segments := by
  have hrequest := request_of_no_token (c := c) h
  rw [via_ask, answer_of_request hrequest, hrequest]
  exact ⟨_, rfl, rfl, rfl⟩

end

-- ---------------------------------------------------------------------------
-- Reading the value of a success
-- ---------------------------------------------------------------------------

namespace Call

def Expects {β : Type} (call : Call β) (codec : Json.Codec β) : Prop :=
  call.ofResponse = success (decode codec)

theorem login_expects (request : LoginRequest) : (login request).Expects LoginResponse.codec := rfl

theorem exchangeCode_expects (method id : String) (request : TokenExchangeRequest) :
    (exchangeCode method id request).Expects LoginResponse.codec := rfl

theorem providerRedirect_expects (method id : String) :
    (providerRedirect method id).Expects Provider.codec := rfl

variable {β : Type} {call : Call β} {codec : Json.Codec β}

theorem decode_eq_ok_iff {body : List UInt8} {value : β} :
    decode codec body = .ok value ↔ codec.decode body = .ok value := by
  simp only [decode]
  split <;> simp_all

theorem Expects.ofAnswer_ok (h : call.Expects codec) (r : Http.Response) :
    call.ofAnswer (.ok r) =
      if r.isSuccess then decode codec r.body else .error (.status r.status r.text) :=
  congrFun h r

/-- The value comes from the body of a success and from nowhere else. -/
theorem Expects.ok_iff (h : call.Expects codec) {answer : Http.Answer} {value : β} :
    call.ofAnswer answer = .ok value ↔ Http.Delivers codec answer value := by
  cases answer with
  | error e => simp [ofAnswer, Http.Delivers]
  | ok r =>
    rw [h.ofAnswer_ok]
    split
    · rename_i hs
      simp [Http.Delivers, Http.Response.isSuccess_iff.mp hs, decode_eq_ok_iff]
    · rename_i hs
      rw [Http.Response.isSuccess_iff] at hs
      simp [Http.Delivers, hs]

theorem status_decode {body : List UInt8} {e : ApiError} (h : decode codec body = .error e) :
    e.status? = none := by
  simp only [decode] at h
  split at h
  · cases h
  · obtain rfl := Except.error.inj h
    rfl

theorem Expects.status_iff (h : call.Expects codec) {answer : Http.Answer} {status : Nat}
    (hstatus : status < 200 ∨ 300 ≤ status) :
    (∃ e, call.ofAnswer answer = .error e ∧ e.status? = some status) ↔
      Http.HasStatus answer status := by
  cases answer with
  | error e => simp [ofAnswer, Http.HasStatus, ApiError.status?]
  | ok r =>
    rw [h.ofAnswer_ok]
    split
    · rename_i hs
      rw [Http.Response.isSuccess_iff] at hs
      constructor
      · rintro ⟨e, he, hcode⟩
        rw [status_decode he] at hcode
        cases hcode
      · rintro ⟨_, hr, rfl⟩
        obtain rfl := Except.ok.inj hr
        omega
    · simp [Http.HasStatus, ApiError.status?]

end Call

end AdminConsole
