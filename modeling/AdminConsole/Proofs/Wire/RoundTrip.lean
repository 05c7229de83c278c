import AdminConsole.Proofs.Client.Exchange
import AdminConsole.Proofs.Json.RoundTrip
import AdminConsole.Proofs.Uuid
import AdminConsole.Proofs.Wire.Bodies

/-!
# Bodies are read back

Every body decodes from the text that is written for it, whatever its strings, lists and options
are. In a request only what was asked for is sent, so the other side can read it off.
-/

namespace AdminConsole

open Json

/-- Every value decodes from the text that is written for it. -/
def Json.Codec.RoundTrips {α : Type} (c : Codec α) : Prop :=
  ∀ a, c.decode (Utf8.encode (c.encode a).toList) = .ok a

-- ---------------------------------------------------------------------------
-- Names and tokens
-- ---------------------------------------------------------------------------

theorem Role.codec_carries (r : Role) : Role.codec.Carries r :=
  Codec.iso_carries (Codec.text_carries _) rfl

theorem SessionToken.codec_carries (t : SessionToken) : SessionToken.codec.Carries t :=
  Codec.iso_carries (Codec.text_carries _) rfl

theorem UserType.codec_carries (t : UserType) : UserType.codec.Carries t :=
  Codec.iso_carries (Codec.text_carries _) (ofText_text t)

theorem ProviderId.codec_carries (id : ProviderId) : ProviderId.codec.Carries id := by
  refine Codec.refine_carries (Codec.text_carries _) ?_
  have hread : Uuid.ofText? id.text.toList = some id.uuid := by
    rw [text, String.toList_ofList, Uuid.ofText?, Uuid.ofHyphenated?_hyphenated, Option.some_or]
  rw [hread]

-- ---------------------------------------------------------------------------
-- Answers
-- ---------------------------------------------------------------------------

theorem UserInfo.codec_carries (u : UserInfo) : UserInfo.codec.Carries u := by
  refine Shape.codec_carries shape_lawful ?_ (.inl rfl)
  exact .of (Codec.text_carries _) <| .of (Codec.text_carries _) <|
    .of (Codec.text_carries _) <| .nil _

theorem LoginResponse.codec_carries (r : LoginResponse) : LoginResponse.codec.Carries r := by
  have hfactors : (Codec.list .text).Carries r.factors :=
    Codec.list_carries Codec.text_regular fun _ _ => Codec.text_carries _
  refine Shape.codec_carries shape_lawful ?_ (.inl rfl)
  exact .of (Codec.bool_carries _) <| .of (SessionToken.codec_carries _) <|
    .of (Codec.bool_carries _) <| .of hfactors <| .of (Codec.bool_carries _) <|
    .of (Codec.bool_carries _) <| .nil _

/-- An address that is absent is not written, and it is absent from what is read. -/
theorem Provider.codec_carries (p : Provider) : Provider.codec.Carries p := by
  obtain ⟨id, name, redirect⟩ := p
  have hredirect (h : redirect.isNone = false) : redirectCodec.Carries redirect := by
    obtain ⟨uri, rfl⟩ := Option.isSome_iff_exists.mp (Option.isNone_eq_false_iff.mp h)
    exact Codec.orNull_carries (Codec.text_carries uri) rfl nofun
  refine Shape.codec_carries shape_lawful ?_ (.inl rfl)
  refine .of (Codec.text_carries _) <| .of (Codec.text_carries _) <|
    .cons (Field.omitting_copies hredirect _ _ _) ?_
  cases redirect with
  | none => exact .nil _
  | some uri => exact .nil _

theorem AuthMethods.codec_carries (m : AuthMethods) : AuthMethods.codec.Carries m := by
  have hlist : (Codec.list Provider.codec).Carries m.providers :=
    Codec.list_carries Provider.shape_lawful.regular fun p _ => p.codec_carries
  have hproviders : providersCodec.Carries m.providers :=
    Codec.orNull_carries hlist rfl nofun
  refine Shape.codec_carries shape_lawful ?_ (.inl rfl)
  exact .of (Codec.bool_carries _) <| .of hproviders <| .nil _

theorem UpgradeStatus.codec_carries (u : UpgradeStatus) : UpgradeStatus.codec.Carries u := by
  refine Shape.codec_carries shape_lawful ?_ (.inl rfl)
  exact .of (Codec.text_carries _) <| .of (Codec.bool_carries _) <|
    .of (Codec.text_carries _) <| .nil _

-- ---------------------------------------------------------------------------
-- Requests
-- ---------------------------------------------------------------------------

-- Requests are strict, so each of their fields must be seen to be written.

theorem FactorResponse.codec_carries (f : FactorResponse) : FactorResponse.codec.Carries f := by
  refine Shape.codec_carries shape_lawful ?_ (.inr (by simp [shape, Field.of, Field.omitting]))
  exact .of (Codec.text_carries _) <| .of (Codec.text_carries _) <| .nil _

theorem LoginRequest.codec_carries (r : LoginRequest) : LoginRequest.codec.Carries r := by
  refine Shape.codec_carries shape_lawful ?_ (.inr (by simp [shape, Field.of, Field.omitting]))
  exact .of (Codec.text_carries _) <| .of (Codec.text_carries _) <|
    .of (FactorResponse.codec_carries _) <| .nil _

theorem TokenExchangeRequest.codec_carries (r : TokenExchangeRequest) :
    TokenExchangeRequest.codec.Carries r := by
  refine Shape.codec_carries shape_lawful ?_ (.inr (by simp [shape, Field.of, Field.omitting]))
  exact .of (Codec.text_carries _) <| .of (Codec.text_carries _) <|
    .of (Codec.text_carries _) <| .nil _

theorem decode_sent {α β : Type} {codec : Codec α} {a : α} (ha : codec.Carries a) (c : ApiClient)
    (connection : Http.Request → Http.Answer) {call : Call β} (htoken : call.token? = none)
    (hbody : call.body? = some (codec.encode a)) :
    ∃ request, (c.perform connection call).1 = some request ∧
      codec.decode request.body = .ok a := by
  refine ⟨_, by rw [ApiClient.perform, request_of_no_token htoken], ?_⟩
  rw [hbody]
  exact ha.decode_encode

-- ---------------------------------------------------------------------------
-- All of them
-- ---------------------------------------------------------------------------

/-- Every body and every name decodes from its own text, and what a login or an exchange sends is
the request that it was given. -/
theorem wire_round_trips :
    (UserInfo.codec.RoundTrips ∧ LoginResponse.codec.RoundTrips ∧ Provider.codec.RoundTrips ∧
      AuthMethods.codec.RoundTrips ∧ UpgradeStatus.codec.RoundTrips ∧
      FactorResponse.codec.RoundTrips ∧ LoginRequest.codec.RoundTrips ∧
      TokenExchangeRequest.codec.RoundTrips) ∧
    (Role.codec.RoundTrips ∧ UserType.codec.RoundTrips ∧ SessionToken.codec.RoundTrips ∧
      ProviderId.codec.RoundTrips) ∧
    ∀ (c : ApiClient) (connection : Http.Request → Http.Answer),
      (∀ asked : LoginRequest, ∃ request,
        (c.perform connection (.login asked)).1 = some request ∧
          LoginRequest.codec.decode request.body = .ok asked) ∧
      (∀ (method id : String) (asked : TokenExchangeRequest), ∃ request,
        (c.perform connection (.exchangeCode method id asked)).1 = some request ∧
          TokenExchangeRequest.codec.decode request.body = .ok asked) := by
  refine ⟨⟨fun u => u.codec_carries.decode_encode, fun r => r.codec_carries.decode_encode,
    fun p => p.codec_carries.decode_encode, fun m => m.codec_carries.decode_encode,
    fun u => u.codec_carries.decode_encode, fun f => f.codec_carries.decode_encode,
    fun r => r.codec_carries.decode_encode, fun r => r.codec_carries.decode_encode⟩,
    ⟨fun r => r.codec_carries.decode_encode, fun t => t.codec_carries.decode_encode,
    fun t => t.codec_carries.decode_encode, fun id => id.codec_carries.decode_encode⟩,
    fun c connection => ⟨fun asked => ?_, fun method id asked => ?_⟩⟩
  · exact decode_sent asked.codec_carries c connection rfl rfl
  · exact decode_sent asked.codec_carries c connection rfl rfl

end AdminConsole
