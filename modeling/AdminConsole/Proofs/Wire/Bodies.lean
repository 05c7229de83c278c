import AdminConsole.Identity
import AdminConsole.ProviderId
import AdminConsole.Proofs.Json.Record

/-!
# The shapes of bodies

The keys of every body tell its fields apart, and every field is read by a regular reader. So what
is known of records in general holds of each body.
-/

namespace AdminConsole

open Json

theorem SessionToken.codec_regular : Regular SessionToken.codec.read :=
  Codec.iso_regular Codec.text_regular _ _

theorem UserInfo.shape_lawful : UserInfo.shape.Lawful where
  reads := by
    simp only [shape, List.forall_mem_cons]
    exact ⟨Field.of_regular Codec.text_regular, Field.of_regular Codec.text_regular,
      Field.of_regular Codec.text_regular, nofun⟩
  keys := by decide

theorem LoginResponse.shape_lawful : LoginResponse.shape.Lawful where
  reads := by
    simp only [shape, List.forall_mem_cons]
    exact ⟨Field.of_regular Codec.bool_regular, Field.of_regular SessionToken.codec_regular,
      Field.of_regular Codec.bool_regular, Field.of_regular (Codec.list_regular Codec.text_regular),
      Field.of_regular Codec.bool_regular, Field.of_regular Codec.bool_regular, nofun⟩
  keys := by decide

theorem Provider.shape_lawful : Provider.shape.Lawful where
  reads := by
    simp only [shape, List.forall_mem_cons]
    exact ⟨Field.of_regular Codec.text_regular, Field.of_regular Codec.text_regular,
      Field.omitting_regular (Codec.orNull_regular Codec.text_regular ..), nofun⟩
  keys := by decide

theorem AuthMethods.shape_lawful : AuthMethods.shape.Lawful where
  reads := by
    simp only [shape, List.forall_mem_cons]
    exact ⟨Field.of_regular Codec.bool_regular,
      Field.of_regular (Codec.orNull_regular (Codec.list_regular Provider.shape_lawful.regular) ..),
      nofun⟩
  keys := by decide

theorem UpgradeStatus.shape_lawful : UpgradeStatus.shape.Lawful where
  reads := by
    simp only [shape, List.forall_mem_cons]
    exact ⟨Field.of_regular Codec.text_regular, Field.of_regular Codec.bool_regular,
      Field.of_regular Codec.text_regular, nofun⟩
  keys := by decide

theorem FactorResponse.shape_lawful : FactorResponse.shape.Lawful where
  reads := by
    simp only [shape, List.forall_mem_cons]
    exact ⟨Field.of_regular Codec.text_regular, Field.of_regular Codec.text_regular, nofun⟩
  keys := by decide

theorem LoginRequest.shape_lawful : LoginRequest.shape.Lawful where
  reads := by
    simp only [shape, List.forall_mem_cons]
    exact ⟨Field.of_regular Codec.text_regular, Field.of_regular Codec.text_regular,
      Field.of_regular FactorResponse.shape_lawful.regular, nofun⟩
  keys := by decide

theorem TokenExchangeRequest.shape_lawful : TokenExchangeRequest.shape.Lawful where
  reads := by
    simp only [shape, List.forall_mem_cons]
    exact ⟨Field.of_regular Codec.text_regular, Field.of_regular Codec.text_regular,
      Field.of_regular Codec.text_regular, nofun⟩
  keys := by decide

end AdminConsole
