import UploadGate.Proofs.Permissions.Inclusion
import UploadGate.Service

/-! # What the answers to a user depend on

Of its source of permissions the service looks at nothing but the grants of the user whom it
answers. It gives him the same answers from every other source in which he has the same grants.
-/

namespace UploadGate.UploadService

variable {service : UploadService} {source : PermissionSource} {user : String}

/-- The same service with another source of permissions. -/
def withPermissions (service : UploadService) (source : PermissionSource) : UploadService :=
  { service with permissions := source }

/-- Two services answer a user alike, whatever he asks for. -/
structure SameAnswers (service other : UploadService) (user : String) : Prop where
  choices : service.choices user = other.choices user
  formView : ∀ kind, service.formView kind user = other.formView kind user
  validate : ∀ kind submission,
    service.validate kind user submission = other.validate kind user submission

theorem eligible_congr
    (h : (service.permissionsOf user).SameGrants
      ((service.withPermissions source).permissionsOf user)) :
    service.eligible user = (service.withPermissions source).eligible user := by
  have hregistry : (service.withPermissions source).registry = service.registry := rfl
  unfold eligible
  rw [hregistry]
  cases service.registry.uploadAllowed with
  | ok listed =>
    dsimp only
    rw [eligibleConnections_congr h]
  | error fault => rfl

theorem accept_congr {connections : List Connection} {upload : Form.Upload}
    (h : (service.permissionsOf user).SameGrants
      ((service.withPermissions source).permissionsOf user)) :
    service.accept user connections upload =
      (service.withPermissions source).accept user connections upload := by
  unfold accept
  cases connections.find? (·.id = upload.databaseId) with
  | none => rfl
  | some connection =>
    dsimp only
    rw [Connection.allowsSchema_congr h]

/-- A user with the same grants in another source is given the same answers. -/
theorem sameAnswers_of_sameGrants
    (h : (service.permissionsOf user).SameGrants
      ((service.withPermissions source).permissionsOf user)) :
    SameAnswers service (service.withPermissions source) user := by
  have hform : ∀ kind, (service.withPermissions source).form kind = service.form kind :=
    fun _ => rfl
  have hchoices : service.choices user = (service.withPermissions source).choices user := by
    rw [choices, choices, eligible_congr h]
  refine ⟨hchoices, fun kind => ?_, fun kind submission => ?_⟩
  · rw [formView, formView, hchoices, hform]
  · unfold validate
    rw [← eligible_congr h, hform]
    simp only [accept_congr h]

end UploadGate.UploadService
