import UploadGate.Proofs.Eligibility
import UploadGate.Service

/-! # The connections on offer

The condition on flag, engine, grants and restricted schemas under which a connection is on offer to
a user, without a word about the order of the checks or about empty sets. It can be decided, and the
connections on offer are exactly those of the registry that meet it.
-/

namespace UploadGate

namespace Permissions

variable (permissions : Permissions) (database schema : String)

instance : Decidable (permissions.GrantsDatabase database) :=
  inferInstanceAs (Decidable (_ ∨ _ ∨ _))

instance : Decidable (permissions.GrantsSchema database schema) :=
  decidable_of_iff (schema ∈ permissions.grantedSchemas database) mem_grantedSchemas

end Permissions

namespace Connection

instance (connection : Connection) (permissions : Permissions) :
    Decidable (connection.OpenTo permissions) :=
  inferInstanceAs (Decidable (_ ∨ ∃ schema ∈ connection.schemas.toList, _))

/-- The flag and the engine of a connection allow uploads, and there is a snapshot under which it is
open to the user. -/
def IsOnOffer (connection : Connection) (snapshot : Option Permissions) : Prop :=
  connection.allowsUpload = true ∧
    (connection.engine ≠ .gsheets ∧ connection.engine ≠ .clickHouse) ∧
    ∃ permissions ∈ snapshot, connection.OpenTo permissions

instance (connection : Connection) (snapshot : Option Permissions) :
    Decidable (connection.IsOnOffer snapshot) :=
  inferInstanceAs (Decidable (_ ∧ (_ ∧ _) ∧ _))

variable {connection : Connection}

theorem isEligible_iff_isOnOffer {snapshot : Option Permissions} :
    connection.isEligible snapshot = true ↔ connection.IsOnOffer snapshot := by
  cases snapshot with
  | none => simp [isEligible, offersSchema_none, IsOnOffer]
  | some permissions => simp [isEligible_iff, IsOnOffer]

end Connection

/-- The eligible connections are those on offer, in their order and as often as they are listed; the
choices of a user are the ids and names of those that the registry lists. -/
theorem eligibleConnections_eq_filter_isOnOffer :
    (∀ snapshot connections, eligibleConnections snapshot connections =
      connections.filter fun connection => decide (connection.IsOnOffer snapshot)) ∧
    ∀ (service : UploadService) (user : String), service.choices user =
      match service.registry.uploadAllowed with
      | .error fault => .error (.registry fault)
      | .ok listed => .ok <| (listed.filter fun connection =>
          decide (connection.IsOnOffer (some (service.permissionsOf user)))).map
            fun connection => ⟨connection.id, connection.name⟩ := by
  have hfilter : ∀ snapshot connections, eligibleConnections snapshot connections =
      connections.filter fun connection => decide (connection.IsOnOffer snapshot) := by
    intro snapshot connections
    apply List.filter_congr
    intro connection _
    rw [Bool.eq_iff_iff, decide_eq_true_iff, Connection.isEligible_iff_isOnOffer]
  refine ⟨hfilter, fun service user => ?_⟩
  unfold UploadService.choices UploadService.eligible
  cases service.registry.uploadAllowed with
  | error fault => rfl
  | ok listed =>
    dsimp only
    rw [hfilter]
    rfl

/-- Full access to one connection, an engine that takes nothing in, and a grant for a schema. -/
example :
    let first : Connection := ⟨1, "A", .postgresql, true, ∅⟩
    let second : Connection := ⟨2, "B", .gsheets, true, ∅⟩
    let third : Connection := ⟨3, "C", .mysql, true, .ofList ["sales"]⟩
    let permissions : Permissions :=
      { Permissions.none "alice" with
        databases := .ofList ["A", "B"]
        tableGrants := [⟨"C", some "sales", "orders"⟩] }
    [first, second, third].filter (fun connection => decide (connection.IsOnOffer permissions)) =
      [first, third] := by
  decide

end UploadGate
