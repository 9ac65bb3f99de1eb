import UploadGate.Permissions.Source
import UploadGate.Proofs.Keys
import UploadGate.Proofs.Text.Tables

/-! # Users in a list of grants

Of a list of grants, a source looks at nothing but the last one of the user it is asked for.
-/

namespace UploadGate

variable {grants : List Permissions} {user : String}

/-- The last of the grants that bears the name of a user. -/
def lastGrant? (grants : List Permissions) (user : String) : Option Permissions :=
  (grants.filter (·.username = user)).getLast?

theorem lastGrant?_of_others (h : ∀ permissions ∈ grants, permissions.username ≠ user) :
    lastGrant? grants user = none := by
  rw [lastGrant?, List.getLast?_eq_none_iff, List.filter_eq_nil_iff]
  simpa using h

theorem lookup_ofGrants :
    (PermissionSource.ofGrants grants).lookup user =
      .ok ((lastGrant? grants user).getD (.none user)) := by
  rw [PermissionSource.ofGrants, PermissionSource.lookup, NameTable.get?_ofList, ← List.map_reverse,
    lookup_map_key, find?_reverse_eq_getLast?_filter, lastGrant?]

end UploadGate
