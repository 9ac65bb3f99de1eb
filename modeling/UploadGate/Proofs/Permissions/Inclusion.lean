import Mathlib.Data.List.Basic
import UploadGate.Proofs.Eligibility

/-! # More permissions

One snapshot lies within another if every flag, database and grant of the first one is also in the
second one, in whatever order and however often. Whatever is granted by the first one is then
granted by the second one, so that every check of eligibility that succeeds under the first one
succeeds under the second one. Two snapshots that lie within each other differ in the order and
repetition of their grants at most, and no check tells them apart.
-/

namespace UploadGate

namespace Permissions

variable {permissions more : Permissions} {database schema : String}

/-- Every flag, database and grant of one snapshot is also in the other one. -/
structure Within (permissions more : Permissions) : Prop where
  allDatabases : permissions.allDatabases = true → more.allDatabases = true
  allTables : permissions.allTables = true → more.allTables = true
  databases : ∀ database ∈ permissions.databases, database ∈ more.databases
  schemaGrants : ∀ grant ∈ permissions.schemaGrants, grant ∈ more.schemaGrants
  tableGrants : ∀ grant ∈ permissions.tableGrants, grant ∈ more.tableGrants

/-- Two snapshots with the same flags, databases and grants, the latter in any order and any
number. -/
structure SameGrants (permissions other : Permissions) : Prop where
  within : permissions.Within other
  contains : other.Within permissions

theorem Within.refl (permissions : Permissions) : permissions.Within permissions :=
  ⟨id, id, fun _ => id, fun _ => id, fun _ => id⟩

theorem SameGrants.refl (permissions : Permissions) : permissions.SameGrants permissions :=
  ⟨.refl permissions, .refl permissions⟩

theorem Within.grantsDatabase (h : permissions.Within more)
    (hgrant : permissions.GrantsDatabase database) : more.GrantsDatabase database := by
  rcases hgrant with htables | hdatabases | hname
  · exact Or.inl (h.allTables htables)
  · exact Or.inr (Or.inl (h.allDatabases hdatabases))
  · exact Or.inr (Or.inr (h.databases database hname))

theorem Within.grantsSchema (h : permissions.Within more)
    (hgrant : permissions.GrantsSchema database schema) : more.GrantsSchema database schema := by
  rcases hgrant with hschema | ⟨table, htable⟩
  · exact Or.inl (h.schemaGrants _ hschema)
  · exact Or.inr ⟨table, h.tableGrants _ htable⟩

end Permissions

variable {permissions more : Permissions}

namespace Connection

variable {connection : Connection} {schema : Option String}

theorem OpenTo.mono (hopen : connection.OpenTo permissions) (h : permissions.Within more) :
    connection.OpenTo more := by
  rcases hopen with hfull | ⟨schema, hschema, hgrant⟩
  · exact Or.inl (h.grantsDatabase hfull)
  · exact Or.inr ⟨schema, hschema, h.grantsSchema hgrant⟩

theorem isEligible_mono (h : permissions.Within more)
    (heligible : connection.isEligible (some permissions) = true) :
    connection.isEligible (some more) = true := by
  obtain ⟨hflag, hengine, hopen⟩ := isEligible_iff.mp heligible
  exact isEligible_iff.mpr ⟨hflag, hengine, hopen.mono h⟩

theorem allowsSchema_mono (h : permissions.Within more)
    (hallowed : connection.allowsSchema (some permissions) schema = true) :
    connection.allowsSchema (some more) schema = true := by
  obtain ⟨hflag, hschema⟩ := allowsSchema_iff.mp hallowed
  refine allowsSchema_iff.mpr ⟨hflag, ?_⟩
  -- Among restricted schemas the permissions have no say.
  rcases hschema with ⟨hfree, hfull⟩ | hrestricted
  · exact Or.inl ⟨hfree, h.grantsDatabase hfull⟩
  · exact Or.inr hrestricted

theorem isEligible_congr (h : permissions.SameGrants more) :
    connection.isEligible (some permissions) = connection.isEligible (some more) :=
  Bool.eq_iff_iff.mpr ⟨isEligible_mono h.within, isEligible_mono h.contains⟩

theorem allowsSchema_congr (h : permissions.SameGrants more) :
    connection.allowsSchema (some permissions) schema =
      connection.allowsSchema (some more) schema :=
  Bool.eq_iff_iff.mpr ⟨allowsSchema_mono h.within, allowsSchema_mono h.contains⟩

end Connection

/-- With more permissions the connections that were eligible stay so, in their order. -/
theorem eligibleConnections_sublist (h : permissions.Within more) (connections : List Connection) :
    (eligibleConnections (some permissions) connections).Sublist
      (eligibleConnections (some more) connections) :=
  List.monotone_filter_right connections fun _ => Connection.isEligible_mono h

theorem eligibleConnections_congr (h : permissions.SameGrants more)
    (connections : List Connection) :
    eligibleConnections (some permissions) connections =
      eligibleConnections (some more) connections :=
  List.filter_congr fun _ _ => Connection.isEligible_congr h

end UploadGate
