import Mathlib.Tactic.Common
import UploadGate.Eligibility

/-! # What the checks of eligibility ask for

The grants of a snapshot as propositions, and each check as the condition on grants, flag, engine
and schemas that it decides. Without a snapshot no check succeeds.
-/

namespace UploadGate

namespace NameSet

theorem isEmpty_iff {names : NameSet} : names.isEmpty = true ↔ names = ∅ := by
  obtain ⟨list, ascending⟩ := names
  simp [isEmpty, EmptyCollection.emptyCollection, empty]

theorem eq_empty_iff {names : NameSet} : names = ∅ ↔ ∀ name, name ∉ names := by
  rw [← isEmpty_iff]
  simp [isEmpty, mem_def, List.eq_nil_iff_forall_not_mem]

theorem exists_mem_of_ne_empty {names : NameSet} (h : names ≠ ∅) : ∃ name, name ∈ names := by
  by_contra hnone
  exact h (eq_empty_iff.mpr fun name hname => hnone ⟨name, hname⟩)

theorem ne_empty_of_mem {names : NameSet} {name : String} (h : name ∈ names) : names ≠ ∅ :=
  fun heq => eq_empty_iff.mp heq name h

end NameSet

namespace Permissions

variable {permissions : Permissions} {connection : Connection}

/-- Full access to a database, by a flag or by its name. -/
def GrantsDatabase (permissions : Permissions) (database : String) : Prop :=
  permissions.allTables = true ∨ permissions.allDatabases = true ∨ database ∈ permissions.databases

/-- A grant for a schema of a database: one for the schema itself, or one for a table that is known
to lie in it. -/
def GrantsSchema (permissions : Permissions) (database schema : String) : Prop :=
  ⟨database, schema⟩ ∈ permissions.schemaGrants ∨
    ∃ table, ⟨database, some schema, table⟩ ∈ permissions.tableGrants

theorem hasFullAccess_iff :
    permissions.hasFullAccess connection = true ↔ permissions.GrantsDatabase connection.name := by
  simp [hasFullAccess, GrantsDatabase, or_assoc]

theorem mem_grantedSchemas {database schema : String} :
    schema ∈ permissions.grantedSchemas database ↔ permissions.GrantsSchema database schema := by
  simp only [grantedSchemas, GrantsSchema, List.mem_append, List.mem_map, List.mem_filterMap,
    List.mem_filter, decide_eq_true_eq]
  constructor
  · rintro (⟨⟨_, _⟩, ⟨hmem, rfl⟩, rfl⟩ | ⟨⟨_, _, table⟩, ⟨hmem, rfl⟩, rfl⟩)
    · exact Or.inl hmem
    · exact Or.inr ⟨table, hmem⟩
  · rintro (hmem | ⟨table, hmem⟩)
    · exact Or.inl ⟨_, ⟨hmem, rfl⟩, rfl⟩
    · exact Or.inr ⟨_, ⟨hmem, rfl⟩, rfl⟩

/-- A user may access those of the schemas for which he has a grant, or all with full access. -/
theorem mem_accessibleSchemas {schemas : NameSet} {schema : String} :
    schema ∈ permissions.accessibleSchemas connection schemas ↔
      schema ∈ schemas ∧ (permissions.GrantsDatabase connection.name ∨
        permissions.GrantsSchema connection.name schema) := by
  rw [accessibleSchemas, ← hasFullAccess_iff]
  split
  next hfull => simp [hfull]
  next hfull => simp [hfull, mem_grantedSchemas, and_comm]

theorem accessibleSchemas_ne_empty_iff {schemas : NameSet}
    (hlimited : ¬ permissions.GrantsDatabase connection.name) :
    permissions.accessibleSchemas connection schemas ≠ ∅ ↔
      ∃ schema ∈ schemas, permissions.GrantsSchema connection.name schema := by
  constructor
  · intro h
    obtain ⟨schema, hschema⟩ := NameSet.exists_mem_of_ne_empty h
    obtain ⟨hmem, hgrant⟩ := mem_accessibleSchemas.mp hschema
    exact ⟨schema, hmem, hgrant.resolve_left hlimited⟩
  · rintro ⟨schema, hmem, hgrant⟩
    exact NameSet.ne_empty_of_mem (mem_accessibleSchemas.mpr ⟨hmem, Or.inr hgrant⟩)

/-- The empty snapshot grants no database. -/
theorem not_grantsDatabase_none (user database : String) :
    ¬ (none user).GrantsDatabase database := by
  simp [GrantsDatabase, none]

theorem not_grantsSchema_none (user database schema : String) :
    ¬ (none user).GrantsSchema database schema := by
  simp [GrantsSchema, none]

end Permissions

namespace Connection

variable {snapshot : Option Permissions} {permissions : Permissions} {connection : Connection}

/-- Access to a connection: full access, or a grant for one of the schemas to which its uploads are
restricted. -/
def OpenTo (connection : Connection) (permissions : Permissions) : Prop :=
  permissions.GrantsDatabase connection.name ∨
    ∃ schema ∈ connection.schemas, permissions.GrantsSchema connection.name schema

theorem engineAllowsUpload_iff :
    connection.engineAllowsUpload = true ↔
      connection.engine ≠ .gsheets ∧ connection.engine ≠ .clickHouse := by
  rw [engineAllowsUpload]
  cases connection.engine <;> simp [Engine.supportsUpload]

theorem offersSchema_iff :
    connection.offersSchema (some permissions) = true ↔ connection.OpenTo permissions := by
  by_cases hfull : permissions.GrantsDatabase connection.name
  · have hbool : permissions.hasFullAccess connection = true :=
      Permissions.hasFullAccess_iff.mpr hfull
    simp [offersSchema, OpenTo, hasFullAccess, hbool, hfull]
  · have hbool : permissions.hasFullAccess connection = false :=
      Bool.eq_false_iff.mpr (Permissions.hasFullAccess_iff.not.mpr hfull)
    have hopen : connection.OpenTo permissions ↔
        ∃ schema ∈ connection.schemas, permissions.GrantsSchema connection.name schema :=
      or_iff_right hfull
    have hoffers : connection.offersSchema (some permissions) = true ↔
        connection.schemas ≠ ∅ ∧
          permissions.accessibleSchemas connection connection.schemas ≠ ∅ := by
      simp [offersSchema, hasFullAccess, hbool, accessibleSchemas, ← NameSet.isEmpty_iff]
    rw [hopen, hoffers, Permissions.accessibleSchemas_ne_empty_iff hfull]
    constructor
    · exact And.right
    · rintro ⟨schema, hmem, hgrant⟩
      exact ⟨NameSet.ne_empty_of_mem hmem, schema, hmem, hgrant⟩

/-- Without a snapshot a connection offers no schema. -/
theorem offersSchema_none : connection.offersSchema none = false := by
  simp [offersSchema, hasFullAccess, accessibleSchemas, NameSet.isEmpty_iff]

/-- A connection is eligible if its flag and its engine allow uploads and it is open to the user. -/
theorem isEligible_iff :
    connection.isEligible (some permissions) = true ↔
      connection.allowsUpload = true ∧
        (connection.engine ≠ .gsheets ∧ connection.engine ≠ .clickHouse) ∧
        connection.OpenTo permissions := by
  rw [isEligible, Bool.and_eq_true, Bool.and_eq_true, engineAllowsUpload_iff, offersSchema_iff,
    and_assoc]

/-- An upload may go into one of the restricted schemas, or anywhere with full access if there is
no restriction. -/
theorem allowsSchema_iff {schema : Option String} :
    connection.allowsSchema (some permissions) schema = true ↔
      connection.allowsUpload = true ∧
        (connection.schemas = ∅ ∧ permissions.GrantsDatabase connection.name ∨
          ∃ name ∈ connection.schemas, schema = some name) := by
  rw [allowsSchema, Bool.and_eq_true]
  apply and_congr_right'
  split
  next hempty =>
    rw [NameSet.isEmpty_iff] at hempty
    simp [hempty, hasFullAccess, Permissions.hasFullAccess_iff]
  next hempty =>
    rw [NameSet.isEmpty_iff] at hempty
    simp [hempty, Option.any_eq_true, and_comm]

end Connection

end UploadGate
