import Mathlib.Tactic.Common
import UploadGate.Proofs.Number.Denotation
import UploadGate.Proofs.Outcome
import UploadGate.Registry

/-! # What a registry lists

A table lists the connections of exactly those rows that allow uploads. Their schemas are such that
a user can type them in: trimming leaves the names as they are, and none is empty. If the ids that
a registry holds are distinct, so are those of the connections that it lists.
-/

namespace UploadGate

namespace Connection

theorem mem_normalNames_iff {names : List String} {name : String} :
    name ∈ normalNames names ↔ name ≠ "" ∧ ∃ raw ∈ names, Text.trim raw = name := by
  simp [normalNames, and_comm]

/-- A connection whose id fits in 64 bits and whose schemas can be typed in. -/
structure IsTypeable (connection : Connection) : Prop where
  id : Numeral.InRange connection.id
  schemas : ∀ schema ∈ connection.schemas, Text.trim schema = schema ∧ schema ≠ ""

theorem typeable_of_mem_schemasOfExtra {extra : Option String} {schema : String}
    (h : schema ∈ schemasOfExtra extra) : Text.trim schema = schema ∧ schema ≠ "" := by
  -- A document that is missing, blank or malformed gives the empty set.
  have hnone : schema ∉ (∅ : NameSet) := NameSet.not_mem_empty schema
  unfold schemasOfExtra at h
  split at h
  next => exact absurd h hnone
  next text =>
    split at h
    next => exact absurd h hnone
    next =>
      split at h
      next names =>
        obtain ⟨hne, raw, -, rfl⟩ := mem_normalNames_iff.mp h
        exact ⟨Text.trim_trim raw, hne⟩
      next => exact absurd h hnone

end Connection

namespace Cell

variable {cell : Cell}

theorem isOne_iff : cell.isOne = true ↔ cell = .integer 1 ∨ cell = .real oneBits := by
  cases cell <;> simp [isOne]

theorem integer?_eq_some_iff {n : Int} :
    cell.integer? = some n ↔ ∃ m, cell = .integer m ∧ m.toInt = n := by
  cases cell <;> simp [integer?]

theorem text?_eq_some_iff {s : String} : cell.text? = some s ↔ cell = .text s := by
  cases cell <;> simp [text?]

/-- A cell for a text that may be missing. -/
def ofText : Option String → Cell
  | none => null
  | some s => text s

theorem optionalText?_eq_some_iff {found : Option String} :
    cell.optionalText? = some found ↔ cell = .ofText found := by
  cases found <;> cases cell <;> simp [optionalText?, ofText]

end Cell

namespace Row

variable {row : Row} {connection : Connection}

theorem connection?_eq_some_iff :
    row.connection? = some connection ↔
      ∃ id name uri extra, row.id = .integer id ∧ row.name = .text name ∧ row.uri = .text uri ∧
        row.extra = .ofText extra ∧
        connection = ⟨id.toInt, name, .ofUri uri, true, Connection.schemasOfExtra extra⟩ := by
  simp only [connection?, Option.bind_eq_bind, Option.bind_eq_some_iff, Cell.integer?_eq_some_iff,
    Cell.text?_eq_some_iff, Cell.optionalText?_eq_some_iff, Option.pure_def, Option.some.injEq]
  constructor
  · rintro ⟨_, ⟨id, hid, rfl⟩, name, hname, uri, huri, extra, hextra, rfl⟩
    exact ⟨id, name, uri, extra, hid, hname, huri, hextra, rfl⟩
  · rintro ⟨id, name, uri, extra, hid, hname, huri, hextra, rfl⟩
    exact ⟨_, ⟨id, hid, rfl⟩, name, hname, uri, huri, extra, hextra, rfl⟩

theorem integer?_id_of_connection? (h : row.connection? = some connection) :
    row.id.integer? = some connection.id := by
  obtain ⟨id, _, _, _, hid, -, -, -, rfl⟩ := connection?_eq_some_iff.mp h
  rw [hid, Cell.integer?]

/-- The id of a row that can be read has 64 bits. -/
theorem isTypeable_of_connection? (h : row.connection? = some connection) :
    connection.IsTypeable := by
  obtain ⟨id, _, _, _, -, -, -, -, rfl⟩ := connection?_eq_some_iff.mp h
  have hrange : Numeral.InRange id.toInt := by
    have hleast := id.le_toInt
    have hgreatest := id.toInt_lt
    rw [Numeral.InRange]
    omega
  exact ⟨hrange, fun schema hschema => Connection.typeable_of_mem_schemasOfExtra hschema⟩

end Row

namespace Registry

variable {rows : List Row} {listed : List Connection} {connection : Connection} {complaint : String}

/-- The rows are read one by one, and all of them can be read. -/
theorem mem_iff_of_mapM_connection? (h : rows.mapM Row.connection? = some listed) :
    connection ∈ listed ↔ ∃ row ∈ rows, row.connection? = some connection := by
  have hread := mapM_eq_some_iff_forall₂.mp h
  clear h
  induction hread with
  | nil => simp
  | cons hfirst _ ih => simp [ih, hfirst, eq_comm]

/-- What a table lists are the connections of all rows that allow uploads, put in order. -/
theorem exists_mapM_of_uploadAllowed_table
    (h : (table (some rows) complaint).uploadAllowed = .ok listed) :
    ∃ found, (rows.filter Row.allowsUpload).mapM Row.connection? = some found ∧
      found.mergeSort Connection.before = listed := by
  rw [uploadAllowed] at h
  split at h
  next found hfound => exact ⟨found, hfound, Except.ok.inj h⟩
  next => exact absurd h (by simp)

theorem mem_uploadAllowed_table (h : (table (some rows) complaint).uploadAllowed = .ok listed) :
    connection ∈ listed ↔
      ∃ row ∈ rows, row.allowsUpload = true ∧ row.connection? = some connection := by
  obtain ⟨found, hfound, rfl⟩ := exists_mapM_of_uploadAllowed_table h
  rw [List.mem_mergeSort, mem_iff_of_mapM_connection? hfound]
  simp only [List.mem_filter, and_assoc]

/-- All connections of a table are typeable. -/
theorem isTypeable_of_mem_uploadAllowed_table
    (h : (table (some rows) complaint).uploadAllowed = .ok listed) (hmem : connection ∈ listed) :
    connection.IsTypeable := by
  obtain ⟨row, -, -, hconnection⟩ := (mem_uploadAllowed_table h).mp hmem
  exact Row.isTypeable_of_connection? hconnection

/-! ## Ids -/

/-- The ids in a registry, whether or not it lists their connections. -/
def ids : Registry → List Int
  | connections list => list.map Connection.id
  | table rows _ => (rows.getD []).filterMap fun row => row.id.integer?

/-- No two connections that a registry lists share an id. -/
def ListsDistinctIds (registry : Registry) : Prop :=
  ∀ listed, registry.uploadAllowed = .ok listed → (listed.map Connection.id).Nodup

theorem map_id_of_mapM_connection? (h : rows.mapM Row.connection? = some listed) :
    listed.map Connection.id = rows.filterMap fun row => row.id.integer? := by
  have hread := mapM_eq_some_iff_forall₂.mp h
  clear h
  induction hread with
  | nil => rfl
  | cons hfirst _ ih =>
    simp only [List.map_cons, List.filterMap_cons, Row.integer?_id_of_connection? hfirst, ih]

theorem listsDistinctIds_of_nodup_ids {registry : Registry} (hdistinct : registry.ids.Nodup) :
    registry.ListsDistinctIds := by
  intro listed h
  cases registry with
  | connections list =>
    obtain rfl := Except.ok.inj h
    exact hdistinct.sublist (List.filter_sublist.map Connection.id)
  | table rows complaint =>
    cases rows with
    | none => exact absurd h (by simp [uploadAllowed])
    | some rows =>
      obtain ⟨found, hfound, rfl⟩ := exists_mapM_of_uploadAllowed_table h
      -- Sorting the connections permutes their ids, which are those of the rows that are read.
      have hids := (List.mergeSort_perm found Connection.before).map Connection.id
      rw [hids.nodup_iff, map_id_of_mapM_connection? hfound]
      exact hdistinct.sublist (List.filter_sublist.filterMap _)

end Registry

end UploadGate
