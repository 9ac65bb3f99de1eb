import Mathlib.Data.List.Nodup
import Mathlib.Data.List.Perm.Basic
import Mathlib.Data.Prod.Lex
import UploadGate.Proofs.Registry
import UploadGate.Proofs.Text.Bytes
import UploadGate.Service

/-! # The order of a listing

A table lists the rows that allow uploads, each once and no other row, by the bytes of their names
and then by their ids. If no two rows share name and id, this leaves nothing open, so that the list
does not depend on the order in which the rows were put in. One row that allows uploads and cannot
be read as a connection spoils the whole listing, be it that it lacks its name, its address or its
id, or that a column holds something of another kind; a row that does not allow uploads never does.
-/

namespace UploadGate

namespace Connection

variable {first second : Connection}

/-- What connections are sorted by. -/
def key (connection : Connection) : String ×ₗ Int := toLex (connection.name, connection.id)

theorem before_iff_key_le : before first second = true ↔ first.key ≤ second.key := by
  simp only [before, key, Prod.Lex.le_iff, ofLex_toLex, Bool.or_eq_true, Bool.and_eq_true,
    decide_eq_true_eq]

theorem pairwise_key_mergeSort (list : List Connection) :
    (list.mergeSort before).Pairwise fun first second => first.key ≤ second.key := by
  have htrans : ∀ first second third : Connection, before first second = true →
      before second third = true → before first third = true := by
    intro first second third
    rw [before_iff_key_le, before_iff_key_le, before_iff_key_le]
    exact le_trans
  have htotal : ∀ first second, (before first second || before second first) = true := by
    intro first second
    rw [Bool.or_eq_true, before_iff_key_le, before_iff_key_le]
    exact le_total first.key second.key
  exact (List.pairwise_mergeSort htrans htotal list).imp before_iff_key_le.mp

end Connection

namespace Row

variable {row : Row} {connection : Connection}

/-- The flag of a row holds the number one. -/
def IsFlagged (row : Row) : Prop := row.flag = .integer 1 ∨ row.flag = .real Cell.oneBits

instance : DecidablePred IsFlagged := fun _ => inferInstanceAs (Decidable (_ ∨ _))

theorem allowsUpload_eq_decide : row.allowsUpload = decide row.IsFlagged := by
  rw [Bool.eq_iff_iff, decide_eq_true_iff, allowsUpload, Cell.isOne_iff, IsFlagged]

/-- Every column of a row holds what a connection has there. Only the extra document may be
missing. -/
structure IsReadable (row : Row) : Prop where
  id : ∃ id, row.id = .integer id
  name : ∃ name, row.name = .text name
  uri : ∃ uri, row.uri = .text uri
  extra : row.extra = .null ∨ ∃ text, row.extra = .text text

/-- A row allows uploads, but some column of it holds what no connection has there. -/
def Spoils (row : Row) : Prop := row.IsFlagged ∧ ¬ row.IsReadable

/-- The connection that a row is listed as. -/
structure IsListedAs (row : Row) (connection : Connection) : Prop where
  id : ∃ id, row.id = .integer id ∧ connection.id = id.toInt
  name : row.name = .text connection.name
  engine : ∃ uri, row.uri = .text uri ∧ connection.engine = .ofUri uri
  allowsUpload : connection.allowsUpload = true
  schemas : ∃ extra, row.extra = .ofText extra ∧
    connection.schemas = Connection.schemasOfExtra extra

theorem isListedAs_iff : row.IsListedAs connection ↔ row.connection? = some connection := by
  rw [connection?_eq_some_iff]
  constructor
  · rintro ⟨⟨id, hid, hidentical⟩, hname, ⟨uri, huri, hengine⟩, hallows, ⟨extra, hextra, hschemas⟩⟩
    obtain ⟨_, name, engine, allows, schemas⟩ := connection
    refine ⟨id, name, uri, extra, hid, hname, huri, hextra, ?_⟩
    rw [Connection.mk.injEq]
    exact ⟨hidentical, rfl, hengine, hallows, hschemas⟩
  · rintro ⟨id, name, uri, extra, hid, hname, huri, hextra, rfl⟩
    exact
      { id := ⟨id, hid, rfl⟩
        name := hname
        engine := ⟨uri, huri, by dsimp only⟩
        allowsUpload := rfl
        schemas := ⟨extra, hextra, by dsimp only⟩ }

theorem exists_ofText_iff {cell : Cell} :
    (∃ extra, cell = .ofText extra) ↔ cell = .null ∨ ∃ text, cell = .text text := by
  simp [Option.exists, Cell.ofText]

theorem exists_connection?_iff : (∃ found, row.connection? = some found) ↔ row.IsReadable := by
  simp only [connection?_eq_some_iff]
  constructor
  · rintro ⟨_, id, name, uri, extra, hid, hname, huri, hextra, -⟩
    exact ⟨⟨id, hid⟩, ⟨name, hname⟩, ⟨uri, huri⟩, exists_ofText_iff.mp ⟨extra, hextra⟩⟩
  · rintro ⟨⟨id, hid⟩, ⟨name, hname⟩, ⟨uri, huri⟩, hextra⟩
    obtain ⟨extra, hextra⟩ := exists_ofText_iff.mpr hextra
    exact ⟨_, id, name, uri, extra, hid, hname, huri, hextra, rfl⟩

theorem connection?_eq_none_iff : row.connection? = none ↔ ¬ row.IsReadable := by
  rw [← exists_connection?_iff, Option.eq_none_iff_forall_ne_some, not_exists]

end Row

namespace Registry

variable {rows other : List Row} {listed listed' : List Connection} {complaint : String}

/-- Rows that allow uploads are the same in everything if they have one name and one id. -/
def ToldApart (rows : List Row) : Prop :=
  ∀ row ∈ rows.filter (·.IsFlagged), ∀ other ∈ rows.filter (·.IsFlagged),
    ∀ name, row.name = .text name → other.name = .text name → row.id = other.id → row = other

/-- The rows that allow uploads are listed, each once, by the bytes of their names and by their ids
where the names are the same. -/
structure Lists (rows : List Row) (listed : List Connection) : Prop where
  selected : ∃ selected : List Row, selected.Perm (rows.filter (·.IsFlagged)) ∧
    List.Forall₂ Row.IsListedAs selected listed
  sorted : listed.Pairwise fun first second =>
    Text.utf8 first.name < Text.utf8 second.name ∨
      first.name = second.name ∧ first.id ≤ second.id

theorem filter_allowsUpload : rows.filter Row.allowsUpload = rows.filter (·.IsFlagged) :=
  List.filter_congr fun _ _ => Row.allowsUpload_eq_decide

theorem lists_iff :
    Lists rows listed ↔
      (∃ found, (rows.filter Row.allowsUpload).mapM Row.connection? = some found ∧
        found.Perm listed) ∧
      listed.Pairwise fun first second => first.key ≤ second.key := by
  have hselected : (∃ selected : List Row, selected.Perm (rows.filter (·.IsFlagged)) ∧
        List.Forall₂ Row.IsListedAs selected listed) ↔
      ∃ found, List.Forall₂ Row.IsListedAs (rows.filter (·.IsFlagged)) found ∧
        found.Perm listed := by
    have hswap := congrFun (congrFun
      (List.forall₂_comp_perm_eq_perm_comp_forall₂ (r := Row.IsListedAs))
      (rows.filter (·.IsFlagged))) listed
    simp only [Relation.Comp, eq_iff_iff] at hswap
    rw [hswap]
    simp only [List.perm_comm]
  have hsorted : (listed.Pairwise fun first second =>
        Text.utf8 first.name < Text.utf8 second.name ∨
          first.name = second.name ∧ first.id ≤ second.id) ↔
      listed.Pairwise fun first second => first.key ≤ second.key := by
    simp only [Connection.key, Prod.Lex.le_iff, ofLex_toLex, Text.utf8_lt_utf8_iff]
  simp only [mapM_eq_some_iff_forall₂, ← Row.isListedAs_iff, ← hsorted, filter_allowsUpload,
    ← hselected]
  exact ⟨fun h => ⟨h.selected, h.sorted⟩, fun h => ⟨h.1, h.2⟩⟩

theorem lists_of_uploadAllowed_table
    (h : (table (some rows) complaint).uploadAllowed = .ok listed) : Lists rows listed := by
  obtain ⟨found, hfound, rfl⟩ := exists_mapM_of_uploadAllowed_table h
  exact lists_iff.mpr ⟨⟨found, hfound, (List.mergeSort_perm found Connection.before).symm⟩,
    Connection.pairwise_key_mergeSort found⟩

/-- A table has one fault, with what its database says. -/
theorem fault_eq_of_uploadAllowed_table {fault : Fault}
    (h : (table (some rows) complaint).uploadAllowed = .error fault) :
    fault = ⟨complaint⟩ := by
  rw [uploadAllowed] at h
  split at h
  next => exact absurd h (by simp)
  next => exact (Except.error.inj h).symm

theorem uploadAllowed_table_eq_error_iff :
    (table (some rows) complaint).uploadAllowed = .error ⟨complaint⟩ ↔
      ∃ row ∈ rows, row.Spoils := by
  have hspoils : (∃ row ∈ rows, row.Spoils) ↔
      (rows.filter Row.allowsUpload).mapM Row.connection? = none := by
    simp only [filter_allowsUpload, mapM_eq_none_iff, Row.connection?_eq_none_iff, List.mem_filter,
      decide_eq_true_eq, Row.Spoils, and_assoc]
  rw [hspoils, uploadAllowed]
  cases (rows.filter Row.allowsUpload).mapM Row.connection? <;> simp

theorem Lists.exists_row (h : Lists rows listed) {connection : Connection}
    (hmem : connection ∈ listed) :
    ∃ row ∈ rows.filter (·.IsFlagged), row.IsListedAs connection := by
  obtain ⟨⟨found, hfound, hperm⟩, -⟩ := lists_iff.mp h
  rw [← hperm.mem_iff, mem_iff_of_mapM_connection? hfound, filter_allowsUpload] at hmem
  obtain ⟨row, hrow, hconnection⟩ := hmem
  exact ⟨row, hrow, Row.isListedAs_iff.mpr hconnection⟩

/-- Where rows are told apart by name and id, the order leaves nothing open. -/
theorem Lists.unique (h : Lists rows listed) (h' : Lists rows listed') (hrows : ToldApart rows) :
    listed = listed' := by
  obtain ⟨⟨found, hfound, hperm⟩, hsorted⟩ := lists_iff.mp h
  obtain ⟨⟨found', hfound', hperm'⟩, hsorted'⟩ := lists_iff.mp h'
  obtain rfl : found = found' := Option.some.inj (hfound.symm.trans hfound')
  refine List.Perm.eq_of_pairwise ?_ hsorted hsorted' (hperm.symm.trans hperm')
  intro first second hfirst hsecond hle hge
  obtain ⟨row, hrow, hlisted⟩ := h.exists_row hfirst
  obtain ⟨row', hrow', hlisted'⟩ := h'.exists_row hsecond
  have hkey : first.key = second.key := le_antisymm hle hge
  simp only [Connection.key, toLex_inj, Prod.mk.injEq] at hkey
  have hsame : row = row' := by
    refine hrows row hrow row' hrow' second.name ?_ hlisted'.name ?_
    · rw [hlisted.name, hkey.1]
    · obtain ⟨id, hid, hfirstId⟩ := hlisted.id
      obtain ⟨id', hid', hsecondId⟩ := hlisted'.id
      rw [hfirstId, hsecondId, Int64.toInt_inj] at hkey
      rw [hid, hid', hkey.2]
  rw [hsame, Row.isListedAs_iff] at hlisted
  rw [Row.isListedAs_iff, hlisted] at hlisted'
  exact Option.some.inj hlisted'

theorem exists_uploadAllowed_table_iff :
    (∃ listed, (table (some rows) complaint).uploadAllowed = .ok listed) ↔
      ∀ row ∈ rows, ¬ row.Spoils := by
  have hfails := @uploadAllowed_table_eq_error_iff rows complaint
  cases h : (table (some rows) complaint).uploadAllowed with
  | ok listed => simpa [h] using hfails
  | error fault =>
    obtain rfl := fault_eq_of_uploadAllowed_table h
    simpa using hfails.mp h

/-- The table lists what stands in the order of a listing, and nothing else does. -/
theorem uploadAllowed_table_eq_ok_iff (hrows : ToldApart rows) :
    (table (some rows) complaint).uploadAllowed = .ok listed ↔ Lists rows listed := by
  refine ⟨lists_of_uploadAllowed_table, fun h => ?_⟩
  obtain ⟨⟨found, hfound, -⟩, -⟩ := lists_iff.mp h
  have hlisted : (table (some rows) complaint).uploadAllowed =
      .ok (found.mergeSort Connection.before) := by
    rw [uploadAllowed, hfound]
  rw [hlisted, (lists_of_uploadAllowed_table hlisted).unique h hrows]

/-- The order of the rows makes no difference, nor do rows that allow no uploads. -/
theorem uploadAllowed_table_of_perm (hrows : ToldApart rows)
    (hperm : (other.filter (·.IsFlagged)).Perm (rows.filter (·.IsFlagged))) :
    (table (some other) complaint).uploadAllowed = (table (some rows) complaint).uploadAllowed := by
  cases hother : (table (some other) complaint).uploadAllowed with
  | ok listed =>
    obtain ⟨⟨selected, hselected, hforall⟩, hsorted⟩ := lists_of_uploadAllowed_table hother
    have hlists : Lists rows listed := ⟨⟨selected, hselected.trans hperm, hforall⟩, hsorted⟩
    exact ((uploadAllowed_table_eq_ok_iff hrows).mpr hlists).symm
  | error fault =>
    obtain rfl := fault_eq_of_uploadAllowed_table hother
    have hselected : ∀ rows : List Row, (∃ row ∈ rows, row.Spoils) ↔
        ∃ row ∈ rows.filter (·.IsFlagged), ¬ row.IsReadable := by
      simp [Row.Spoils, and_assoc]
    rw [uploadAllowed_table_eq_error_iff, hselected] at hother
    simp only [hperm.mem_iff] at hother
    rw [← hselected, ← uploadAllowed_table_eq_error_iff] at hother
    exact hother.symm

/-- Listing fails with the error of a query, which ends in what the database says. -/
def FailsToQuery (registry : Registry) (complaint : String) : Prop :=
  ∃ fault, registry.uploadAllowed = .error fault ∧
    (UploadService.Refusal.registry fault).toError =
      .databaseQuery ("Failed to list upload databases: " ++ complaint)

theorem failsToQuery_iff {registry : Registry} :
    registry.FailsToQuery complaint ↔ registry.uploadAllowed = .error ⟨complaint⟩ := by
  constructor
  · rintro ⟨⟨said⟩, h, herror⟩
    have hmessage : Fault.message ⟨said⟩ = "Failed to list upload databases: " ++ complaint :=
      ServiceError.databaseQuery.inj herror
    obtain rfl : said = complaint := (String.append_right_inj _).mp hmessage
    exact h
  · intro h
    exact ⟨⟨complaint⟩, h, rfl⟩

theorem uploadAllowed_connections_of_lists (h : Lists rows listed) :
    (connections listed).uploadAllowed = .ok listed := by
  have hallows : ∀ connection ∈ listed, connection.allowsUpload = true := by
    intro connection hmem
    obtain ⟨row, -, hrow⟩ := h.exists_row hmem
    exact hrow.allowsUpload
  rw [uploadAllowed, List.filter_eq_self.mpr hallows]

/-- The query fails if there is no table, or if a row that allows uploads cannot be read. Otherwise
the connections of the rows that allow uploads are listed in their order, and the order in which the
rows were put in has no say, nor have the other rows. A registry that holds the same connections
lists them too. -/
theorem uploadAllowed_table_iff_lists (complaint : String) (hrows : ToldApart rows) :
    (table none complaint).FailsToQuery complaint ∧
    ((table (some rows) complaint).FailsToQuery complaint ↔ ∃ row ∈ rows, row.Spoils) ∧
    ((∃ listed, (table (some rows) complaint).uploadAllowed = .ok listed) ↔
      ∀ row ∈ rows, ¬ row.Spoils) ∧
    (∀ listed, (table (some rows) complaint).uploadAllowed = .ok listed ↔ Lists rows listed) ∧
    (∀ other, (other.filter (·.IsFlagged)).Perm (rows.filter (·.IsFlagged)) →
      (table (some other) complaint).uploadAllowed =
        (table (some rows) complaint).uploadAllowed) ∧
    ∀ listed, Lists rows listed → (connections listed).uploadAllowed = .ok listed :=
  ⟨failsToQuery_iff.mpr rfl, failsToQuery_iff.trans uploadAllowed_table_eq_error_iff,
    exists_uploadAllowed_table_iff, fun _ => uploadAllowed_table_eq_ok_iff hrows,
    fun _ => uploadAllowed_table_of_perm hrows, fun _ => uploadAllowed_connections_of_lists⟩

/-- Four rows out of order, of which two are not for uploads and hold what no connection has. -/
def shuffledRows : List Row :=
  [⟨.integer 4, .text "marts", .text "trino://trino/hive", .integer 1, .text "\x7b\x7d"⟩,
    ⟨.null, .null, .text "mysql://etl@mysql/archive", .null, .blob [0xff]⟩,
    ⟨.text "five", .brokenText [0xff], .null, .integer 0, .null⟩,
    ⟨.integer 3, .text "analytics", .text "clickhousedb://default@ch/analytics",
      .real Cell.oneBits, .null⟩]

theorem shuffledRows_uploadAllowed :
    ToldApart shuffledRows ∧ ∃ listed,
      (table (some shuffledRows) "no such table: dbs").uploadAllowed = .ok listed ∧
      Lists shuffledRows listed ∧
      (table (some shuffledRows.reverse) "no such table: dbs").uploadAllowed = .ok listed := by
  have hrows : ToldApart shuffledRows := by
    intro row hrow other hother name hname hname' hid
    have hdistinct : ((shuffledRows.filter (·.IsFlagged)).map Row.id).Nodup := by decide
    exact List.inj_on_of_nodup_map hdistinct hrow hother hid
  obtain ⟨-, -, hlisted, hlists, hperm, -⟩ :=
    uploadAllowed_table_iff_lists "no such table: dbs" hrows
  have hreadable : ∀ row ∈ shuffledRows, ¬ row.Spoils := by
    simp only [shuffledRows, List.forall_mem_cons, Row.Spoils, not_and, not_not]
    refine ⟨fun _ => ⟨⟨_, rfl⟩, ⟨_, rfl⟩, ⟨_, rfl⟩, .inr ⟨_, rfl⟩⟩, fun h => absurd h (by decide),
      fun h => absurd h (by decide), fun _ => ⟨⟨_, rfl⟩, ⟨_, rfl⟩, ⟨_, rfl⟩, .inl rfl⟩, by simp⟩
  obtain ⟨listed, h⟩ := hlisted.mpr hreadable
  refine ⟨hrows, listed, h, (hlists listed).mp h, ?_⟩
  rw [hperm _ ((List.reverse_perm shuffledRows).filter _), h]

/-- A row for uploads with a name and an address, but without an id. -/
def unnumberedRow : Row :=
  ⟨.null, .text "warehouse", .text "postgresql://localhost/warehouse", .integer 1, .null⟩

/-- A name and an address do not make a row that can be listed. -/
theorem unnumbered_row_fails_to_query :
    ¬ ∀ (rows : List Row) (complaint : String), ToldApart rows →
      ((table (some rows) complaint).FailsToQuery complaint ↔
        ∃ row ∈ rows, row.IsFlagged ∧ (row.name = .null ∨ row.uri = .null)) := by
  intro hlacks
  have hrows : ToldApart [unnumberedRow] := by
    intro row hrow other hother _ _ _ _
    have honly : ∀ row ∈ [unnumberedRow].filter (·.IsFlagged), row = unnumberedRow := by decide
    rw [honly row hrow, honly other hother]
  have hspoils : unnumberedRow.Spoils := by
    refine ⟨by decide, fun hreadable => ?_⟩
    obtain ⟨id, hid⟩ := hreadable.id
    exact absurd hid (by simp [unnumberedRow])
  have hfails : (table (some [unnumberedRow]) "").FailsToQuery "" :=
    failsToQuery_iff.mpr
      (uploadAllowed_table_eq_error_iff.mpr ⟨_, List.mem_singleton_self _, hspoils⟩)
  have hlacking := (hlacks [unnumberedRow] "" hrows).mp hfails
  exact absurd hlacking (by decide)

end Registry

end UploadGate
