import UploadGate.Proofs.Engine
import UploadGate.Proofs.Json.Decoded

/-! # Written connections

The JSON that connections are written as, with their members in any order, and the engines that a
connection can come to have: from a backend name, from a URI or from a document. Such a connection
is read back as it was, with the same engine, and so is eligible for the same users.
-/

namespace UploadGate

open Json.Decode (Reads Fills Keeps fills_of_reads of_set reads_bool reads_integer reads_names
  reads_record reads_string)

namespace Engine

/-- An engine is written as its backend name, and read from any name. -/
def decoder : Json.Decoder Engine := fun scan => (Json.Decode.string scan).map ofBackend

/-- The engines that can come from a backend name, a URI or a document. -/
inductive IsObtained : Engine → Prop
  | ofBackend (name : String) : IsObtained (ofBackend name)
  | ofUri (uri : String) : IsObtained (ofUri uri)
  | ofDocument {text : String} {engine : Engine} (h : Json.decode decoder text = .ok engine) :
    IsObtained engine
  | ofConnection {text : String} {connection : Connection}
    (h : Json.decode Connection.decoder text = .ok connection) : IsObtained connection.engine

theorem reads_engine {engine : Engine} (h : ofBackend engine.backend = engine) :
    Reads decoder (.string engine.backend) engine := by
  obtain ⟨scan, hscan, hfound⟩ := reads_string engine.backend
  refine ⟨scan, hscan, ?_⟩
  rw [decoder, hfound]
  exact congrArg Except.ok h

end Engine

namespace Connection

variable {connection : Connection} {value : Json.Value} {text : String}

/-! ## Engines -/

/-- The engine that a draft has is read from a backend name. -/
def Draft.IsNamed (draft : Draft) : Prop :=
  ∀ engine, draft.engine = some engine → ∃ name, engine = .ofBackend name

/-- The engine of a connection that was decoded is read from a backend name. -/
theorem exists_ofBackend_of_decode (h : Json.decode decoder text = .ok connection) :
    ∃ name, connection.engine = .ofBackend name := by
  have hkeeps : Keeps fields Draft.IsNamed := by
    intro name scan draft next hread hdraft
    unfold fields at hread
    dsimp only at hread
    split at hread
    next => exact of_set hread fun _ _ => hdraft
    next => exact of_set hread fun _ _ => hdraft
    next =>
      refine of_set hread fun name _ engine hengine => ?_
      exact ⟨name, (Option.some.inj hengine).symm⟩
    next => exact of_set hread fun _ _ => hdraft
    next => exact of_set hread fun _ _ => hdraft
    next => exact Except.ok.inj hread ▸ hdraft
  obtain ⟨draft, hdraft, hfinish⟩ :=
    hkeeps.record (by simp [Draft.IsNamed]) (Json.decode_eq_ok_iff.mp h).1
  simp only [Draft.finish, Option.bind_eq_bind, Option.bind_eq_some_iff] at hfinish
  obtain ⟨id, -, name, -, engine, hengine, flag, -, hconnection⟩ := hfinish
  rw [← Option.some.inj hconnection]
  exact hdraft engine hengine

/-- Every engine that can be obtained goes back to a backend name, and so to its own. -/
theorem ofBackend_backend_of_isObtained {engine : Engine} (h : engine.IsObtained) :
    Engine.ofBackend engine.backend = engine := by
  have hname : ∃ name, engine = .ofBackend name := by
    cases h with
    | ofBackend name => exact ⟨name, rfl⟩
    | ofUri uri => exact ⟨_, rfl⟩
    | ofDocument h =>
      have hread := (Json.decode_eq_ok_iff.mp h).1
      rw [Engine.decoder, map_eq_ok_iff] at hread
      obtain ⟨name, -, hengine⟩ := hread
      exact ⟨name, hengine.symm⟩
    | ofConnection h => exact exists_ofBackend_of_decode h
  obtain ⟨name, hengine⟩ := hname
  rw [hengine]
  exact Engine.ofBackend_backend_ofBackend name

/-! ## Connections -/

/-- The schemas are listed in ascending order. -/
def IsWrittenAs (connection : Connection) (value : Json.Value) : Prop :=
  value.IsObjectOf
    [("id", .integer connection.id), ("database_name", .string connection.name),
      ("engine", .string connection.engine.backend),
      ("allow_file_upload", .bool connection.allowsUpload),
      ("schemas_allowed_for_file_upload", .strings connection.schemas.toList)]

theorem isWrittenAs_toJson (connection : Connection) : connection.IsWrittenAs connection.toJson :=
  Json.Value.isObjectOf_ofMembers (by simp)

/-- A connection whose engine goes by its own backend name is read back from what it is written
as. -/
theorem reads_connection (hengine : Engine.ofBackend connection.engine.backend = connection.engine)
    (hid : Numeral.InRange connection.id) (h : connection.IsWrittenAs value) :
    Reads decoder value connection := by
  have hidField : Fills fields ("id", .integer connection.id) _ :=
    fills_of_reads (fun found draft => { draft with id := some found }) (reads_integer hid)
      (by decide) fun _ _ => rfl
  have hname : Fills fields ("database_name", .string connection.name) _ :=
    fills_of_reads (fun found draft => { draft with name := some found }) (reads_string _)
      (by decide) fun _ _ => rfl
  have hengineField : Fills fields ("engine", .string connection.engine.backend) _ :=
    fills_of_reads (fun found draft => { draft with engine := some found })
      (Engine.reads_engine hengine) (by decide) fun scan _ => by
        rw [Engine.decoder]
        cases hread : Json.Decode.string scan <;> simp [fields, hread, Except.map]
  have hflag : Fills fields ("allow_file_upload", .bool connection.allowsUpload) _ :=
    fills_of_reads (fun found draft => { draft with allowsUpload := some found }) (reads_bool _)
      (by decide) fun _ _ => rfl
  have hschemas : Fills fields
      ("schemas_allowed_for_file_upload", .strings connection.schemas.toList) _ :=
    fills_of_reads (fun found draft => { draft with schemas := found }) (reads_names _)
      (by decide) fun _ _ => rfl
  apply reads_record h (.cons hidField (.cons hname (.cons hengineField (.cons hflag
    (.cons hschemas .nil)))))
  · simp
  · simp
  · rfl

/-- Engines that were obtained, and connections that have them, are read back as they were. -/
theorem decode_written_eq_of_isObtained :
    (∀ name, Engine.ofBackend (Engine.ofBackend name).backend = .ofBackend name) ∧
    (∀ engine : Engine, engine.IsObtained →
      ∃ again, Json.decode Engine.decoder (Json.Value.string engine.backend).text = .ok again ∧
        again = engine ∧ again.supportsUpload = engine.supportsUpload) ∧
    ∀ connection : Connection, connection.engine.IsObtained → Numeral.InRange connection.id →
      connection.IsWrittenAs connection.toJson ∧
      ∀ value, connection.IsWrittenAs value →
        ∃ again, Json.decode decoder value.text = .ok again ∧ again = connection ∧
          ∀ snapshot, again.isEligible snapshot = connection.isEligible snapshot := by
  refine ⟨Engine.ofBackend_backend_ofBackend, fun engine hengine => ?_,
    fun connection hengine hid => ⟨isWrittenAs_toJson connection, fun value hvalue => ?_⟩⟩
  · have hreads := Engine.reads_engine (ofBackend_backend_of_isObtained hengine)
    exact ⟨engine, hreads.decode_text, rfl, rfl⟩
  · have hreads := reads_connection (ofBackend_backend_of_isObtained hengine) hid hvalue
    exact ⟨connection, hreads.decode_text, rfl, fun _ => rfl⟩

theorem isObtained_snowflake : (Engine.other "snowflake").IsObtained := by
  have huri : Engine.ofUri "SnowFlake://account" = .other "snowflake" := by decide +kernel
  have hobtained := Engine.IsObtained.ofUri "SnowFlake://account"
  rwa [huri] at hobtained

/-- A connection with an engine of its own, a negative id and quotes in its name. -/
def lakeConnection : Connection := ⟨-7, "\"Größe\" 日本", .other "snowflake", true, .ofList ["ops"]⟩

theorem decode_lakeConnection_eq :
    Engine.ofBackend (Engine.ofBackend " Postgres ").backend = .ofBackend " Postgres " ∧
    (∃ again, Json.decode Engine.decoder
        (Json.Value.string (Engine.other "snowflake").backend).text = .ok again ∧
      again = .other "snowflake" ∧
      again.supportsUpload = (Engine.other "snowflake").supportsUpload) ∧
    lakeConnection.IsWrittenAs lakeConnection.toJson ∧
    ∃ again, Json.decode decoder lakeConnection.toJson.text = .ok again ∧
      again = lakeConnection ∧ again.isEligible none = lakeConnection.isEligible none := by
  have hid : Numeral.InRange lakeConnection.id := by simp [Numeral.InRange, lakeConnection]
  obtain ⟨hnames, hengines, hconnections⟩ := decode_written_eq_of_isObtained
  obtain ⟨hwritten, hread⟩ := hconnections lakeConnection isObtained_snowflake hid
  obtain ⟨again, hagain, heq, heligible⟩ := hread lakeConnection.toJson hwritten
  exact ⟨hnames " Postgres ", hengines _ isObtained_snowflake, hwritten, again, hagain, heq,
    heligible none⟩

end Connection

end UploadGate
