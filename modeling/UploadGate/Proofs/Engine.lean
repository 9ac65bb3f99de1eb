import Mathlib.Tactic.SplitIfs
import UploadGate.Proofs.Service.Offer
import UploadGate.Proofs.Text.Lowercase

/-! # Engines and their names

The engine of a connection URI is that of the backend name in it, whatever the driver is called and
whatever comes behind, so that an engine that takes no uploads never passes for an unknown one. The
backend name of an engine leads back to the engine: white space, letter case and second names do
not outlast the first reading.
-/

namespace UploadGate

namespace Text

/-- The lower-case form of a trimmed text is trimmed. -/
theorem trim_lower_trim (s : String) : trim (lower (trim s)) = lower (trim s) := by
  rw [trim, toList_lower, toList_trim]
  have htrimmed : strip isBlank (strip isBlank s.toList) = strip isBlank s.toList := strip_strip
  obtain ⟨hhead, hlast⟩ := strip_eq_self_iff.mp htrimmed
  have hstrip : strip isBlank (lowerAfter [] (strip isBlank s.toList)) =
      lowerAfter [] (strip isBlank s.toList) := by
    refine strip_eq_self_iff.mpr ⟨fun c hc => ?_, fun c hc => ?_⟩
    · by_contra hblank
      have hcaseless := isCaseless_of_isBlank (Bool.of_not_eq_false hblank)
      exact hblank (hhead c ((head?_lowerAfter_eq_some_iff hcaseless).mp hc))
    · by_contra hblank
      have hcaseless := isCaseless_of_isBlank (Bool.of_not_eq_false hblank)
      exact hblank (hlast c (getLast?_of_getLast?_lowerAfter hcaseless hc))
  rw [hstrip, ← toList_trim, ← toList_lower, String.ofList_toList]

end Text

namespace Engine

variable {backend driver rest uri : String}

/-! ## Backend names -/

/-- A normal name stands for an engine of its own, or for a known engine, whose backend name leads
back to it. -/
theorem ofNormalName_cases (name : String) :
    ofNormalName name = other name ∨
      ofBackend (ofNormalName name).backend = ofNormalName name := by
  unfold ofNormalName
  split_ifs
  all_goals first
    | exact .inl rfl
    | exact .inr (by decide +kernel)

/-- The backend name of an engine that was read from a name is read as that engine again. -/
theorem ofBackend_backend_ofBackend (name : String) :
    ofBackend (ofBackend name).backend = ofBackend name := by
  have hfixed : Text.lower (Text.trim (Text.lower (Text.trim name))) =
      Text.lower (Text.trim name) := by
    rw [Text.trim_lower_trim, Text.lower_lower]
  change ofBackend (ofNormalName _).backend = ofNormalName _
  rcases ofNormalName_cases (Text.lower (Text.trim name)) with hother | hsame
  · rw [hother, backend, ofBackend, hfixed, hother]
  · exact hsame

/-! ## Addresses -/

/-- A name that can stand before the driver and the address of a URI. -/
structure IsBackendName (backend : String) : Prop where
  plus : '+' ∉ backend.toList
  mark : ¬ "://".toList <:+: backend.toList

/-- The URIs with a given backend name. The driver may hold further plus signs, and what comes
behind anything. -/
inductive IsUriOf (backend : String) : String → Prop
  | plain (rest : String) : IsUriOf backend (backend ++ "://" ++ rest)
  | driven {driver : String} (rest : String) (h : ¬ "://".toList <:+: driver.toList) :
    IsUriOf backend (backend ++ "+" ++ driver ++ "://" ++ rest)

/-- The address starts at the first mark. -/
theorem before_mark {front : List Char} (rest : List Char) (h : ¬ "://".toList <:+: front) :
    Text.before [':', '/', '/'] (front ++ "://".toList ++ rest) = front := by
  rw [List.append_assoc]
  exact Text.before_append (by decide) h

theorem before_plus {front : List Char} (rest : List Char) (h : '+' ∉ front) :
    Text.before ['+'] (front ++ "+".toList ++ rest) = front := by
  rw [List.append_assoc]
  exact Text.before_append List.not_mem_nil fun hin => h (hin.subset List.mem_cons_self)

theorem ofUri_plain (hbackend : IsBackendName backend) :
    ofUri (backend ++ "://" ++ rest) = ofBackend backend := by
  have hplus : Text.before ['+'] backend.toList = backend.toList :=
    Text.before_eq_self_of_not_infix fun hin => hbackend.plus (hin.subset List.mem_cons_self)
  rw [ofUri, String.toList_append, String.toList_append, before_mark _ hbackend.mark, hplus,
    String.ofList_toList]

theorem ofUri_driven (hbackend : IsBackendName backend)
    (hdriver : ¬ "://".toList <:+: driver.toList) :
    ofUri (backend ++ "+" ++ driver ++ "://" ++ rest) = ofBackend backend := by
  -- The mark cannot reach over the plus sign.
  have hmark : ¬ "://".toList <:+: backend.toList ++ "+".toList ++ driver.toList := by
    intro hin
    rw [List.append_assoc] at hin
    rcases Text.infix_or_infix_of_append_cons (by decide) hin with hin | hin
    · exact hbackend.mark hin
    · exact hdriver hin
  rw [ofUri]
  simp only [String.toList_append]
  rw [before_mark _ hmark, before_plus _ hbackend.plus, String.ofList_toList]

/-- The engine of a URI is the engine of its backend name. -/
theorem ofUri_of_isUriOf (hbackend : IsBackendName backend) (h : IsUriOf backend uri) :
    ofUri uri = ofBackend backend := by
  cases h with
  | plain => exact ofUri_plain hbackend
  | driven _ hdriver => exact ofUri_driven hbackend hdriver

/-- The normal names of the engines that take no uploads. -/
def blockedNames : List String := ["gsheets", "clickhouse", "clickhousedb"]

theorem supportsUpload_ofBackend_of_blocked
    (h : Text.lower (Text.trim backend) ∈ blockedNames) :
    (ofBackend backend).supportsUpload = false := by
  have hall : ∀ name ∈ blockedNames, (ofNormalName name).supportsUpload = false := by decide
  exact hall _ h

variable {snapshot : Option Permissions} {connection : Connection} {connections : List Connection}

theorem not_mem_eligibleConnections (h : connection.engine.supportsUpload = false) :
    connection ∉ eligibleConnections snapshot connections := by
  intro hmem
  have heligible := (List.mem_filter.mp hmem).2
  simp only [Connection.isEligible, Connection.engineAllowsUpload, h] at heligible
  simp at heligible

theorem not_mem_eligible {service : UploadService} {user : String} {listed : List Connection}
    (h : connection.engine.supportsUpload = false) (hlisted : service.eligible user = .ok listed) :
    connection ∉ listed := by
  obtain ⟨found, -, rfl⟩ := UploadService.eligible_eq_ok_iff.mp hlisted
  exact not_mem_eligibleConnections h

theorem engine_of_connection? {row : Row} (h : row.connection? = some connection)
    (huri : row.uri = .text uri) : connection.engine = ofUri uri := by
  obtain ⟨_, _, other, _, -, -, hother, -, hconnection⟩ := Row.connection?_eq_some_iff.mp h
  rw [huri, Cell.text.injEq] at hother
  rw [hconnection, hother]

/-- The engine of a URI is that of the backend name in it. If that engine takes no uploads, no user
is offered the connection of a row with the URI. -/
theorem ofUri_eq_ofBackend_and_not_mem_eligible (hbackend : IsBackendName backend) :
    (∀ uri, IsUriOf backend uri → ofUri uri = ofBackend backend) ∧
    (Text.lower (Text.trim backend) ∈ blockedNames →
      ∀ (row : Row) uri connection, row.uri = .text uri → IsUriOf backend uri →
        row.connection? = some connection →
        (∀ snapshot connections, connection ∉ eligibleConnections snapshot connections) ∧
        ∀ (service : UploadService) user listed, service.eligible user = .ok listed →
          connection ∉ listed) := by
  refine ⟨fun uri huri => ofUri_of_isUriOf hbackend huri, ?_⟩
  intro hblocked row uri connection huri hname hconnection
  have hengine : connection.engine.supportsUpload = false := by
    rw [engine_of_connection? hconnection huri, ofUri_of_isUriOf hbackend hname]
    exact supportsUpload_ofBackend_of_blocked hblocked
  exact ⟨fun _ _ => not_mem_eligibleConnections hengine,
    fun _ _ _ hlisted => not_mem_eligible hengine hlisted⟩

/-- A URI with a plus sign in the name of the driver, and a plus sign and a mark in the password. -/
def eventsUri : String :=
  " ClickHouse" ++ "+" ++ "native+tls" ++ "://" ++ "reader:a+b://c@host/events"

def eventsRow : Row := ⟨.integer 5, .text "events", .text eventsUri, .integer 1, .null⟩

def eventsConnection : Connection := ⟨5, "events", .clickHouse, true, ∅⟩

theorem connection?_eventsRow : eventsRow.connection? = some eventsConnection := by
  decide +kernel

theorem eligible_eventsRow :
    (UploadService.overTable [eventsRow] "" (.ofGrants [])).eligible "analyst" = .ok [] := by
  refine UploadService.eligible_eq_ok_iff.mpr ⟨[eventsConnection], ?_, ?_⟩
  · have hrows : [eventsRow].filter Row.allowsUpload = [eventsRow] := by decide
    change (Registry.table (some [eventsRow]) "").uploadAllowed = _
    rw [Registry.uploadAllowed, hrows, List.mapM_cons, connection?_eventsRow]
    simp
  · simp [eligibleConnections, Connection.isEligible, Connection.engineAllowsUpload,
      eventsConnection, supportsUpload]

theorem ofUri_eventsUri_and_not_mem_eligible :
    ofUri eventsUri = ofBackend " ClickHouse" ∧
    eventsRow.connection? = some eventsConnection ∧
    eventsConnection ∉ eligibleConnections (some (.none "analyst")) [eventsConnection] ∧
    (UploadService.overTable [eventsRow] "" (.ofGrants [])).eligible "analyst" = .ok [] ∧
    eventsConnection ∉ ([] : List Connection) := by
  have hbackend : IsBackendName " ClickHouse" := ⟨by decide, by decide +kernel⟩
  have huri : IsUriOf " ClickHouse" eventsUri := .driven _ (by decide +kernel)
  obtain ⟨hengine, hblocked⟩ := ofUri_eq_ofBackend_and_not_mem_eligible hbackend
  obtain ⟨hfiltered, hservice⟩ := hblocked (by decide +kernel) eventsRow eventsUri
    eventsConnection rfl huri connection?_eventsRow
  exact ⟨hengine _ huri, connection?_eventsRow, hfiltered _ _, eligible_eventsRow,
    hservice _ _ _ eligible_eventsRow⟩

end Engine

end UploadGate
