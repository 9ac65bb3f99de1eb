import UploadGate.Proofs.Json.Reading
import UploadGate.Proofs.Reply.Timestamp
import UploadGate.Proofs.Text.Tables
import UploadGate.Reply.Envelope

/-! # Written envelopes

The JSON that a failure and a success are written as, with the members of each object in ascending
order of their names. A success is read back with its data and the point in time of it, in whatever
order its members come.
-/

namespace UploadGate

namespace Json.Value

/-- The members of an object that is built from a list are put into place one after another. -/
theorem ofMembers_eq (members : List (String × Value)) :
    ofMembers members =
      object (members.foldl
        (fun entries member => NameTable.place member.1 member.2 entries) []) := by
  have hfold : ∀ table : NameTable Value,
      (members.foldl (fun table member => table.insert member.1 member.2) table).entries =
        members.foldl (fun entries member => NameTable.place member.1 member.2 entries)
          table.entries := by
    induction members with
    | nil => exact fun table => rfl
    | cons first rest ih => exact fun table => ih (table.insert first.1 first.2)
  rw [ofMembers, NameTable.ofList, hfold]
  rfl

end Json.Value

namespace Envelope

open Json.Value (ofPresent ofMembers_eq)

theorem errorJson_of_no_details (code message : String) :
    errorJson ⟨code, message, none⟩ =
      .object [("code", .string code), ("message", .string message)] := by
  simp only [errorJson, ofPresent, Option.map_some, Option.map_none, Option.some.injEq,
    List.filterMap_cons_some, List.filterMap_cons_none, List.filterMap_nil, ofMembers_eq,
    List.foldl_cons, List.foldl_nil, NameTable.place, String.reduceLT, String.reduceEq, ↓reduceIte]

theorem errorJson_of_details (code message : String) (details : Json.Value) :
    errorJson ⟨code, message, some details⟩ =
      .object [("code", .string code), ("details", details), ("message", .string message)] := by
  simp only [errorJson, ofPresent, Option.map_some, Option.some.injEq, List.filterMap_cons_some,
    List.filterMap_nil, ofMembers_eq, List.foldl_cons, List.foldl_nil, NameTable.place,
    String.reduceLT, String.reduceEq, ↓reduceIte]

theorem toJson_failure (code message : String) (details : Option Json.Value) :
    (failure code message details : Envelope Json.Value).toJson id =
      .object
        [("error", errorJson ⟨code, message, details⟩), ("meta", .object []),
          ("success", .bool false)] := by
  simp only [toJson, failure, metaJson, ofPresent, Option.map_some, Option.map_none,
    Option.some.injEq, List.filterMap_cons_some, List.filterMap_cons_none, List.filterMap_nil,
    ofMembers_eq, List.foldl_cons, List.foldl_nil, NameTable.place, String.reduceLT,
    String.reduceEq, ↓reduceIte]

theorem toJson_ok (data : Json.Value) (service requestId : String) :
    (((ok data).withService service).withRequestId requestId).toJson id =
      .object
        [("data", data),
          ("meta", .object
            [("request_id", .string requestId), ("service", .string service)]),
          ("success", .bool true)] := by
  simp only [toJson, ofPresent, withRequestId, withService, ok, Option.map_some, Option.map_none,
    metaJson, id_eq, Option.some.injEq, List.filterMap_cons_some, List.filterMap_cons_none,
    List.filterMap_nil, ofMembers_eq, List.foldl_cons, List.foldl_nil, NameTable.place,
    String.reduceLT, String.reduceEq, ↓reduceIte]

/-! ## Reading back -/

open Json.Decode (Reads Fills fills_of_reads reads_bool reads_record reads_string)

variable {α : Type} {decodeData : Json.Decoder α} {data value about : Json.Value} {found : α}
  {time : Timestamp}

/-- The JSON of a success with some data, of which nothing but a point in time is told. -/
def IsSuccessOf (data value : Json.Value) : Prop :=
  ∃ (time : Timestamp) (about : Json.Value), time.IsValid ∧
    about.IsObjectOf [("timestamp", .string time.text)] ∧
    value.IsObjectOf [("success", .bool true), ("data", data), ("meta", about)]

theorem reads_timestamp (h : time.IsValid) :
    Reads timestampDecoder (.string time.text) time := by
  obtain ⟨scan, hscan, hfound⟩ := reads_string time.text
  refine ⟨scan, hscan, ?_⟩
  simp only [timestampDecoder, hfound, bind, Except.bind, Timestamp.ofText?_text h]

theorem reads_meta (htime : time.IsValid)
    (h : about.IsObjectOf [("timestamp", .string time.text)]) :
    Reads metaDecoder about { timestamp := some time } := by
  have htimestamp : Fills metaFields ("timestamp", .string time.text) _ :=
    fills_of_reads (fun found draft => { draft with timestamp := some found })
      (reads_timestamp htime) (by decide) fun _ _ => rfl
  apply reads_record h (.cons htimestamp .nil)
  · simp
  · simp
  · rfl

theorem reads_success (hdata : Reads decodeData data found)
    (hnull : decodeData .null ≠ .ok found) (h : IsSuccessOf data value) :
    ∃ about, Reads (decoder decodeData) value ⟨true, some found, none, about⟩ := by
  obtain ⟨time, about, htime, habout, hobject⟩ := h
  have hsuccess : Fills (fields decodeData) ("success", .bool true) _ :=
    fills_of_reads (fun found draft => { draft with success := some found }) (reads_bool true)
      (by simp [fields]) fun _ _ => rfl
  have hfound : Fills (fields decodeData) ("data", data) _ :=
    fills_of_reads (fun found draft => { draft with data := found })
      (hdata.optional_some hnull) (by simp [fields]) fun _ _ => rfl
  have hmeta : Fills (fields decodeData) ("meta", about) _ :=
    fills_of_reads (fun found draft => { draft with about := found }) (reads_meta htime habout)
      (by simp [fields]) fun _ _ => rfl
  refine ⟨{ timestamp := some time }, ?_⟩
  apply reads_record hobject (.cons hsuccess (.cons hfound (.cons hmeta .nil)))
  · simp
  · simp
  · rfl

theorem isSuccessOf_toJson (write : α → Json.Value) (htime : time.IsValid) :
    IsSuccessOf (write found)
      (toJson write { ok found with about := { timestamp := some time } }) :=
  ⟨time, _, htime, Json.Value.isObjectOf_ofMembers (by simp),
    Json.Value.isObjectOf_ofMembers (by simp [ok])⟩

end Envelope

end UploadGate
