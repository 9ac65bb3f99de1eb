import UploadGate.Proofs.Json.Decoded
import UploadGate.Proofs.Reply.Envelope

/-! # Envelopes are read back

An envelope that the service builds is read back from every form of the JSON that it is written as,
in which what is missing has no member. An envelope that was read from any text, with what the text
adds passed over and its null members gone, is from then on read back as it is written.
-/

namespace UploadGate

open Json (Value)
open Json.Decode (Reads FillsIfPresent Keeps fillsIfPresent_of_rel nestingLimit of_set reads_bool
  reads_record_present reads_string reads_value)

/-! ## What can be read back -/

/-- A value that is not taken for a missing one and can be read from a text. -/
structure IsReadableIn (levels : Nat) (value : Value) : Prop where
  plain : value.IsPlain levels
  ne_null : value ≠ .null

theorem IsReadableIn.reads_optional {levels : Nat} {value : Value}
    (h : IsReadableIn levels value) :
    Reads (Json.Decode.optional (Json.Decode.value levels)) value (some value) := by
  refine (reads_value h.plain).optional_some ?_
  intro hnull
  rw [Json.Decode.value] at hnull
  exact h.ne_null (Except.ok.inj hnull).symm

def ReplyError.IsReadable (error : ReplyError) : Prop :=
  ∀ details, error.details = some details → IsReadableIn (nestingLimit - 2) details

def ReplyMeta.IsReadable (about : ReplyMeta) : Prop :=
  ∀ time, about.timestamp = some time → time.IsValid

structure Envelope.IsReadable (envelope : Envelope Value) : Prop where
  data : ∀ data, envelope.data = some data → IsReadableIn (nestingLimit - 1) data
  error : ∀ error, envelope.error = some error → error.IsReadable
  about : envelope.about.IsReadable

/-! ## Written forms -/

namespace ReplyError

def members (error : ReplyError) : List (String × Option Value) :=
  [("code", some (.string error.code)), ("message", some (.string error.message)),
    ("details", error.details)]

/-- The members may come in any order. -/
def IsWrittenAs (error : ReplyError) (value : Value) : Prop :=
  value.IsObjectOf (Value.present error.members)

end ReplyError

namespace ReplyMeta

def members (about : ReplyMeta) : List (String × Option Value) :=
  [("request_id", about.requestId.map .string),
    ("timestamp", about.timestamp.map fun time => .string time.text),
    ("service", about.service.map .string)]

/-- The members may come in any order. -/
def IsWrittenAs (about : ReplyMeta) (value : Value) : Prop :=
  value.IsObjectOf (Value.present about.members)

end ReplyMeta

namespace Envelope

def members (envelope : Envelope Value) (error : Option Value) (about : Value) :
    List (String × Option Value) :=
  [("success", some (.bool envelope.success)), ("data", envelope.data), ("error", error),
    ("meta", some about)]

/-- The members may come in any order, in the envelope and in its parts. -/
def IsWrittenAs (envelope : Envelope Value) (value : Value) : Prop :=
  ∃ error about, Option.Rel ReplyError.IsWrittenAs envelope.error error ∧
    envelope.about.IsWrittenAs about ∧
    value.IsObjectOf (Value.present (envelope.members error about))

variable {error : ReplyError} {about : ReplyMeta} {envelope : Envelope Value} {value : Value}
  {text : String}

theorem isWrittenAs_errorJson (error : ReplyError) : error.IsWrittenAs (errorJson error) :=
  Value.isObjectOf_ofMembers (Value.nodup_map_fst_present (by simp))

theorem isWrittenAs_metaJson (about : ReplyMeta) : about.IsWrittenAs (metaJson about) :=
  Value.isObjectOf_ofMembers (Value.nodup_map_fst_present (by simp))

theorem isWrittenAs_toJson (envelope : Envelope Value) :
    envelope.IsWrittenAs (envelope.toJson id) := by
  refine ⟨envelope.error.map errorJson, metaJson envelope.about, ?_, isWrittenAs_metaJson _, ?_⟩
  · cases envelope.error with
    | none => exact .none
    | some error => exact .some (isWrittenAs_errorJson error)
  · have hdata : envelope.data.map id = envelope.data := Option.map_id_apply
    rw [toJson, hdata]
    exact Value.isObjectOf_ofMembers (Value.nodup_map_fst_present (by simp))

/-! ## Reading -/

theorem rel_reads_optional {levels : Nat} {held : Option Value}
    (h : ∀ value, held = some value → IsReadableIn levels value) :
    Option.Rel (Reads (Json.Decode.optional (Json.Decode.value levels))) held (held.map some) := by
  cases held with
  | none => exact .none
  | some value => exact .some (h value rfl).reads_optional

theorem reads_error (hreadable : error.IsReadable) (h : error.IsWrittenAs value) :
    Reads errorDecoder value error := by
  have hdetails : Option.Rel (Reads (Json.Decode.optional detailsDecoder)) error.details
      (error.details.map some) := rel_reads_optional hreadable
  have hcode : FillsIfPresent errorFields ("code", some (.string error.code)) _ :=
    fillsIfPresent_of_rel (fun found draft => { draft with code := some found })
      (.some (reads_string error.code)) (by decide) fun _ _ => rfl
  have hmessage : FillsIfPresent errorFields ("message", some (.string error.message)) _ :=
    fillsIfPresent_of_rel (fun found draft => { draft with message := some found })
      (.some (reads_string error.message)) (by decide) fun _ _ => rfl
  have hdetailsField : FillsIfPresent errorFields ("details", error.details) _ :=
    fillsIfPresent_of_rel (fun found draft => { draft with details := found }) hdetails (by decide)
      fun _ _ => rfl
  apply reads_record_present h (.cons hcode (.cons hmessage (.cons hdetailsField .nil)))
  · simp [ReplyError.members]
  · obtain ⟨code, message, _ | details⟩ := error <;> simp
  · obtain ⟨code, message, _ | details⟩ := error <;> rfl

theorem rel_map_some_string (s : Option String) :
    Option.Rel (Reads (Json.Decode.optional Json.Decode.string)) (s.map .string) (s.map some) := by
  cases s with
  | none => exact .none
  | some s => exact .some (Json.Decode.reads_optional_string (some s))

theorem reads_about (hreadable : about.IsReadable) (h : about.IsWrittenAs value) :
    Reads metaDecoder value about := by
  have htimestamp : Option.Rel (Reads timestampDecoder)
      (about.timestamp.map fun time => .string time.text) about.timestamp := by
    cases hfound : about.timestamp with
    | none => exact .none
    | some time => exact .some (reads_timestamp (hreadable time hfound))
  have hrequestId : FillsIfPresent metaFields ("request_id", about.requestId.map .string) _ :=
    fillsIfPresent_of_rel (fun found draft => { draft with requestId := found })
      (rel_map_some_string about.requestId) (by decide) fun _ _ => rfl
  have htime : FillsIfPresent metaFields
      ("timestamp", about.timestamp.map fun time => .string time.text) _ :=
    fillsIfPresent_of_rel (fun found draft => { draft with timestamp := some found }) htimestamp
      (by decide) fun _ _ => rfl
  have hservice : FillsIfPresent metaFields ("service", about.service.map .string) _ :=
    fillsIfPresent_of_rel (fun found draft => { draft with service := found })
      (rel_map_some_string about.service) (by decide) fun _ _ => rfl
  apply reads_record_present h (.cons hrequestId (.cons htime (.cons hservice .nil)))
  · simp [ReplyMeta.members]
  · obtain ⟨_ | id, _ | time, _ | name⟩ := about <;> simp
  · obtain ⟨_ | id, _ | time, _ | name⟩ := about <;> rfl

theorem rel_reads_error {held : Option ReplyError} {shown : Option Value}
    (hreadable : ∀ error, held = some error → error.IsReadable)
    (h : Option.Rel ReplyError.IsWrittenAs held shown) :
    Option.Rel (Reads (Json.Decode.optional errorDecoder)) shown (held.map some) := by
  cases h with
  | none => exact .none
  | @some error _ hwritten =>
    refine .some ((reads_error (hreadable error rfl) hwritten).optional_some ?_)
    simp [errorDecoder, Json.Decode.record]

theorem reads_envelope (hreadable : envelope.IsReadable) (h : envelope.IsWrittenAs value) :
    Reads anyDecoder value envelope := by
  obtain ⟨error, about, herror, habout, hobject⟩ := h
  let fields := fields (Json.Decode.value (nestingLimit - 1))
  have hdata : Option.Rel (Reads (Json.Decode.optional (Json.Decode.value (nestingLimit - 1))))
      envelope.data (envelope.data.map some) := rel_reads_optional hreadable.data
  have herrors : Option.Rel (Reads (Json.Decode.optional errorDecoder)) error
      (envelope.error.map some) := rel_reads_error hreadable.error herror
  have hsuccess : FillsIfPresent fields ("success", some (.bool envelope.success)) _ :=
    fillsIfPresent_of_rel (fun found draft => { draft with success := some found })
      (.some (reads_bool envelope.success)) (by simp [fields, Envelope.fields]) fun _ _ => rfl
  have hdataField : FillsIfPresent fields ("data", envelope.data) _ :=
    fillsIfPresent_of_rel (fun found draft => { draft with data := found }) hdata
      (by simp [fields, Envelope.fields]) fun _ _ => rfl
  have herrorField : FillsIfPresent fields ("error", error) _ :=
    fillsIfPresent_of_rel (fun found draft => { draft with error := found }) herrors
      (by simp [fields, Envelope.fields]) fun _ _ => rfl
  have hmeta : FillsIfPresent fields ("meta", some about) _ :=
    fillsIfPresent_of_rel (fun found draft => { draft with about := found })
      (.some (reads_about hreadable.about habout)) (by simp [fields, Envelope.fields])
      fun _ _ => rfl
  apply reads_record_present hobject
    (.cons hsuccess (.cons hdataField (.cons herrorField (.cons hmeta .nil))))
  · simp [members]
  · obtain ⟨success, _ | data, _ | error, about⟩ := envelope <;> simp
  · obtain ⟨success, _ | data, _ | error, about⟩ := envelope <;> rfl

/-! ## What is read -/

/-- A value that was found in a text, where null is taken for a missing one. -/
structure IsFoundIn (levels : Nat) (value : Value) : Prop where
  plain : value.IsWhole → value.IsPlain levels
  ne_null : value ≠ .null

theorem isFoundIn_of_optional {levels : Nat} {scan : Json.Scan}
    (h : Json.Decode.optional (Json.Decode.value levels) scan = .ok (some value)) :
    IsFoundIn levels value := by
  obtain ⟨hnull, hread⟩ := Json.Decode.optional_eq_ok_some_iff.mp h
  refine ⟨Json.Decode.isPlain_of_value hread, ?_⟩
  rintro rfl
  exact hnull (Json.Decode.value_eq_ok_null_iff.mp hread)

/-- The details that a draft of an error has were found in a text. -/
def ErrorDraft.IsFound (draft : ErrorDraft) : Prop :=
  ∀ details, draft.details = some details → IsFoundIn (nestingLimit - 2) details

theorem isFoundIn_of_errorDecoder {scan : Json.Scan} (h : errorDecoder scan = .ok error) :
    ∀ details, error.details = some details → IsFoundIn (nestingLimit - 2) details := by
  have hkeeps : Keeps errorFields ErrorDraft.IsFound := by
    intro name scan draft next hread hdraft
    unfold errorFields at hread
    dsimp only at hread
    split at hread
    next => exact of_set hread fun _ _ => hdraft
    next => exact of_set hread fun _ _ => hdraft
    next =>
      refine of_set hread ?_
      rintro _ hdetails details rfl
      exact isFoundIn_of_optional hdetails
    next => exact Except.ok.inj hread ▸ hdraft
  obtain ⟨draft, hdraft, hfinish⟩ := hkeeps.record (by simp [ErrorDraft.IsFound]) h
  simp only [Option.bind_eq_bind, Option.bind_eq_some_iff] at hfinish
  obtain ⟨code, -, message, -, herror⟩ := hfinish
  rw [← Option.some.inj herror]
  exact hdraft

theorem isValid_of_timestampDecoder {scan : Json.Scan} {time : Timestamp}
    (h : timestampDecoder scan = .ok time) : time.IsValid := by
  obtain ⟨text, -, h⟩ := bind_eq_ok_iff.mp h
  split at h
  next found hfound => exact Except.ok.inj h ▸ Timestamp.isValid_of_ofText? hfound
  next => exact absurd h (by simp)

theorem isReadable_of_metaDecoder {scan : Json.Scan} (h : metaDecoder scan = .ok about) :
    about.IsReadable := by
  have hkeeps : Keeps metaFields ReplyMeta.IsReadable := by
    intro name scan draft next hread hdraft
    unfold metaFields at hread
    dsimp only at hread
    split at hread
    next => exact of_set hread fun _ _ => hdraft
    next =>
      refine of_set hread ?_
      rintro found htime time hfound
      exact Option.some.inj hfound ▸ isValid_of_timestampDecoder htime
    next => exact of_set hread fun _ _ => hdraft
    next => exact Except.ok.inj hread ▸ hdraft
  obtain ⟨draft, hdraft, hfinish⟩ := hkeeps.record (by simp [ReplyMeta.IsReadable]) h
  exact Option.some.inj hfinish ▸ hdraft

/-- What holds of the parts of an envelope while it is read. -/
structure IsFoundDraft (draft : Draft Value) : Prop where
  data : ∀ data, draft.data = some data → IsFoundIn (nestingLimit - 1) data
  details : ∀ error, draft.error = some error →
    ∀ details, error.details = some details → IsFoundIn (nestingLimit - 2) details
  about : draft.about.IsReadable

theorem keeps_isFoundDraft :
    Keeps (fields (Json.Decode.value (nestingLimit - 1))) IsFoundDraft := by
  intro name scan draft next hread hdraft
  unfold fields at hread
  dsimp only at hread
  split at hread
  next => exact of_set hread fun _ _ => ⟨hdraft.data, hdraft.details, hdraft.about⟩
  next =>
    refine of_set hread fun _ hdata => ⟨?_, hdraft.details, hdraft.about⟩
    rintro data rfl
    exact isFoundIn_of_optional hdata
  next =>
    refine of_set hread fun _ herror => ⟨hdraft.data, ?_, hdraft.about⟩
    rintro error rfl
    exact isFoundIn_of_errorDecoder (Json.Decode.optional_eq_ok_some_iff.mp herror).2
  next =>
    refine of_set hread fun _ habout => ⟨hdraft.data, hdraft.details, ?_⟩
    exact isReadable_of_metaDecoder habout
  next => exact Except.ok.inj hread ▸ hdraft

/-- All numbers in the data and in the details of the error are integers. -/
structure IsWhole (envelope : Envelope Value) : Prop where
  data : ∀ data, envelope.data = some data → data.IsWhole
  details : ∀ error, envelope.error = some error →
    ∀ details, error.details = some details → details.IsWhole

/-- An envelope that was read from a text can be read back. -/
theorem isReadable_of_decode (h : Json.decode anyDecoder text = .ok envelope)
    (hwhole : envelope.IsWhole) : envelope.IsReadable := by
  have hempty : IsFoundDraft ⟨none, none, none, {}⟩ :=
    ⟨by simp, by simp, by simp [ReplyMeta.IsReadable]⟩
  obtain ⟨draft, hdraft, hfinish⟩ :=
    keeps_isFoundDraft.record hempty (Json.decode_eq_ok_iff.mp h).1
  simp only [Option.bind_eq_bind, Option.bind_eq_some_iff] at hfinish
  obtain ⟨success, -, henvelope⟩ := hfinish
  obtain rfl := Option.some.inj henvelope
  refine ⟨fun data hdata => ?_, fun error herror details hdetails => ?_, hdraft.about⟩
  · obtain ⟨hplain, hne⟩ := hdraft.data data hdata
    exact ⟨hplain (hwhole.data data hdata), hne⟩
  · obtain ⟨hplain, hne⟩ := hdraft.details error herror details hdetails
    exact ⟨hplain (hwhole.details error herror details hdetails), hne⟩

/-! ## What the service builds -/

/-- The envelopes that are built from data and details. Every one bears a point in time when it is
sent. -/
inductive IsBuilt : Envelope Value → Prop
  | ok {data : Value} (h : IsReadableIn (nestingLimit - 1) data) : IsBuilt (ok data)
  | failure (code message : String) : IsBuilt (failure code message none)
  | failureWithDetails (code message : String) {details : Value}
    (h : IsReadableIn (nestingLimit - 2) details) : IsBuilt (failure code message (some details))
  | withService {envelope : Envelope Value} (name : String) (h : IsBuilt envelope) :
    IsBuilt (envelope.withService name)
  | withRequestId {envelope : Envelope Value} (id : String) (h : IsBuilt envelope) :
    IsBuilt (envelope.withRequestId id)
  | stamped {envelope : Envelope Value} {time : Timestamp} (htime : time.IsValid)
    (h : IsBuilt envelope) :
    IsBuilt { envelope with about := { envelope.about with timestamp := some time } }

theorem IsBuilt.isReadable (h : IsBuilt envelope) : envelope.IsReadable := by
  induction h with
  | ok hdata =>
    refine ⟨fun data hfound => ?_, by simp [Envelope.ok],
      by simp [Envelope.ok, ReplyMeta.IsReadable]⟩
    exact Option.some.inj hfound ▸ hdata
  | failure code message =>
    refine ⟨by simp [Envelope.failure], fun error hfound details hdetails => ?_,
      by simp [Envelope.failure, ReplyMeta.IsReadable]⟩
    obtain rfl := Option.some.inj hfound
    exact absurd hdetails (by simp)
  | failureWithDetails code message hdetails =>
    refine ⟨by simp [Envelope.failure], fun error hfound details hsome => ?_,
      by simp [Envelope.failure, ReplyMeta.IsReadable]⟩
    obtain rfl := Option.some.inj hfound
    exact Option.some.inj hsome ▸ hdetails
  | withService name _ ih => exact ⟨ih.data, ih.error, ih.about⟩
  | withRequestId id _ ih => exact ⟨ih.data, ih.error, ih.about⟩
  | stamped htime _ ih =>
    refine ⟨ih.data, ih.error, fun time hfound => ?_⟩
    exact Option.some.inj hfound ▸ htime

/-- The members of an envelope are those of its parts that are there. -/
structure IsShownBy (envelope : Envelope Value) (value : Value) : Prop where
  success : value.get? "success" = some (.bool envelope.success)
  data : value.get? "data" = envelope.data
  error : Option.Rel (fun error shown => Value.get? shown "code" = some (.string error.code) ∧
    shown.get? "message" = some (.string error.message) ∧
    shown.get? "details" = error.details) envelope.error (value.get? "error")
  about : ∃ shown, value.get? "meta" = some shown ∧
    shown.get? "request_id" = envelope.about.requestId.map .string ∧
    shown.get? "timestamp" = envelope.about.timestamp.map (fun time => .string time.text) ∧
    shown.get? "service" = envelope.about.service.map .string

theorem IsWrittenAs.isShownBy (h : envelope.IsWrittenAs value) : envelope.IsShownBy value := by
  obtain ⟨error, about, herror, habout, hobject⟩ := h
  have hget : ∀ {name member}, (name, member) ∈ envelope.members error about →
      value.get? name = member := hobject.get?_eq (by simp [members])
  have hgetAbout : ∀ {name member}, (name, member) ∈ envelope.about.members →
      about.get? name = member := Value.IsObjectOf.get?_eq habout (by simp [ReplyMeta.members])
  refine ⟨hget (by simp [members]), hget (by simp [members]), ?_, about, hget (by simp [members]),
    hgetAbout (by simp [ReplyMeta.members]), hgetAbout (by simp [ReplyMeta.members]),
    hgetAbout (by simp [ReplyMeta.members])⟩
  have hshown : value.get? "error" = error := hget (by simp [members])
  rw [hshown]
  generalize envelope.error = found at herror ⊢
  cases herror with
  | none => exact .none
  | @some found shown hfound =>
    have hgetError : ∀ {name member}, (name, member) ∈ found.members →
        shown.get? name = member := Value.IsObjectOf.get?_eq hfound (by simp [ReplyError.members])
    exact .some ⟨hgetError (by simp [ReplyError.members]), hgetError (by simp [ReplyError.members]),
      hgetError (by simp [ReplyError.members])⟩

/-- An envelope that the service builds, or that was read from any text, is read back from every
form that it is written as. -/
theorem decode_written_eq_of_isBuilt_or_decode :
    (∀ envelope : Envelope Value, envelope.IsWrittenAs (envelope.toJson id)) ∧
    (∀ envelope value, IsBuilt envelope → envelope.IsWrittenAs value →
      Json.decode anyDecoder value.text = .ok envelope ∧ envelope.IsShownBy value) ∧
    ∀ text envelope, Json.decode anyDecoder text = .ok envelope → envelope.IsWhole →
      ∀ value, envelope.IsWrittenAs value → ∃ again, Json.decode anyDecoder value.text = .ok again ∧
        again = envelope ∧ again.toJson id = envelope.toJson id := by
  refine ⟨isWrittenAs_toJson, fun envelope value hbuilt hwritten => ?_,
    fun text envelope hdecode hwhole value hwritten => ?_⟩
  · exact ⟨(reads_envelope hbuilt.isReadable hwritten).decode_text, hwritten.isShownBy⟩
  · have hreads := reads_envelope (isReadable_of_decode hdecode hwhole) hwritten
    exact ⟨envelope, hreads.decode_text, rfl, rfl⟩

/-- An envelope as an array of its fields, with a value out of order, one that is unknown and one
that is null. -/
def forwardedText : String :=
  "[false, null, [\"E\", \"m\", \x7b\"b\": [18446744073709551615], \"a\": null\x7d], " ++
    "\x7b\"trace\": [], \"service\": null, \"timestamp\": \"2024-02-29T23:30:05+01:00\"\x7d]"

def forwardedScan : Json.Scan :=
  .array
    [.bool false, .null,
      .array
        [.string (some "E"), .string (some "m"),
          .object [(some "b", .array [.number ⟨false, "18446744073709551615".toList, none, none⟩]),
            (some "a", .null)] true],
      .object
        [(some "trace", .array []), (some "service", .null),
          (some "timestamp", .string (some "2024-02-29T23:30:05+01:00"))] true]

def forwarded : Envelope Value :=
  ⟨false, none,
    some ⟨"E", "m", some (.object [("a", .null), ("b", .array [.integer 18446744073709551615])])⟩,
    { timestamp := some ⟨2024, 2, 29, 22, 30, 5, 0⟩ }⟩

theorem decode_forwardedText : Json.decode anyDecoder forwardedText = .ok forwarded := by
  have hscan : Json.Scan.ofText forwardedText = (forwardedScan, false) := by
    decide +kernel
  rw [Json.decode_eq_ok_iff, hscan]
  exact ⟨rfl, rfl⟩

theorem isWhole_forwarded : forwarded.IsWhole := by
  refine ⟨by simp [forwarded], fun error herror details hdetails => ?_⟩
  obtain rfl := Option.some.inj herror
  obtain rfl := Option.some.inj hdetails
  refine .object (List.forall_mem_cons.mpr ⟨.null, List.forall_mem_singleton.mpr (.array ?_)⟩)
  exact List.forall_mem_singleton.mpr (.integer _)

/-- A success with a list, sent on behalf of a request. -/
def answered : Envelope Value :=
  ((ok (.array [.integer (-5), .string "\"a\""])).withService "upload-service").withRequestId "r-1"

theorem isBuilt_answered : IsBuilt answered := by
  have hitems : ∀ item ∈ [Value.integer (-5), .string "\"a\""],
      item.IsPlain (nestingLimit - 2) :=
    List.forall_mem_cons.mpr ⟨.integer ⟨by decide, by decide⟩,
      List.forall_mem_singleton.mpr (.string _)⟩
  exact .withRequestId _ (.withService _ (.ok ⟨.array hitems, by simp⟩))

theorem decode_written_answered_and_forwarded :
    Json.decode anyDecoder (answered.toJson id).text = .ok answered ∧
    answered.IsShownBy (answered.toJson id) ∧
    Json.decode anyDecoder forwardedText = .ok forwarded ∧
    ∃ again, Json.decode anyDecoder (forwarded.toJson id).text = .ok again ∧
      again = forwarded ∧ again.toJson id = forwarded.toJson id := by
  obtain ⟨hwritten, hbuilt, hdecoded⟩ := decode_written_eq_of_isBuilt_or_decode
  obtain ⟨hread, hshown⟩ := hbuilt answered _ isBuilt_answered (hwritten answered)
  exact ⟨hread, hshown, decode_forwardedText, hdecoded forwardedText forwarded
    decode_forwardedText isWhole_forwarded _ (hwritten forwarded)⟩

end Envelope

end UploadGate
