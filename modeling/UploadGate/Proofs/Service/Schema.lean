import UploadGate.Proofs.Form.Typing
import UploadGate.Proofs.Service.Authorisation

/-! # Which schema an upload hands on

An accepted upload names its schema twice: once by itself, and once among the values of its fields.
The connection is asked about the first, which is the text that was typed in without the white space
around it; the second is the text as it was typed. The two differ exactly if there is such white
space.
-/

namespace UploadGate

namespace Form

variable {settings : UploadSettings} {kind : Kind} {databases : List Choice}
  {submission : Submission} {upload : Upload}

/-- The schema of an upload and the value of its schema field stand for one text. Either the text is
blank, and both say that there is no schema, or the value is the text and the schema the text
trimmed. -/
theorem schema_and_value_of_validate
    (h : (catalog settings kind).validate databases submission = .ok upload) :
    LeftBlank (submission.fields.get? "schema") ∧ upload.schema = none ∧
        upload.values.get? "schema" = some .null ∨
      ∃ text, submission.fields.get? "schema" = some text ∧ Text.blank text = false ∧
        upload.schema = some (Text.trim text) ∧
        upload.values.get? "schema" = some (.text text) := by
  obtain ⟨label, description, hfield⟩ := exists_field?_schema settings kind
  obtain ⟨value, hvalue, hget⟩ := exists_get?_values_of_field? h hfield (by decide)
  rw [schema_of_validate_catalog h]
  rw [cleanField, clean_optionalText_eq_ok_iff] at hvalue
  rcases hvalue with ⟨hblank, rfl⟩ | ⟨text, htext, hblank, rfl⟩
  · refine Or.inl ⟨hblank, ?_, hget⟩
    cases htext : submission.fields.get? "schema" with
    | none => rfl
    | some text =>
      have hempty : Text.trim text = "" := Text.blank_iff_trim_eq_empty.mp (hblank text htext)
      simp [hempty]
  · refine Or.inr ⟨text, htext, hblank, ?_, hget⟩
    have hne : Text.trim text ≠ "" := by
      rwa [Ne, ← Text.blank_iff_trim_eq_empty, Bool.not_eq_true]
    change submission.fields.get? "schema" = some text at htext
    simp [htext, hne]

end Form

namespace UploadService

variable {service : UploadService} {kind : Form.Kind} {user : String}
  {submission : Form.Submission} {upload : Form.Upload}

/-- The schema of an upload is also the value of its schema field. -/
def HandsOn (upload : Form.Upload) : Prop :=
  upload.values.get? "schema" = some (upload.schema.elim .null .text)

/-- The schema of an accepted upload is one that its target allows. The value of the schema field is
missing with it, or else is the text that was typed in, of which the schema is the trimmed copy. So
the two are one exactly if that text is blank or has no white space around it. -/
theorem handsOn_iff_of_validate (h : service.validate kind user submission = .ok upload) :
    (∃ connection, service.target? user upload = some connection ∧
      connection.allowsSchema (some (service.permissionsOf user)) upload.schema = true) ∧
    (upload.schema = none → upload.values.get? "schema" = some .null) ∧
    (∀ name, upload.schema = some name → ∃ text, submission.fields.get? "schema" = some text ∧
      upload.values.get? "schema" = some (.text text) ∧ Text.trim text = name) ∧
    (HandsOn upload ↔ ∀ text, submission.fields.get? "schema" = some text →
      Text.blank text = true ∨ Text.trim text = text) := by
  obtain ⟨-, connection, -, htarget, -, -, -, hallowed⟩ := target_of_validate h
  obtain ⟨-, connections, -, hform, -⟩ := validate_eq_ok_iff.mp h
  refine ⟨⟨connection, htarget, hallowed⟩, ?_⟩
  rcases Form.schema_and_value_of_validate hform with
    ⟨hblank, hschema, hvalue⟩ | ⟨text, htext, hblank, hschema, hvalue⟩
  · refine ⟨fun _ => hvalue, fun name hname => ?_, ?_⟩
    · rw [hschema] at hname
      exact absurd hname (by simp)
    · have hhanded : HandsOn upload := by rw [HandsOn, hvalue, hschema]; rfl
      exact iff_of_true hhanded fun text htext => Or.inl (hblank text htext)
  · refine ⟨fun hnone => ?_, fun name hname => ?_, ?_⟩
    · rw [hschema] at hnone
      exact absurd hnone (by simp)
    · exact ⟨text, htext, hvalue, Option.some.inj (hschema.symm.trans hname)⟩
    · have hhanded : HandsOn upload ↔ text = Text.trim text := by
        simp [HandsOn, hvalue, hschema]
      rw [hhanded, htext]
      constructor
      · rintro hsame _ ⟨⟩
        exact Or.inr hsame.symm
      · intro htyped
        rcases htyped text rfl with h | hsame
        · exact absurd (hblank.symm.trans h) (by simp)
        · exact hsame.symm

theorem sales_handsOn_iff :
    ∃ upload, warehouseService.validate .columnar "analyst" (salesFile " sales ") = .ok upload ∧
      upload.schema = some "sales" ∧
      (HandsOn upload ↔ ∀ text, (salesFile " sales ").fields.get? "schema" = some text →
        Text.blank text = true ∨ Text.trim text = text) := by
  obtain ⟨upload, hupload, hschema⟩ :
      ∃ upload, warehouseService.validate .columnar "analyst" (salesFile " sales ") = .ok upload ∧
        upload.schema = some "sales" := ⟨_, rfl, rfl⟩
  exact ⟨upload, hupload, hschema, (handsOn_iff_of_validate hupload).2.2.2⟩

/-- The value of the schema field need not be the schema that the connection was asked about. -/
theorem schema_value_need_not_be_handed_on :
    ¬ ∀ (service : UploadService) (kind : Form.Kind) (user : String)
      (submission : Form.Submission) (upload : Form.Upload),
      service.validate kind user submission = .ok upload → HandsOn upload := by
  intro hhands
  obtain ⟨upload, hupload, hvalue, hschema⟩ :
      ∃ upload, warehouseService.validate .columnar "analyst" (salesFile " sales ") = .ok upload ∧
        upload.values.get? "schema" = some (.text " sales ") ∧ upload.schema = some "sales" :=
    ⟨_, rfl, rfl, rfl⟩
  have hhanded := hhands _ _ _ _ _ hupload
  rw [HandsOn, hvalue, hschema] at hhanded
  exact absurd hhanded (by simp)

example : warehouse.allowsSchema (some analyst) (some " sales ") = false := by decide

end UploadService

end UploadGate
