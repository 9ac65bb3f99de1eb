import UploadGate.Proofs.Form.Problems
import UploadGate.Proofs.Form.Shape
import UploadGate.Proofs.Service.Offer

/-! # The stages of a submission

A submission is refused for its shape before the registry is asked, then for a fault of the
registry, then for what is wrong with its fields, and last for its schema. No refusal but that for
a fault of the registry lacks a field and a message for it. In particular the database of a
submission whose fields are in order is always found among the eligible connections.
-/

namespace UploadGate.UploadService

variable {service : UploadService} {kind : Form.Kind} {user : String}
  {submission : Form.Submission} {connections : List Connection}

/-! ## What a refusal says of the fields -/

namespace Refusal

/-- A refusal that says of some field what is wrong with it. -/
def NamesField (refusal : Refusal) : Prop :=
  ∃ errors path texts, refusal.toError = .formValidation errors ∧
    errors.messages.get? path = some texts ∧ texts ≠ []

theorem get?_messages_fieldErrors (problems : Form.Problems) (name : String) :
    (fieldErrors problems).messages.get? name =
      (problems.get? name).map (List.map Form.Problem.message) := by
  rw [fieldErrors, ErrorTree.get?_messages_ofIssues, NameTable.get?_map, Option.map_map]
  congr 1
  funext found
  rw [Function.comp_apply, List.map_map]
  rfl

theorem messages_schema (connection : Connection) (schema : Option String) (kind : Form.Kind) :
    ErrorTree.messages
        [("schema", .field [⟨"schema", some (schemaMessage connection schema kind)⟩])] =
      .ofList [("schema", [schemaMessage connection schema kind])] := rfl

end Refusal

/-! ## The stages one by one -/

/-- What a submission comes to once the eligible connections are known. -/
def weigh (service : UploadService) (kind : Form.Kind) (user : String)
    (submission : Form.Submission) (connections : List Connection) : Except Refusal Form.Upload :=
  match (service.form kind).validate (connections.map Connection.choice) submission with
  | .error problems => .error (.fields problems)
  | .ok upload => service.accept user connections upload

theorem validate_of_misshapen (h : ∃ path message, submission.Misses path message) :
    service.validate kind user submission = .error (.shape submission.shapeErrors) := by
  have hshape : submission.shapeErrors.isEmpty = false := by
    obtain ⟨path, message, hmisses⟩ := h
    rw [Bool.eq_false_iff]
    exact fun hempty => Form.Submission.isEmpty_shapeErrors_iff.mp hempty path message hmisses
  rw [validate, hshape]
  rfl

theorem validate_of_wellShaped (h : ∀ path message, ¬ submission.Misses path message) :
    service.validate kind user submission =
      (service.eligible user).bind (service.weigh kind user submission) := by
  rw [validate, Form.Submission.isEmpty_shapeErrors_iff.mpr h]
  rfl

theorem eligible_eq_error_iff {refusal : Refusal} :
    service.eligible user = .error refusal ↔
      ∃ fault, service.registry.uploadAllowed = .error fault ∧ refusal = .registry fault := by
  rw [eligible]
  cases service.registry.uploadAllowed with
  | ok listed => simp
  | error fault =>
    constructor
    · intro h
      exact ⟨fault, rfl, (Except.error.inj h).symm⟩
    · rintro ⟨other, hother, rfl⟩
      rw [Except.error.inj hother]

theorem weigh_of_not_fillsIn
    (h : ¬ Form.FillsIn service.upload kind (connections.map Connection.choice) submission) :
    service.weigh kind user submission connections = .error (.fields
      ((service.form kind).draft (connections.map Connection.choice) submission).problems) := by
  rw [weigh, form, Form.validate_catalog_of_not_fillsIn h]

/-- The database of an upload is found among the connections that its form was offered with. -/
theorem exists_find?_of_validate_form {upload : Form.Upload}
    (h : (service.form kind).validate (connections.map Connection.choice) submission =
      .ok upload) :
    ∃ connection, connections.find? (·.id = upload.databaseId) = some connection := by
  obtain ⟨hlisted, -⟩ := Form.databaseId_of_validate_catalog h
  rw [map_id_choice] at hlisted
  rw [← Option.isSome_iff_exists, List.find?_isSome]
  simpa using hlisted

/-- A submission whose fields are in order stands or falls with its schema. -/
theorem weigh_of_validate_form {upload : Form.Upload}
    (h : (service.form kind).validate (connections.map Connection.choice) submission =
      .ok upload) :
    ∃ connection, connections.find? (·.id = upload.databaseId) = some connection ∧
      ∀ user, service.weigh kind user submission connections =
        if connection.allowsSchema (some (service.permissionsOf user)) upload.schema then .ok upload
        else .error (.schema connection upload.schema upload.form) := by
  obtain ⟨connection, hfound⟩ := exists_find?_of_validate_form h
  refine ⟨connection, hfound, fun user => ?_⟩
  rw [weigh, h]
  dsimp only
  rw [accept, hfound]

/-! ## No internal error -/

theorem namesField_shape (h : ∃ path message, submission.Misses path message) :
    (Refusal.shape submission.shapeErrors).NamesField := by
  obtain ⟨path, message, hmisses⟩ := h
  exact ⟨_, path, [message], rfl,
    Form.Submission.get?_messages_shapeErrors_eq_some_iff.mpr ⟨message, hmisses, rfl⟩, by simp⟩

theorem namesField_fields {databases : List Choice}
    (h : ¬ Form.FillsIn service.upload kind databases submission) :
    (Refusal.fields ((service.form kind).draft databases submission).problems).NamesField := by
  obtain ⟨name, problem, hfinds⟩ := Form.exists_finds_iff_not_fillsIn.mpr h
  have hproblems := Form.get?_problems_draft_eq_some_iff.mpr ⟨problem, hfinds, rfl⟩
  refine ⟨_, name, [problem.message], rfl, ?_, by simp⟩
  rw [Refusal.get?_messages_fieldErrors, form, hproblems]
  rfl

theorem namesField_schema (connection : Connection) (schema : Option String) (kind : Form.Kind) :
    (Refusal.schema connection schema kind).NamesField :=
  ⟨_, "schema", _, rfl, by rw [Refusal.messages_schema]; rfl, by simp⟩

/-- Whatever connections there are to choose from, a submission is accepted or refused for one of
its fields. -/
theorem weigh_ok_or_namesField (service : UploadService) (kind : Form.Kind) (user : String)
    (submission : Form.Submission) (connections : List Connection) :
    (∃ upload, service.weigh kind user submission connections = .ok upload) ∨
      ∃ refusal, service.weigh kind user submission connections = .error refusal ∧
        refusal.NamesField := by
  by_cases hfills : Form.FillsIn service.upload kind (connections.map Connection.choice) submission
  · obtain ⟨upload, hupload⟩ : ∃ upload, (service.form kind).validate
        (connections.map Connection.choice) submission = .ok upload :=
      Form.exists_validate_catalog hfills
    obtain ⟨connection, -, hweigh⟩ := weigh_of_validate_form hupload
    rw [hweigh user]
    split
    next => exact Or.inl ⟨upload, rfl⟩
    next => exact Or.inr ⟨_, rfl, namesField_schema _ _ _⟩
  · exact Or.inr ⟨_, weigh_of_not_fillsIn hfills, namesField_fields hfills⟩

/-- Validation ends in an upload, in the registry's own fault, or in a refusal that says what is
wrong with some field. The id of an upload is never missing from the connections on offer, whatever
those are, and a draft without problems never lacks a database. -/
theorem validate_ok_or_fault_or_namesField (service : UploadService) (kind : Form.Kind)
    (user : String) (submission : Form.Submission) :
    ((∃ upload, service.validate kind user submission = .ok upload) ∨
      (∃ fault, service.registry.uploadAllowed = .error fault ∧
        service.validate kind user submission = .error (.registry fault)) ∨
      ∃ refusal, service.validate kind user submission = .error refusal ∧ refusal.NamesField) ∧
    (∀ connections,
      (∃ upload, service.weigh kind user submission connections = .ok upload) ∨
      ∃ refusal, service.weigh kind user submission connections = .error refusal ∧
        refusal.NamesField) ∧
    ∀ databases, ((service.form kind).draft databases submission).problems.isEmpty = true →
      ∃ id ∈ databases.map Choice.id,
        ((service.form kind).draft databases submission).databaseId? = some id := by
  refine ⟨?_, weigh_ok_or_namesField service kind user submission, fun databases hempty => ?_⟩
  · by_cases hmisses : ∃ path message, submission.Misses path message
    · exact Or.inr (Or.inr ⟨_, validate_of_misshapen hmisses, namesField_shape hmisses⟩)
    · have hshape : ∀ path message, ¬ submission.Misses path message := by simpa using hmisses
      rw [validate_of_wellShaped hshape]
      cases heligible : service.eligible user with
      | error refusal =>
        obtain ⟨fault, hfault, rfl⟩ := eligible_eq_error_iff.mp heligible
        exact Or.inr (Or.inl ⟨fault, hfault, rfl⟩)
      | ok connections =>
        rw [Except.bind]
        rcases weigh_ok_or_namesField service kind user submission connections with h | h
        · exact Or.inl h
        · exact Or.inr (Or.inr h)
  · obtain ⟨-, id, -, -, hlisted, hid⟩ :=
      Form.databaseId?_draft (Form.isEmpty_problems_draft_iff.mp hempty)
    exact ⟨id, hlisted, hid⟩

/-- Two connections of one id, the second of which cannot take uploads into any schema. -/
def twins : List Connection := [warehouse, { warehouse with name := "lake", schemas := ∅ }]

theorem twins_ok_or_namesField :
    ((warehouseService.form .columnar).draft (twins.map Connection.choice)
        (salesFile "sales")).problems.isEmpty = true ∧
      ((∃ upload, warehouseService.weigh .columnar "analyst" (salesFile "sales") twins =
          .ok upload) ∨
        ∃ refusal, warehouseService.weigh .columnar "analyst" (salesFile "sales") twins =
          .error refusal ∧ refusal.NamesField) ∧
      ∃ id ∈ [3, 3], ((warehouseService.form .columnar).draft (twins.map Connection.choice)
        (salesFile "sales")).databaseId? = some id := by
  have hends := validate_ok_or_fault_or_namesField warehouseService .columnar "analyst"
    (salesFile "sales")
  exact ⟨rfl, hends.2.1 twins, hends.2.2 (twins.map Connection.choice) rfl⟩

end UploadGate.UploadService
