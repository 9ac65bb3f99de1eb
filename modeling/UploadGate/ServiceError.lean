import UploadGate.ErrorTree

/-! # Errors that the service answers with

Each kind of error has a code for programs, a status for the protocol, and a message. Errors of a
form carry the errors of its fields as details.
-/

namespace UploadGate

inductive ServiceError where
  | validation (reason : String)
  | formValidation (errors : ErrorTree)
  | formNotFound (name : String)
  | unauthorized (reason : String)
  | databaseConnection (reason : String)
  | databaseQuery (reason : String)
  | externalService (reason : String)
  | configuration (reason : String)
  | internal (reason : String)

namespace ServiceError

def code : ServiceError → String
  | validation _ | formValidation _ => "VALIDATION_ERROR"
  | formNotFound _ => "FORM_NOT_FOUND"
  | unauthorized _ => "UNAUTHORIZED"
  | databaseConnection _ => "DATABASE_CONNECTION_ERROR"
  | databaseQuery _ => "DATABASE_QUERY_ERROR"
  | externalService _ => "EXTERNAL_SERVICE_ERROR"
  | configuration _ => "CONFIG_ERROR"
  | internal _ => "INTERNAL_ERROR"

/-- The status of the answer that reports the error. -/
def status : ServiceError → Nat
  | validation _ | formValidation _ => 400
  | unauthorized _ => 401
  | formNotFound _ => 404
  | databaseConnection _ | externalService _ => 503
  | databaseQuery _ | configuration _ | internal _ => 500

def message : ServiceError → String
  | validation reason => "validation error: " ++ reason
  | formValidation _ => "form validation failed"
  | formNotFound name => "unknown upload form: " ++ name
  | unauthorized reason => "unauthorized: " ++ reason
  | databaseConnection reason => "database connection error: " ++ reason
  | databaseQuery reason => "database query error: " ++ reason
  | externalService reason => "external service error: " ++ reason
  | configuration reason => "configuration error: " ++ reason
  | internal reason => "internal error: " ++ reason

/-- The messages of the fields by their paths, for errors of a form. -/
def fieldMessages? : ServiceError → Option (NameTable (List String))
  | formValidation errors => some errors.messages
  | _ => none

def fieldsJson (fields : NameTable (List String)) : Json.Value := .ofTable (fields.map .strings)

def details? (error : ServiceError) : Option Json.Value :=
  error.fieldMessages?.map fun fields => .ofMembers [("fields", fieldsJson fields)]

end ServiceError

end UploadGate
