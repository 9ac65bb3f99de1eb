import UploadGate.ErrorTree
import UploadGate.Form.Submission

/-! # The shape of a submission

Before anything is asked of a form, every uploaded file must name its field, and have a name of its
own that is neither empty nor too long. The raw texts of the fields may be anything.
-/

namespace UploadGate.Form

/-- The greatest length of a file's name. -/
def filenameLimit : Nat := 255

namespace UploadedFile

variable (file : UploadedFile)

def fieldIssues : List Issue :=
  if file.field = "" then [⟨"length", some "File field name is required"⟩] else []

def filenameIssues : List Issue :=
  if 1 ≤ file.filename.length ∧ file.filename.length ≤ filenameLimit then []
  else [⟨"length", some "File name must be 1-255 characters"⟩]

/-- The members of a file with issues. -/
def errors : ErrorTree :=
  [("field", file.fieldIssues), ("filename", file.filenameIssues)].filterMap fun (name, issues) =>
    if issues = [] then none else some (name, .field issues)

end UploadedFile

namespace Submission

/-- The files with errors, by their indices. -/
def fileErrors (submission : Submission) : List (Nat × ErrorTree) :=
  submission.files.zipIdx.filterMap fun (file, index) =>
    if file.errors.isEmpty then none else some (index, file.errors)

/-- What is wrong with the shape of a submission. -/
def shapeErrors (submission : Submission) : ErrorTree :=
  if submission.fileErrors.isEmpty then [] else [("files", .items submission.fileErrors)]

end Submission

end UploadGate.Form
