import UploadGate.Connection.Basic
import UploadGate.Form.Field
import UploadGate.Form.Kind

/-! # Forms

A form is a table of fields for one kind of file. What a user sees of it is the table and the
databases on offer to him.
-/

namespace UploadGate

structure Form where
  kind : Form.Kind
  fields : List Form.Field

namespace Form

/-- The field of a name. -/
def field? (form : Form) (name : String) : Option Field := form.fields.find? (·.name = name)

/-- What a user sees of a form: its table and the databases on offer. -/
structure View where
  form : Form
  databases : List Choice

def View.toJson (view : View) : Json.Value :=
  .ofMembers
    [("kind", .string view.form.kind.slug),
      ("title", .string view.form.kind.title),
      ("fields", .array (view.form.fields.map Field.toJson)),
      ("database_choices", .array (view.databases.map Choice.toJson))]

end Form

end UploadGate
