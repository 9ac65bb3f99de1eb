import UploadGate.ServiceError
import UploadGate.Text.Lowercase

/-! # Upload forms by name

There is one form for each kind of file that can be uploaded. A form is asked for by its slug, in
upper or lower case, with nothing around it.
-/

namespace UploadGate.Form

inductive Kind where
  | csv
  | excel
  | columnar
deriving DecidableEq

namespace Kind

/-- All kinds, in the order in which they are listed. -/
def all : List Kind := [csv, excel, columnar]

def slug : Kind → String
  | csv => "csv"
  | excel => "excel"
  | columnar => "columnar"

def title : Kind → String
  | csv => "CSV to Database configuration"
  | excel => "Excel to Database configuration"
  | columnar => "Columnar to Database configuration"

/-- The kind with a slug, which is compared in lower case. -/
def ofName? (name : String) : Option Kind := all.find? (·.slug = Text.lower name)

/-- The kind with a slug. A name that is no slug is reported as it was compared, in lower case. -/
def ofName (name : String) : Except ServiceError Kind :=
  match ofName? name with
  | some kind => .ok kind
  | none => .error (.formNotFound (Text.lower name))

theorem mem_all (kind : Kind) : kind ∈ all := by cases kind <;> decide

theorem slug_inj {first second : Kind} (h : first.slug = second.slug) : first = second := by
  cases first <;> cases second <;> simp_all [slug]

theorem ofName?_eq_some_iff {name : String} {kind : Kind} :
    ofName? name = some kind ↔ Text.lower name = kind.slug := by
  constructor
  · intro h
    unfold ofName? at h
    simpa using (by simpa using List.find?_some h : kind.slug = Text.lower name).symm
  · intro h
    cases hfound : ofName? name with
    | none => exact absurd h.symm (by simpa using List.find?_eq_none.mp hfound kind (mem_all kind))
    | some found =>
      have hslug : found.slug = Text.lower name := by simpa using List.find?_some hfound
      rw [slug_inj (hslug.trans h)]

end Kind

end UploadGate.Form
