import UploadGate.Form.Pattern
import UploadGate.Form.Problem
import UploadGate.Form.Value
import UploadGate.Text.Lowercase
import UploadGate.Text.Split

/-! # Validators

What a field asks of its value. Three validators only say whether the field may be left blank; they
find nothing wrong with a value. The others look at values of one kind and let every other pass.
-/

namespace UploadGate.Form

/-- The extension of a file's name in lower case: what follows the last dot, if that and what
stands before it are not empty. -/
def fileExtension (filename : String) : Option String :=
  match Text.cutLast '.' filename.toList with
  | some (stem, extension) =>
    if stem = [] ∨ extension = [] then none else some (Text.lower (.ofList extension))
  | none => none

inductive Validator where
  /-- The field may not be left blank. -/
  | dataRequired
  /-- A blank field passes every other validator. -/
  | optional
  /-- At least one file must be uploaded. -/
  | fileRequired
  /-- Every uploaded file has one of the extensions. -/
  | allowedFiles (extensions : NameSet) (message : String)
  /-- A text is of the pattern. -/
  | pattern (asked : Pattern) (message : String)
  /-- A text has a number of characters within the bounds. -/
  | length (min max : Option Nat)
  /-- An integer lies within the bounds. -/
  | range (min max : Option Int)

namespace Validator

/-- Every uploaded file has one of the extensions, which the message lists. -/
def fileAllowed (extensions : NameSet) : Validator :=
  allowedFiles extensions (Problem.extensionsMessage extensions)

def exactLength (n : Nat) : Validator := length (some n) (some n)

def atLeast (min : Int) : Validator := range (some min) none

/-- Whether a blank field passes all validators because of this one. -/
def passesBlank : Validator → Bool
  | optional => true
  | _ => false

/-- Whether a blank field is refused because of this validator. -/
def refusesBlank : Validator → Bool
  | dataRequired | fileRequired => true
  | _ => false

/-- Whether a bound is missing or a number is not beyond it. -/
def withinBounds {α : Type} [LE α] [DecidableLE α] (min max : Option α) (n : α) : Bool :=
  min.all (· ≤ n) && max.all (n ≤ ·)

/-- Whether a file's name has one of the extensions. -/
def allowsFile (extensions : NameSet) (filename : String) : Bool :=
  (fileExtension filename).any (· ∈ extensions)

/-- What a validator finds wrong with a field's value and files. -/
def problem? (validator : Validator) (value : Value) (files : List String) : Option Problem :=
  match validator, value with
  | allowedFiles extensions message, _ =>
    if files.all (allowsFile extensions) then none else some (.fileExtension message)
  | pattern asked message, .text s => if asked.accepts s then none else some (.pattern message)
  | length min max, .text s =>
    if withinBounds min max s.length then none else some (.length min max)
  | range min max, .integer n => if withinBounds min max n then none else some (.range min max)
  | _, _ => none

theorem problem?_fileAllowed (extensions : NameSet) (value : Value) (files : List String) :
    (fileAllowed extensions).problem? value files =
      if files.all (allowsFile extensions) then none
      else some (.fileExtension (Problem.extensionsMessage extensions)) := by
  cases value <;> rfl

theorem problem?_pattern_text (asked : Pattern) (message s : String) (files : List String) :
    (pattern asked message).problem? (.text s) files =
      if asked.accepts s then none else some (.pattern message) := rfl

theorem problem?_length_text (min max : Option Nat) (s : String) (files : List String) :
    (length min max).problem? (.text s) files =
      if withinBounds min max s.length then none else some (.length min max) := rfl

theorem problem?_range_integer (min max : Option Int) (n : Int) (files : List String) :
    (range min max).problem? (.integer n) files =
      if withinBounds min max n then none else some (.range min max) := rfl

def toJson : Validator → Json.Value
  | dataRequired => .ofMembers [("type", .string "data_required")]
  | optional => .ofMembers [("type", .string "optional")]
  | fileRequired => .ofMembers [("type", .string "file_required")]
  | allowedFiles extensions message =>
    .ofMembers
      [("type", .string "file_allowed"), ("extensions", .strings extensions.toList),
        ("message", .string message)]
  | pattern asked message =>
    .ofMembers
      [("type", .string "regexp"), ("pattern", .string asked.text), ("message", .string message)]
  | length min max =>
    .ofMembers
      [("type", .string "length"), ("min", .ofOption (fun n => .integer (n : Int)) min),
        ("max", .ofOption (fun n => .integer (n : Int)) max)]
  | range min max =>
    .ofMembers
      [("type", .string "number_range"), ("min", .ofOption .integer min),
        ("max", .ofOption .integer max)]

end Validator

end UploadGate.Form
