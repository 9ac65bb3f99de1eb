import UploadGate.ServiceError

/-! # Text patterns

A pattern is written as a text and accepts some texts. Which texts those are is up to the rules of a
pattern language, which also say what is wrong with a text that is no pattern.

The rules given here know the patterns that ask for one or more characters, none of which may be
among those excluded: an anchored, negated character class that is repeated. The excluded characters
stand between the brackets, and those that would be read as signs follow a backslash.
-/

namespace UploadGate.Form

structure Pattern where
  /-- The pattern as written. -/
  text : String
  accepts : String → Bool

namespace Pattern

/-- Read a pattern of a field, which must be one. -/
def ofText (rules : String → Except String (String → Bool)) (text : String) :
    Except ServiceError Pattern :=
  match rules text with
  | .ok accepts => .ok ⟨text, accepts⟩
  | .error fault => .error (.internal ("invalid field pattern " ++ text ++ ": " ++ fault))

/-! ## Excluded characters -/

/-- The characters that mean more than themselves between brackets. -/
def signs : List Char := ['[', ']', '^', '-', '&', '~', '\\']

/-- The marks that a backslash turns into themselves. -/
def escapable : List Char :=
  ['\\', '.', '+', '*', '?', '(', ')', '|', '[', ']', '{', '}', '^', '$', '#', '&', '-', '~']

/-- The characters between the brackets, up to the end of the pattern. -/
def readClass : List Char → Option (List Char)
  | ']' :: '+' :: '$' :: [] => some []
  | '\\' :: c :: rest => if c ∈ escapable then (readClass rest).map (c :: ·) else none
  | c :: rest => if c ∈ signs then none else (readClass rest).map (c :: ·)
  | [] => none

/-- The characters that a pattern excludes, at least one. -/
def excluded? (text : String) : Option (List Char) :=
  match text.toList with
  | '^' :: '[' :: '^' :: rest => (readClass rest).filter (· ≠ [])
  | _ => none

/-- Whether a text is of one or more characters, none of them excluded. -/
def avoids (excluded : List Char) (s : String) : Bool :=
  !s.toList.isEmpty && s.toList.all fun c => !excluded.contains c

theorem avoids_iff {excluded : List Char} {s : String} :
    avoids excluded s = true ↔ s ≠ "" ∧ ∀ c ∈ s.toList, c ∉ excluded := by
  simp [avoids]

/-- The rules for patterns that exclude characters; no other text is a pattern. -/
def exclusionRules (text : String) : Except String (String → Bool) :=
  match excluded? text with
  | some excluded => .ok (avoids excluded)
  | none => .error "not a class of excluded characters"

end Pattern

end UploadGate.Form
