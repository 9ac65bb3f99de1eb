import UploadGate.Settings.Basic

/-! # Environment files

A file of definitions, one in a line, for variables that the environment does not have yet. White
space around a line, a name or a value is dropped, and so are the quotes around a value. Blank
lines, comments and lines without an equals sign define nothing. A definition that cannot be carried
out, since its name is empty or a NUL stands in it, stops the loading; the definitions before it
remain.
-/

namespace UploadGate.EnvFile

structure Definition where
  name : String
  value : String
deriving DecidableEq

/-- The variables that are set. -/
abbrev Environment := NameTable String

/-- What a line defines. -/
def definition? (line : List Char) : Option Definition :=
  let line := Text.strip Text.isBlank line
  if line.head? = some '#' then none
  else (Text.cutFirst '=' line).map fun (name, value) =>
    { name := .ofList (Text.strip Text.isBlank name)
      value := .ofList (Text.strip (· = '\"') (Text.strip Text.isBlank value)) }

/-- What the lines of a file define, in their order. -/
def definitions (content : String) : List Definition :=
  (Text.split '\n' content.toList).filterMap definition?

/-- Whether the environment can hold a definition. -/
def Definition.settable (definition : Definition) : Bool :=
  definition.name ≠ "" && !definition.name.toList.contains '\x00' &&
    !definition.value.toList.contains '\x00'

structure Outcome where
  environment : Environment
  /-- Whether a definition could not be carried out. -/
  stopped : Bool
deriving DecidableEq

/-- Carry out definitions up to the first one that is neither settable nor for a variable that is
set already. -/
def apply (environment : Environment) : List Definition → Outcome
  | [] => ⟨environment, false⟩
  | definition :: later =>
    if (environment.get? definition.name).isSome then apply environment later
    else if definition.settable then
      apply (environment.insert definition.name definition.value) later
    else ⟨environment, true⟩

/-- Load a file, if there is one, into the environment. -/
def load (environment : Environment) (content : Option String) : Outcome :=
  apply environment ((content.map definitions).getD [])

end UploadGate.EnvFile
