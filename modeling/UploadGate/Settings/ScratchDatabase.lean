import UploadGate.Address.Basic

/-! # Scratch databases

An address with the scheme sqlite names a file, and may carry options in a query. Without a file
name, with the name for the memory, or with the mode that keeps everything in memory, it names a
scratch database: a new one that is empty.
-/

namespace UploadGate.ScratchDatabase

/-- The options with the values that each may have. -/
def options : List (String × List String) :=
  [("mode", ["ro", "rw", "rwc", "memory"]), ("cache", ["private", "shared"]),
    ("immutable", ["true", "false", "1", "0"])]

def isOption (option : String × String) : Bool :=
  options.any fun (name, values) => option.1 = name && values.contains option.2

/-- A name or a value of an option, in which a plus sign stands for a space. -/
def plain? (cs : List Char) : Option String :=
  Text.Percent.decodeText? (cs.map fun c => if c = '+' then ' ' else c)

def readOption? (cs : List Char) : Option (String × String) := do
  let (name, value) := (Text.cutFirst '=' cs).getD (cs, [])
  return (← plain? name, ← plain? value)

/-- The options of a query, all of which must be known. -/
def readOptions? (query : List Char) : Option (List (String × String)) := do
  let found ← ((Text.split '&' query).filter (· ≠ [])).mapM readOption?
  if found.all isOption then some found else none

/-- Whether file names stand for a scratch database. -/
def isScratchName (name : String) : Bool := name = "" || name = ":memory:"

/-- Whether what follows the scheme and its slashes names a scratch database. -/
def isScratch (cs : List Char) : Bool :=
  let place := Text.before ['?'] cs
  match Text.Percent.decodeText? place, readOptions? (cs.drop (place.length + 1)) with
  | some name, some found => isScratchName name || found.contains ("mode", "memory")
  | _, _ => false

/-- Whether an address names a scratch database. -/
def isNamedBy (url : String) : Bool :=
  Address.isWellFormed url &&
    match Address.readScheme (Address.countedChars url) with
    | some (scheme, '/' :: '/' :: rest) => scheme = "sqlite".toList && isScratch rest
    | some (scheme, rest) => scheme = "sqlite".toList && isScratch rest
    | none => false

end UploadGate.ScratchDatabase
