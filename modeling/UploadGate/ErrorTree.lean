import UploadGate.Json.Value
import UploadGate.Number.Numeral

/-! # Validation errors and their paths

The errors found in a structured value form a tree: a name leads to the issues of a field, to the
errors inside a structure, or to those inside the items of a list. Flattened, every field that was
looked at stands under its path, in which a dot leads into a structure and an index in brackets
into a list.
-/

namespace UploadGate

/-- One thing that is wrong, by its code, and in words if there are any. -/
structure Issue where
  code : String
  message : Option String
deriving DecidableEq

/-- The words of an issue, or else its code. -/
def Issue.text (issue : Issue) : String := issue.message.getD issue.code

inductive ErrorNode where
  | field (issues : List Issue)
  | group (members : List (String × ErrorNode))
  /-- The errors of the items with the given indices. -/
  | items (found : List (Nat × List (String × ErrorNode)))

/-- The errors of a structure by the names of its members. -/
abbrev ErrorTree := List (String × ErrorNode)

namespace ErrorTree

/-- The path of a member; at the top, where the path is empty, its name alone. -/
def memberPath (path name : String) : String := if path = "" then name else path ++ "." ++ name

def itemPath (path : String) (index : Nat) : String :=
  path ++ "[" ++ Numeral.text index ++ "]"

/-- A field with issues that was reached by a path. -/
structure Leaf where
  path : String
  issues : List Issue

mutual

/-- The fields of a node that was reached by a path. -/
def nodeLeaves (path : String) : ErrorNode → List Leaf
  | .field issues => [⟨path, issues⟩]
  | .group members => leavesUnder path members
  | .items found => itemLeaves path found

/-- The fields of a structure that was reached by a path. -/
def leavesUnder (path : String) : List (String × ErrorNode) → List Leaf
  | [] => []
  | (name, node) :: later => nodeLeaves (memberPath path name) node ++ leavesUnder path later

/-- The fields of the items of a list that was reached by a path. -/
def itemLeaves (path : String) : List (Nat × List (String × ErrorNode)) → List Leaf
  | [] => []
  | (index, members) :: later => leavesUnder (itemPath path index) members ++ itemLeaves path later

end

def leaves (tree : ErrorTree) : List Leaf := leavesUnder "" tree

def Leaf.texts (leaf : Leaf) : List String := leaf.issues.map Issue.text

/-- Put the texts of a field under its path, after those that are there. -/
def collect (table : NameTable (List String)) (leaf : Leaf) : NameTable (List String) :=
  table.alter leaf.path fun found => found.getD [] ++ leaf.texts

/-- The texts of all fields by their paths. A field without issues keeps its path. -/
def messages (tree : ErrorTree) : NameTable (List String) := tree.leaves.foldl collect ∅

/-- The errors of a structure without members of its own. -/
def ofIssues (fields : NameTable (List Issue)) : ErrorTree :=
  fields.entries.map fun (name, issues) => (name, .field issues)

end ErrorTree

end UploadGate
