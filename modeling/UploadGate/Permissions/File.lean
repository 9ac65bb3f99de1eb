import UploadGate.Permissions.Basic

/-! # Permission files

A permission file is a JSON list of snapshots, one for a user each.
-/

namespace UploadGate.PermissionFile

inductive Fault where
  /-- There is no such file, or it cannot be read. -/
  | unreadable
  | malformed
deriving DecidableEq

/-- What is reported of the file at a path, which ends in what a library says of it. -/
def Fault.message (path detail : String) : Fault → String
  | unreadable => "无法读取权限文件 " ++ path ++ ": " ++ detail
  | malformed => "权限文件格式错误 " ++ path ++ ": " ++ detail

/-- The snapshots of a file with the given content, if there is such a file. -/
def read (content : Option String) : Except Fault (List Permissions) :=
  match content with
  | none => .error .unreadable
  | some text =>
    match Json.decode (Json.Decode.list Permissions.decoder) text with
    | .ok grants => .ok grants
    | .error _ => .error .malformed

/-- The content of a file with some snapshots. -/
def write (grants : List Permissions) : String :=
  (Json.Value.array (grants.map Permissions.toJson)).text

end UploadGate.PermissionFile
