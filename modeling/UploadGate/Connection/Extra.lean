import UploadGate.Connection.Basic

/-! # The extra document of a connection

Administrators keep further settings of a connection as the text of a JSON object. One of them
lists the schemas to which uploads are restricted. A document that is missing, blank or not of that
shape restricts nothing.
-/

namespace UploadGate.Connection

def extraFields : Json.Decode.Fields (Option (List String)) where
  names := ["schemas_allowed_for_file_upload"]
  read _ scan _ := Json.Decode.optional (Json.Decode.list Json.Decode.string) scan

/-- The list of schemas in an extra document. -/
def extraDecoder : Json.Decoder (List String) :=
  Json.Decode.record extraFields none fun found => some (found.getD [])

/-- The names of a list without the white space around them, and without the blank ones. -/
def normalNames (names : List String) : NameSet :=
  .ofList ((names.map Text.trim).filter (· ≠ ""))

/-- The schemas to which an extra document restricts uploads. -/
def schemasOfExtra (extra : Option String) : NameSet :=
  match extra.map Text.trim with
  | none => ∅
  | some text =>
    if text = "" then ∅
    else match Json.decode extraDecoder text with
      | .ok names => normalNames names
      | .error _ => ∅

end UploadGate.Connection
