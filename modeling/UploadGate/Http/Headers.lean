import UploadGate.Text.Blank

/-! # Request headers

The first header of a name counts, in upper or lower case. Its value is a text if it holds nothing
but printable ASCII characters and tabs.
-/

namespace UploadGate.Http

abbrev Headers := List (String × String)

def isTextChar (c : Char) : Bool := c = '\t' || (' ' ≤ c && c ≤ '~')

namespace Headers

/-- The value of a header that is a text. -/
def text? (headers : Headers) (name : String) : Option String :=
  ((headers.find? fun header => header.1.toLower = name).map (·.2)).filter fun value =>
    value.toList.all isTextChar

/-- The user on whose behalf a request comes. -/
def remoteUser? (headers : Headers) : Option String :=
  ((headers.text? "x-remote-user").map Text.trim).filter (· ≠ "")

/-- The identifier that a request brings along. -/
def requestId? (headers : Headers) : Option String :=
  (headers.text? "x-request-id").filter (· ≠ "")

end Headers

end UploadGate.Http
