import UploadGate.Text.Percent
import UploadGate.Text.Split

/-! # Routes

The paths at which the service answers. The path of a form has the name of the form as one of its
segments, which is not empty and still percent-encoded. A path has no other form than the one shown
here: with a slash added at its end it is unknown.
-/

namespace UploadGate.Http

inductive Route where
  | databases
  | forms
  | form (segment : List Char)
  | validate (segment : List Char)
  | health
  | apiDocs
deriving DecidableEq

inductive Method where
  | get
  | post
deriving DecidableEq

namespace Route

/-- The route of the segments of a path. -/
def ofSegments? : List (List Char) → Option Route
  | [first, second] =>
    if first = "api".toList ∧ second = "health".toList then some health
    else if first = "api-docs".toList ∧ second = "openapi.json".toList then some apiDocs
    else none
  | [first, second, third] =>
    if first = "api".toList ∧ second = "upload".toList then
      if third = "databases".toList then some databases
      else if third = "forms".toList then some forms
      else none
    else none
  | [first, second, third, kind] =>
    if first = "api".toList ∧ second = "upload".toList ∧ third = "forms".toList ∧ kind ≠ [] then
      some (form kind)
    else none
  | [first, second, third, kind, last] =>
    if first = "api".toList ∧ second = "upload".toList ∧ third = "forms".toList ∧ kind ≠ [] ∧
      last = "validate".toList then
      some (validate kind)
    else none
  | _ => none

/-- The route of a path. -/
def ofPath? (path : List Char) : Option Route :=
  match Text.split '/' path with
  | [] :: segments => ofSegments? segments
  | _ => none

/-- The path of a target, without query and fragment. A target that starts with no slash may have
a scheme and a host before its path. -/
def pathOf (target : String) : List Char :=
  let cs := Text.before ['?'] (Text.before ['#'] target.toList)
  if cs.head? = some '/' then cs
  else
    let scheme := Text.before "://".toList cs
    (cs.drop (scheme.length + 3)).dropWhile (· ≠ '/')

/-- Whether only authenticated requests are let in. -/
def isGuarded : Route → Bool
  | databases | forms | form _ | validate _ => true
  | health | apiDocs => false

/-- The method of a route. -/
def method : Route → Method
  | validate _ => .post
  | _ => .get

end Route

end UploadGate.Http
