import UploadGate.Text.Split

/-! # Media types

A media type is a type and a subtype, which may have a suffix after its last plus sign, and
parameters, each with a value. Names are tokens, values are tokens or quoted. Upper and lower case
make no difference.
-/

namespace UploadGate.Http

structure MediaType where
  type : List Char
  subtype : List Char
  suffix : Option (List Char)
deriving DecidableEq

namespace MediaType

/-- Characters of names. -/
def isToken (c : Char) : Bool :=
  c.isAlphanum ||
    ['!', '#', '$', '%', '&', '\'', '*', '+', '-', '.', '^', '_', '\x60', '|', '~'].contains c

/-- Where in a list of parameters a text stands. -/
inductive Place where
  /-- Before the name of a parameter. -/
  | start
  | name
  /-- Before the value of a parameter. -/
  | value
  | token
  /-- Behind the opening quote, where the next character belongs to the value. -/
  | opened
  | quoted
  /-- Behind the closing quote. -/
  | closed
deriving DecidableEq

/-- Where the next character leads, if it may stand there. -/
def Place.next (place : Place) (c : Char) : Option Place :=
  match place with
  | start => if c = ' ' then some start else if isToken c then some name else none
  | name => if c = '=' then some value else if isToken c then some name else none
  | value => if c = '\"' then some opened else if isToken c then some token else none
  | token => if c = ';' then some start else if isToken c then some token else none
  | opened => if ' ' ≤ c then some quoted else none
  | quoted => if c = '\"' then some closed else if ' ' ≤ c then some quoted else none
  | closed => if c = ';' then some start else if c = ' ' then some closed else none

/-- Whether parameters may end here. -/
def Place.isEnd : Place → Bool
  | start | value | token | closed => true
  | name | opened | quoted => false

/-- Whether a text is a list of parameters. -/
def areParameters (cs : List Char) : Bool := (cs.foldlM Place.next .start).any Place.isEnd

/-- Read a media type; parameters follow a semicolon or a space. -/
def ofText? (text : String) : Option MediaType :=
  match Text.cutFirst '/' (text.toList.map Char.toLower) with
  | some (c :: type, rest) =>
    let name := rest.takeWhile isToken
    let goodEnd := match rest.drop name.length with
      | [] => true
      | d :: parameters => name ≠ [] && (d = ';' || d = ' ') && areParameters parameters
    if (c :: type).all isToken && goodEnd then
      match Text.cutLast '+' name with
      | some (d :: subtype, suffix) => some ⟨c :: type, d :: subtype, some suffix⟩
      | _ => some ⟨c :: type, name, none⟩
    else none
  | _ => none

/-- Whether content of the type is JSON. -/
def isJson (media : MediaType) : Bool :=
  media.type = "application".toList &&
    (media.subtype = "json".toList || media.suffix = some "json".toList)

end MediaType

end UploadGate.Http
