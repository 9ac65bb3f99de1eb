import UploadGate.Address.Host
import UploadGate.Text.Blank

/-! # Addresses of services

An address is a scheme, a host and port if they are given, a path of segments, and a query if there
is one. Addresses of the web must have a host, and addresses of files may have one, but no port. Any
other address without a host is accepted only if its path starts with a slash, since nothing can be
added to another path. White space at the ends and tabs and line breaks anywhere do not count.
-/

namespace UploadGate

structure Address where
  scheme : List Char
  /-- The segments of the path in percent-encoded form; an empty one ends a path in a slash. -/
  segments : List (List Char)
  query : Option (List Char)
deriving DecidableEq

namespace Address

/-! ## Reading -/

def isBreak (c : Char) : Bool := c = '\t' || c = '\n' || c = '\r'

/-- The control characters and the space. -/
def isEdge (c : Char) : Bool := c.toNat ≤ 0x20

def isSchemeChar (c : Char) : Bool := c.isAlphanum || c = '+' || c = '-' || c = '.'

/-- The scheme in lower case, and what follows its colon. -/
def readScheme (cs : List Char) : Option (List Char × List Char) :=
  match Text.cutFirst ':' cs with
  | some (c :: scheme, rest) =>
    if c.isAlpha && scheme.all isSchemeChar then some ((c :: scheme).map Char.toLower, rest)
    else none
  | _ => none

def webSchemes : List (List Char) :=
  ["http".toList, "https".toList, "ws".toList, "wss".toList, "ftp".toList]

def isWeb (scheme : List Char) : Bool := webSchemes.contains scheme

def isFile (scheme : List Char) : Bool := scheme = "file".toList

/-- Whether a backslash parts the path as a slash does. -/
def takesBackslash (scheme : List Char) : Bool := isWeb scheme || isFile scheme

def isSlash (scheme : List Char) (c : Char) : Bool := c = '/' || (takesBackslash scheme && c = '\\')

/-- Whether a character ends the host and the port. -/
def endsAuthority (scheme : List Char) (c : Char) : Bool := isSlash scheme c || c = '?' || c = '#'

/-- What a path may not hold in plain form. -/
def isEscapedInPath (c : Char) : Bool :=
  c.toNat ≤ 0x20 || 0x7f ≤ c.toNat || ['\"', '#', '<', '>', '?', '\x60', '\x7b', '\x7d'].contains c

/-- What a query may not hold in plain form. -/
def isEscapedInQuery (scheme : List Char) (c : Char) : Bool :=
  c.toNat ≤ 0x20 || 0x7f ≤ c.toNat || ['\"', '#', '<', '>'].contains c ||
    (takesBackslash scheme && c = '\'')

/-- A segment with its escaped dots as dots. -/
def plainDots : List Char → List Char
  | '%' :: '2' :: e :: rest =>
    if e = 'e' ∨ e = 'E' then '.' :: plainDots rest else '%' :: plainDots ('2' :: e :: rest)
  | c :: rest => c :: plainDots rest
  | [] => []

/-- Add a segment to those before it: a dot adds none, two dots take one away. Where either ends the
path, the path ends in a slash. -/
def addSegment (final : Bool) (before : List (List Char)) (segment : List Char) :
    List (List Char) :=
  let dots := plainDots segment
  if dots = ['.'] then if final then before ++ [[]] else before
  else if dots = ['.', '.'] then if final then before.dropLast ++ [[]] else before.dropLast
  else before ++ [Text.Percent.encode isEscapedInPath segment]

def resolve (before : List (List Char)) : List (List Char) → List (List Char)
  | [] => before
  | [segment] => addSegment true before segment
  | segment :: later => resolve (addSegment false before segment) later

/-- The segments of a path after its first slash. -/
def readSegments (scheme cs : List Char) : List (List Char) :=
  let slashes := cs.map fun c => if isSlash scheme c then '/' else c
  resolve [] (Text.split '/' slashes)

/-- The path and the query of an address after its authority, without the fragment. -/
def readPath (scheme cs : List Char) : Address :=
  let cs := Text.before ['#'] cs
  let path := Text.before ['?'] cs
  let query := if path.length = cs.length then none else some (cs.drop (path.length + 1))
  let segments := match path with
    | [] => if takesBackslash scheme then [[]] else []
    | c :: rest => readSegments scheme (if isSlash scheme c then rest else c :: rest)
  { scheme, segments, query := query.map (Text.Percent.encode (isEscapedInQuery scheme)) }

/-- The user of an authority, if there is one, and what follows it. -/
def cutUser (scheme cs : List Char) : Option (List Char) × List Char :=
  match Text.cutLast '@' (cs.takeWhile fun c => !endsAuthority scheme c) with
  | some (user, _) => (some user, cs.drop (user.length + 1))
  | none => (none, cs)

/-- The host that a text starts with, up to a colon outside of brackets, and what follows it. -/
def cutHost (scheme : List Char) (bracketed : Bool) : List Char → List Char × List Char
  | [] => ([], [])
  | c :: cs =>
    if endsAuthority scheme c || (c = ':' && !bracketed) then ([], c :: cs)
    else
      let (host, rest) := cutHost scheme (c = '[' || (bracketed && c ≠ ']')) cs
      (c :: host, rest)

/-- What follows the port that a text starts with, where a port may be missing or empty. A backslash
ends a port in every scheme. -/
def skipPort : List Char → Option (List Char)
  | ':' :: cs =>
    let port := cs.takeWhile Char.isDigit
    let rest := cs.drop port.length
    let inRange := Numeral.valueIn 10 port ≤ 65535
    if inRange && rest.head?.all ['/', '\\', '?', '#'].contains then some rest else none
  | cs => some cs

/-- Whether an authority may go without host: it has no user, or one of which nothing is left, and
no port. -/
def mayLackHost (user : Option (List Char)) (rest : List Char) : Bool :=
  rest.head? ≠ some ':' &&
    match user with
    | none | some [':'] => true
    | some [] => rest = []
    | some _ => false

/-- Whether a text is the host of an address of the scheme. -/
def isHost (scheme host : List Char) : Bool :=
  if isWeb scheme then Host.isWebHost host else Host.isOtherHost host

/-- An address whose authority starts here. -/
def readAuthority (scheme cs : List Char) : Option Address := do
  let (user, place) := cutUser scheme cs
  let (host, rest) := cutHost scheme false place
  if isHost scheme host && (host ≠ [] || mayLackHost user rest) then
    return readPath scheme (← skipPort rest)
  else none

/-- Whether a text names a drive, which is no host. -/
def isDrive : List Char → Bool
  | [c, d] => c.isAlpha && (d = ':' || d = '|')
  | _ => false

/-- The address of a file whose host starts here. A host may be missing; it has no user and no
port. -/
def readFileHost (scheme cs : List Char) : Option Address :=
  let host := cs.takeWhile fun c => !endsAuthority scheme c
  if isDrive host then some (readPath scheme cs)
  else if host = [] || Host.isWebHost host then some (readPath scheme (cs.drop host.length))
  else none

/-- The address of a file, whose host follows two slashes. -/
def readFile (scheme : List Char) : List Char → Option Address
  | c :: d :: cs =>
    if isSlash scheme c && isSlash scheme d then readFileHost scheme cs
    else some (readPath scheme (c :: d :: cs))
  | cs => some (readPath scheme cs)

/-- An address of another scheme, whose authority follows two slashes. -/
def readOther (scheme : List Char) : List Char → Option Address
  | '/' :: '/' :: cs => readAuthority scheme cs
  | '/' :: cs => some (readPath scheme ('/' :: cs))
  | _ => none

/-- The characters of a text that count. -/
def countedChars (text : String) : List Char :=
  (Text.strip isEdge text.toList).filter fun c => !isBreak c

/-- Read a whole text. -/
def ofText? (text : String) : Option Address := do
  let (scheme, rest) ← readScheme (countedChars text)
  if isWeb scheme then readAuthority scheme (rest.dropWhile (isSlash scheme))
  else if isFile scheme then readFile scheme rest
  else readOther scheme rest

/-- Whether a text is an address to whose path nothing can be added. -/
def isOpaqueText (text : String) : Bool :=
  (readScheme (countedChars text)).any fun (scheme, rest) =>
    !isWeb scheme && !isFile scheme && rest.head? ≠ some '/'

/-- Whether a text is an address of either kind. -/
def isWellFormed (text : String) : Bool := (ofText? text).isSome || isOpaqueText text

/-! ## Paths below an address -/

def isEscapedInSegment (scheme : List Char) (c : Char) : Bool :=
  isEscapedInPath c || c = '/' || c = '%' || (takesBackslash scheme && c = '\\')

/-- Add a name to the path as a segment of its own. Tabs and line breaks do not count. A name of one
or two dots adds nothing; one that becomes such a name without its tabs and line breaks stands for
a step of the path, as in reading. -/
def child (address : Address) (name : String) : Address :=
  if name = "." ∨ name = ".." then address
  else
    let plain := name.toList.filter fun c => !isBreak c
    let segments :=
      if plain = ['.'] then address.segments ++ [[]]
      else if plain = ['.', '.'] then address.segments.dropLast ++ [[]]
      else address.segments ++ [Text.Percent.encode (isEscapedInSegment address.scheme) plain]
    { address with segments }

/-- The address without the slash at the end of its path. -/
def withoutSlash (address : Address) : Address :=
  let segments :=
    if address.segments.getLast? = some [] then address.segments.dropLast else address.segments
  { address with segments := if segments = [[]] then [] else segments }

/-- What a request for the address asks its host for: path and query. -/
def target (address : Address) : String :=
  let path := address.segments.flatMap ('/' :: ·)
  let query := match address.query with
    | some query => '?' :: query
    | none => []
  .ofList ((if path = [] then ['/'] else path) ++ query)

end Address

end UploadGate
