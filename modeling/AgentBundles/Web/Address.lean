import AgentBundles.Domain.Name
import AgentBundles.Number.Text
import AgentBundles.Text.Case
import AgentBundles.Text.Percent
import AgentBundles.Web.HostNumber

/-!
# Web addresses

The parts of a web address and its normal form: the scheme and the host in lower case and in ASCII,
no number after the host where it is the usual one, no single or double dots among the names of the
path, and characters that may not stand written as bytes.
-/

namespace AgentBundles

/-- A web address. -/
structure Address where
  scheme : String
  user : String
  /-- The host; a number of eight parts is without its brackets. -/
  host : String
  /-- The number after the host. -/
  port : Option Int
  path : String
  query : Option String
  fragment : Option String
  deriving DecidableEq, Repr

/-- Why a text is no web address. -/
inductive AddressFault where
  | tooLong
  /-- A part of an address is too long. -/
  | partTooLong (name : String)
  | control (c : Char) (position : Nat)
  /-- What stands after the host is no number. -/
  | port (text : String)
  | fourPart (host : String)
  | eightPart (host : String)
  | domain (host : String)
  /-- No slash stands between the host and the path. -/
  | noSlash
  /-- There is neither scheme nor host, and the path begins with two slashes. -/
  | doubleSlash
  /-- There is neither scheme nor host, and the path begins with a colon. -/
  | colon
  deriving DecidableEq, Repr

/-- What a message says of a text that is no web address. -/
def AddressFault.message : AddressFault → String
  | .tooLong => "URL too long"
  | .partTooLong name => "URL component " ++ Text.inQuotes name ++ " too long"
  | .control c position =>
    "Invalid non-printable ASCII character in URL, " ++ Text.quoted (String.singleton c) ++
      " at position " ++ natText position ++ "."
  | .port text => "Invalid port: " ++ Text.quoted text
  | .fourPart host => "Invalid IPv4 address: " ++ Text.quoted host
  | .eightPart host => "Invalid IPv6 address: " ++ Text.quoted host
  | .domain host => "Invalid IDNA hostname: " ++ Text.quoted host
  | .noSlash => "For absolute URLs, path must be empty or begin with '/'"
  | .doubleSlash => "Relative URLs cannot have a path starting with '//'"
  | .colon => "Relative URLs cannot have a path starting with ':'"

namespace Address

/-! ### Parts -/

/-- The characters before the first one with a property, and those from it on. -/
def cutAt (p : Char → Bool) (cs : List Char) : List Char × List Char :=
  (cs.takeWhile fun c => !p c, cs.dropWhile fun c => !p c)

/-- Whether a character may stand in a scheme. -/
def isSchemeChar (c : Char) : Bool :=
  Text.isAsciiAlphanumeric c || c == '+' || c == '.' || c == '-'

/-- Whether characters are a scheme, which may be empty. -/
def isScheme : List Char → Bool
  | [] => true
  | c :: cs => Text.isAsciiLetter c && cs.all isSchemeChar

/-- The scheme of a text and what follows it; empty if there is none. -/
def cutScheme (cs : List Char) : List Char × List Char :=
  match cutAt (· == ':') cs with
  | (name, _ :: rest) => if isScheme name then (name, rest) else ([], cs)
  | _ => ([], cs)

/-- What stands between two slashes and the path, and the rest. -/
def cutAuthority : List Char → List Char × List Char
  | '/' :: '/' :: cs => cutAt (fun c => c == '/' || c == '?' || c == '#') cs
  | cs => ([], cs)

/-- What follows a mark, if the mark comes first. -/
def after? (mark : Char) : List Char → Option (List Char)
  | [] => none
  | c :: cs => if c == mark then some cs else none

/-- The user of an authority, which ends before the last at sign, and the rest. -/
def cutUser (cs : List Char) : List Char × List Char :=
  let rest := (cs.reverse.takeWhile (· != '@')).reverse
  if rest.length = cs.length then ([], cs) else (cs.take (cs.length - rest.length - 1), rest)

/-- The host of an authority, and the rest; a host in brackets ends after the last bracket. -/
def cutHost (cs : List Char) : List Char × List Char :=
  let inside := (cs.reverse.dropWhile (· != ']')).reverse
  if cs.head? == some '[' && !inside.isEmpty then (inside, cs.drop inside.length)
  else cutAt (· == ':') cs

/-! ### Normal form -/

/-- The characters that separate parts within parts. -/
def isDelimiter (c : Char) : Bool := "!$&'()*+,;=".toList.contains c

/-- Whether a character can be seen and may stand in some part of an address. -/
def isVisible (c : Char) : Bool :=
  0x20 < c.toNat && c.toNat < 0x7F && c != '"' && c != '<' && c != '>'

/-- Whether a character may stand in a path. -/
def inPath (c : Char) : Bool := isVisible c && !"#?`\x7b\x7d".toList.contains c

/-- Whether a character may stand in a query. -/
def inQuery (c : Char) : Bool := isVisible c && c != '#'

/-- Whether a character may stand in a fragment. -/
def inFragment (c : Char) : Bool := isVisible c && c != '`'

/-- Whether a character may stand in the name of a user. -/
def inUser (c : Char) : Bool := inPath c && !"/;=@[\\]^|".toList.contains c

/-- Whether a character may stand in the name of a host. -/
def inHost (c : Char) : Bool :=
  Text.isUnreserved c || isDelimiter c || "\"`\x7b\x7d%|\\".toList.contains c

/-- A part of an address with the characters that may not stand written as bytes. -/
def encode (mayStand : Char → Bool) (cs : List Char) : String :=
  String.ofList (Text.percentEncode mayStand cs)

/-- One more name on the way through a path. -/
def step (done : List String) (name : String) : List String :=
  if name == "." then done
  else if name == ".." then (if done.isEmpty || done == [""] then done else done.dropLast)
  else done ++ [name]

/-- A path without single and double dots among its names. -/
def withoutDots (path : String) : String :=
  let names := Text.segments path
  if names.contains "." || names.contains ".." then Text.join "/" (names.foldl step []) else path

/-- The number after the host that is usual for a scheme. -/
def usualPort? (scheme : String) : Option Int :=
  match scheme with
  | "http" => some 80
  | "https" => some 443
  | "ws" => some 80
  | "wss" => some 443
  | "ftp" => some 21
  | _ => none

/-- The number after the host, unless it is the usual one of the scheme. -/
def portOf (scheme : String) (cs : List Char) : Except AddressFault (Option Int) :=
  if cs.isEmpty then .ok none
  else
    match integerInBase 10 cs with
    | .ok n => .ok (if some n = usualPort? scheme then none else some n)
    | .error _ => .error (.port (String.ofList cs))

/-- A host in normal form. -/
def hostOf (cs : List Char) : Except AddressFault String :=
  if cs.isEmpty then .ok ""
  else if Web.looksFourPart cs then
    if Web.isFourPart cs then .ok (String.ofList cs) else .error (.fourPart (String.ofList cs))
  else if cs.head? == some '[' && cs.getLast? == some ']' then
    let inside := cs.tail.dropLast
    if Web.isEightPart inside then .ok (String.ofList inside)
      else .error (.eightPart (String.ofList cs))
  else if cs.all fun c => c.toNat < 0x80 then
    .ok (encode inHost (cs.map Char.toLower))
  else
    match Domain.toAscii (Text.lowerAll cs) with
    | .ok ascii => .ok (String.ofList ascii)
    | .error _ => .error (.domain (String.ofList cs))

/-- Checks where a path begins. -/
def checkPath (path : List Char) (hasScheme hasAuthority : Bool) : Except AddressFault Unit :=
  if hasAuthority then
    if path.isEmpty || path.head? == some '/' then .ok () else .error .noSlash
  else if hasScheme then .ok ()
  else if ['/', '/'].isPrefixOf path then .error .doubleSlash
  else if path.head? == some ':' then .error .colon
  else .ok ()

/-- The address of some parts: the scheme, what stands before the path, the path, the query and the
fragment. -/
def ofParts (scheme authority path : List Char) (query fragment : Option (List Char)) :
    Except AddressFault Address := do
  let (user, rest) := cutUser authority
  let (host, number) := cutHost rest
  let user := encode inUser user
  let host ← hostOf host
  let port ← portOf (String.ofList scheme)
    (if number.head? == some ':' then number.tail else number)
  let hasAuthority := !(user.isEmpty && host.isEmpty && port.isNone)
  checkPath path (!scheme.isEmpty) hasAuthority
  let path := if scheme.isEmpty && !hasAuthority then path
    else (withoutDots (String.ofList path)).toList
  return {
    scheme := String.ofList (scheme.map Char.toLower)
    user := user
    host := host
    port := port
    path := encode inPath path
    query := query.map (encode inQuery)
    fragment := fragment.map (encode inFragment) }

/-- The most characters that an address, or a part of one, has. -/
def longest : Nat := 65536

/-- Whether a character is one of ASCII that cannot be seen. -/
def isControl (c : Char) : Bool := c.toNat < 0x20 || c.toNat = 0x7F

/-- The address that a text is. -/
def ofText (s : String) : Except AddressFault Address := do
  if longest < s.length then
    throw .tooLong
  match s.toList.find? isControl with
  | some c => throw (.control c (s.toList.takeWhile (!isControl ·)).length)
  | none => pure ()
  let (scheme, rest) := cutScheme s.toList
  let (authority, rest) := cutAuthority rest
  let (path, rest) := cutAt (fun c => c == '?' || c == '#') rest
  let (query, rest) := cutAt (· == '#') rest
  ofParts scheme authority path (after? '?' query) (after? '#' rest)

/-! ### Text -/

/-- A text with a mark in front, if there is one. -/
def marked (mark : String) : Option String → String
  | some s => mark ++ s
  | none => ""

/-- The host, in brackets if it holds colons, and the number after it. -/
def server (a : Address) : String :=
  (if a.host.toList.contains ':' then "[" ++ a.host ++ "]" else a.host) ++ marked ":"
    (a.port.map intText)

/-- The user, the host and the number after it. -/
def authority (a : Address) : String :=
  (if a.user.isEmpty then "" else a.user ++ "@") ++ a.server

/-- The text of an address. -/
def text (a : Address) : String :=
  (if a.scheme.isEmpty then "" else a.scheme ++ ":") ++
    (if a.authority.isEmpty then "" else "//" ++ a.authority) ++ a.path ++ marked "?" a.query ++
    marked "#" a.fragment

/-- Whether an address names no host or no way to get there. -/
def isRelative (a : Address) : Bool := a.scheme.isEmpty || a.host.isEmpty

/-- Checks the lengths of parts. -/
def checkLengths (parts : List (String × String)) : Except AddressFault Unit :=
  match parts.find? fun p => longest < p.2.length with
  | some p => .error (.partTooLong p.1)
  | none => .ok ()

/-- The address of the parts of an address, which are brought into normal form once more. -/
def renew (a : Address) : Except AddressFault Address := do
  checkLengths [("scheme", a.scheme), ("authority", a.authority), ("path", a.path),
    ("query", a.query.getD ""), ("fragment", a.fragment.getD "")]
  ofParts a.scheme.toList a.authority.toList a.path.toList (a.query.map String.toList)
    (a.fragment.map String.toList)

/-- An address that can be asked: without scheme and host only the path and the query count, and the
path starts from the root. -/
def toRequest (a : Address) : Except AddressFault Address :=
  if a.isRelative then
    renew {
      scheme := "", user := "", host := "", port := none
      path := "/" ++ String.ofList (a.path.toList.dropWhile (· == '/'))
      query := a.query, fragment := none }
  else
    .ok a

/-- The host in all letters. -/
def displayHost (a : Address) : Except Domain.Fault String :=
  if Text.startsWith a.host (String.ofList Domain.sign) then
    (Domain.ofAscii a.host.toList).map String.ofList
  else
    .ok a.host

end Address

end AgentBundles
