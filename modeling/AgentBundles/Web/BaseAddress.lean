import AgentBundles.Web.Address

/-!
# Base addresses

What is asked of a base address before it is used: its brackets go together and hold a number, and
no character of its host looks like one that separates parts. Spaces and control characters in
front, tabs and line breaks do not count.
-/

namespace AgentBundles

/-- Why a text cannot be a base address. -/
inductive BaseFault where
  /-- There is a bracket without the other one. -/
  | brackets
  /-- What stands in brackets begins like a number of another kind, and is none. -/
  | otherNumber
  | fourPartInBrackets
  | noNumber (text : String)
  /-- The host holds characters that look like those that separate parts. -/
  | separators (authority : String)
  deriving DecidableEq, Repr

/-- What a message says of a text that cannot be a base address. -/
def BaseFault.message : BaseFault → String
  | .brackets => "Invalid IPv6 URL"
  | .otherNumber => "IPvFuture address is invalid"
  | .fourPartInBrackets => "An IPv4 address cannot be in brackets"
  | .noNumber text => Text.quoted text ++ " does not appear to be an IPv4 or IPv6 address"
  | .separators authority =>
    "netloc " ++ Text.inQuotes authority ++ " contains invalid characters under NFKC normalization"

namespace Address

/-- The characters that stand for a slash, question mark, number sign, at sign or colon, or hold
one. -/
def separatorLikes : List Nat :=
  [0x2047, 0x2048, 0x2049, 0x2100, 0x2101, 0x2105, 0x2106, 0x2A74, 0xFE13, 0xFE16, 0xFE55, 0xFE56,
   0xFE5F, 0xFE6B, 0xFF03, 0xFF0F, 0xFF1A, 0xFF1F, 0xFF20]

/-- The characters of a base address that count. -/
def baseCharacters (s : String) : List Char :=
  (s.toList.dropWhile fun c => c.toNat ≤ 0x20).filter fun c =>
    !(c == '\t' || c == '\n' || c == '\r')

/-- Whether characters are a number of another kind: a `v`, hexadecimal digits, a dot, and something
more. -/
def isOtherNumber (cs : List Char) : Bool :=
  match cs with
  | 'v' :: cs =>
    !(cs.takeWhile fun c => (Text.hexValue? c).isSome).isEmpty &&
      match cs.dropWhile fun c => (Text.hexValue? c).isSome with
      | '.' :: rest => !rest.isEmpty
      | _ => false
  | _ => false

/-- Checks what stands in brackets. -/
def checkBracketed (cs : List Char) : Except BaseFault Unit :=
  if cs.head? == some 'v' then (if isOtherNumber cs then .ok () else .error .otherNumber)
  else if Web.isFourPart cs then .error .fourPartInBrackets
  else if Web.isEightPart cs then .ok ()
  else .error (.noNumber (String.ofList cs))

/-- The scheme of a base address, in lower case. -/
def schemeOfBase (s : String) : Except BaseFault String := do
  let cs := baseCharacters s
  let (scheme, rest) := match cutScheme cs with
    | ([], _) => ([], cs)
    | parts => parts
  let (authority, _) := cutAuthority rest
  let opens := authority.contains '['
  let closes := authority.contains ']'
  if opens != closes then
    throw .brackets
  if opens then
    checkBracketed (((authority.dropWhile (· != '[')).drop 1).takeWhile (· != ']'))
  if authority.any fun c => separatorLikes.contains c.toNat then
    throw (.separators (String.ofList authority))
  return String.ofList (scheme.map Char.toLower)

end Address

end AgentBundles
