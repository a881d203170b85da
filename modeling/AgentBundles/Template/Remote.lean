import AgentBundles.Data.Base64
import AgentBundles.Template.Source
import AgentBundles.Web.BaseAddress
import AgentBundles.Web.Query

/-!
# Templates on the web

A template is what the web has at the address made of a base address, the identifier and the ending
`.md`. Only identifiers that stand for themselves in an address are asked for.
-/

namespace AgentBundles

/-- The size that no reply may exceed, in bytes, unless something else is asked for. -/
def defaultReplyLimit : Int := 10 * 1024 * 1024

/-- Templates below a base address. -/
structure TemplateSite where
  /-- The base address, without slashes at its end. -/
  base : String
  /-- The headers of every request besides the usual ones. -/
  headers : Web.Headers
  /-- The query of every request, if it holds any names. -/
  query : Web.Query
  /-- The size that no reply may exceed. -/
  limit : Value
  deriving Repr

/-- Why there is no source of templates on the web. -/
inductive SiteFault where
  /-- Headers or a query are given where the caller makes the requests. -/
  | settings
  /-- The base address is not encrypted, though it has to be. -/
  | notEncrypted
  | noBase
  /-- A setting does not exist. -/
  | unknown (name : String)
  /-- The base address is no text. -/
  | base (v : Value)
  | address (f : BaseFault)
  | query (f : Web.QueryFault)
  | header (f : Web.HeaderFault)
  deriving Repr

/-- The kind of a fault. -/
def SiteFault.kind : SiteFault → FaultKind
  | .settings => .value
  | .notEncrypted => .value
  | .noBase => .type
  | .unknown _ => .type
  | .base (.bytes _) => .type
  | .base _ => .attribute
  | .address _ => .value
  | .query f => f.kind
  | .header f => f.kind

/-- What a message says of a source that there is not. -/
def SiteFault.message : SiteFault → String
  | .settings =>
    "Cannot specify both 'client' and 'headers'/'params'. " ++
      "Configure headers and params on the client directly."
  | .notEncrypted =>
    "require_tls is enabled but base_url uses plain HTTP. " ++
      "Use an HTTPS URL or set require_tls=False."
  | .noBase => "HTTPTemplateSource.__init__() missing 1 required positional argument: 'base_url'"
  | .unknown name =>
    "HTTPTemplateSource.__init__() got an unexpected keyword argument " ++ Text.inQuotes name
  | .base (.bytes _) => "a bytes-like object is required, not 'str'"
  | .base v =>
    Text.inQuotes v.fullKindName ++ " object has no attribute " ++
      Text.inQuotes (if v.isEmpty then "rstrip" else "decode")
  | .address f => f.message
  | .query f => f.message
  | .header f => f.message

namespace TemplateSite

/-! ### Identifiers and addresses -/

/-- Whether a character may stand in an identifier. -/
def isNameChar (c : Char) : Bool := Text.isAsciiAlphanumeric c || c == '-' || c == '.' || c == '_'

/-- Whether a text may stand between the slashes of an identifier; a line feed may follow. -/
def isName (s : String) : Bool :=
  match Text.dropFinalBreak s.toList with
  | [] => false
  | c :: cs => Text.isAsciiAlphanumeric c && cs.all isNameChar

/-- The text of the address of the template with an identifier. -/
def addressText (t : TemplateSite) (id : String) : Except TemplateFault String :=
  let names := Text.segments id
  if names.all isName then
    .ok (t.base ++ "/" ++ Text.join "/" (names.map fun n =>
      String.ofList (Text.percentEncode Text.isUnreserved n.toList)) ++ ".md")
  else
    .error (.notAddress id)

/-- The address of the template with an identifier. A query of the source takes the place of that of
the base. -/
def addressOf (t : TemplateSite) (id : String) : Except TemplateFault Address := do
  let text ← t.addressText id
  let address ← (Address.ofText text >>= Address.toRequest).mapError .address
  if t.query.isEmpty then
    return address
  ({ address with query := some t.query.text }.renew).mapError .address

/-! ### Headers -/

/-- The headers of every request. -/
def usualHeaders : Web.Headers :=
  [("Accept", "*/*"), ("Accept-Encoding", "gzip, deflate"), ("Connection", "keep-alive"),
    ("User-Agent", "python-httpx/0.28.1")]

/-- The headers with the host of an address, unless they name one. -/
def withHost (a : Address) (headers : Web.Headers) : Except TemplateFault Web.Headers :=
  if headers.has "Host" then .ok headers
  else (a.displayHost.map fun host => if host.isEmpty then headers
    else ("Host", a.server) :: headers).mapError .domain

/-- The headers with the user of an address and the password, if it names one. -/
def withUser (a : Address) (headers : Web.Headers) : Web.Headers :=
  let user := Text.percentDecode (a.user.toList.takeWhile (· != ':'))
  let password := Text.percentDecode ((a.user.toList.dropWhile (· != ':')).drop 1)
  if user.isEmpty && password.isEmpty then headers
  else
    let pair := Text.utf8 (String.ofList (user ++ ':' :: password))
    headers.set "Authorization" ("Basic " ++ String.ofList (Base64.encode pair))

/-- The request for the template with an identifier. -/
def request (t : TemplateSite) (id : String) : Except TemplateFault Web.Request := do
  let address ← t.addressOf id
  let headers ← withHost address (usualHeaders.merge t.headers)
  return ⟨address, withUser address headers⟩

/-! ### Replies -/

/-- Whether a count of bytes exceeds a limit. -/
def exceeds (size : Nat) (limit : Value) : Except TemplateFault Bool :=
  match limit.asNumber? with
  | some (.inl n) => .ok (n < size)
  | some (.inr x) => .ok (x.isBelow size)
  | none => .error (.limit limit)

/-- The text in the content of a reply. -/
def textOf (t : TemplateSite) (id : String) (c : Web.Content) : Except TemplateFault String := do
  if c.status == 404 then
    throw (.missing id)
  if !Web.isSuccess c.status then
    throw (.status c.status)
  if ← exceeds c.body.length t.limit then
    throw (.replyTooLarge t.limit)
  c.text.mapError .charset

/-- The text of the template with an identifier. -/
def get (t : TemplateSite) (web : Web) (id : String) : Except TemplateFault String := do
  let request ← t.request id
  let content ← ((web request).content request).mapError .reply
  t.textOf id content

/-- The text that stands for a source of templates on the web. -/
def display (t : TemplateSite) : String := "HTTPTemplateSource(" ++ Text.quoted t.base ++ ")"

/-! ### Settings -/

/-- The scheme of addresses without encryption. -/
def openScheme : String := "http"

/-- The warning about a base address without encryption. -/
def openWarning : String :=
  "base_url uses unencrypted HTTP. Templates fetched over HTTP are vulnerable to " ++
    "man-in-the-middle attacks. Use HTTPS in production."

/-- The warnings about a source. -/
def warnings (t : TemplateSite) : List String :=
  match Address.schemeOfBase t.base with
  | .ok scheme => if scheme == openScheme then [openWarning] else []
  | .error _ => []

/-- The names of the settings besides the base address. -/
def settingNames : List String := ["headers", "params", "require_tls", "max_response_bytes"]

/-- The value of a setting, which is null if it is not there. -/
def setting (options : Entries) (name : String) : Value := (options.field? name).getD .null

/-- Whether a setting is there and not null. -/
def hasSetting (options : Entries) (name : String) : Bool :=
  match setting options name with
  | .null => false
  | _ => true

/-- The base address in the settings: a text with a scheme that may be asked for. -/
def baseOf (options : Entries) : Except SiteFault String := do
  let .str base := setting options "base_url" | throw (.base (setting options "base_url"))
  let scheme ← (Address.schemeOfBase base).mapError .address
  if scheme == openScheme && !(setting options "require_tls").isEmpty then
    throw .notEncrypted
  return base

/-- The source of templates that settings describe. Headers and a query are not for a caller that
makes the requests. -/
def ofSettings (options : Entries) (callerRequests : Bool) : Except SiteFault TemplateSite := do
  if (options.field? "base_url").isNone then
    throw .noBase
  if callerRequests && (hasSetting options "headers" || hasSetting options "params") then
    throw .settings
  let base ← baseOf options
  let query ← (Web.Query.ofValue (setting options "params")).mapError .query
  let headers ← (Web.Headers.ofValue (setting options "headers")).mapError .header
  return {
    base := String.ofList (Text.stripEndBy (· == '/') base.toList)
    headers := headers
    query := query
    limit := (options.field? "max_response_bytes").getD (.int defaultReplyLimit) }

/-- The source of templates at a base address that settings describe, of which each has to exist. -/
def ofBase (base : Value) (options : Entries) (callerRequests : Bool) :
    Except SiteFault TemplateSite :=
  match options.find? fun e => !settingNames.contains e.1.plainText with
  | some e => .error (.unknown e.1.plainText)
  | none => ofSettings (options.insert (.str "base_url") base) callerRequests

end TemplateSite

end AgentBundles
