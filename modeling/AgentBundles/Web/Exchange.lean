import AgentBundles.Charset.Named
import AgentBundles.Compression.Envelope
import AgentBundles.Web.Address
import AgentBundles.Web.ContentType
import AgentBundles.Web.Headers

/-!
# Requests and replies

What is asked of the web and what it answers. The web is a function: for the length of a build, the
same request has the same reply. The body of a reply may be compressed, and a reply may name an
address that is to be asked instead.
-/

namespace AgentBundles

namespace Web

/-- A request for the content at an address. -/
structure Request where
  address : Address
  headers : Headers
  deriving DecidableEq, Repr

/-- What comes of a request. -/
inductive Reply where
  /-- No answer. -/
  | none
  | answer (status : Nat) (headers : Headers) (body : List UInt8)
  /-- An answer whose headers cannot be read. -/
  | unreadable (f : HeaderFault)
  deriving Repr

/-- Why there is no content in a reply. -/
inductive ReplyFault where
  /-- There is no answer, or none that can be read. -/
  | unanswered
  | header (f : HeaderFault)
  /-- The request was made to no host. -/
  | relative (text : String)
  | address (f : AddressFault)
  | domain (f : Domain.Fault)
  deriving Repr

/-- The kind of a fault. -/
def ReplyFault.kind : ReplyFault → FaultKind
  | .unanswered => .source
  | .header f => f.kind
  | .relative _ => .value
  | .address _ => .address
  | .domain f => f.kind

/-- What a message says of a reply without content. -/
def ReplyFault.message : ReplyFault → String
  | .unanswered => "HTTP request failed"
  | .header f => f.message
  | .relative text => "unknown url type: " ++ Text.quoted text
  | .address f => f.message
  | .domain f => f.message

/-- Whether a status means that the body is what was asked for. -/
def isSuccess (status : Nat) : Bool := 200 ≤ status && status < 300

/-! ### Compression -/

/-- How the body of a reply is written, from the first step to the last. -/
def codings (headers : Headers) : List String :=
  match headers.get? "content-encoding" with
  | some s => (Text.fields ',' s.toList).map fun f => (String.ofList (Text.strip f)).toLower
  | none => []

/-- A body before a step of writing it; none if it is not written like that. Unknown steps do not
count. -/
def beforeCoding? (coding : String) (body : List UInt8) : Option (List UInt8) :=
  match coding with
  | "gzip" => Compression.openLong? body
  | "deflate" => (Compression.openShort? body).orElse fun _ => Compression.openPlain? body
  | _ => some body

/-- The body that a reply was made of. -/
def plainBody? (headers : Headers) (body : List UInt8) : Option (List UInt8) :=
  (codings headers).reverse.foldlM (fun body coding => beforeCoding? coding body) body

/-! ### Other addresses -/

/-- Whether a status means that another address is to be asked. -/
def isRedirect (status : Nat) : Bool := [301, 302, 303, 307, 308].contains status

/-- Checks the other address that a reply names; one without a host is on the same host. -/
def checkLocation (request : Request) (location : String) : Except ReplyFault Unit := do
  let a ← (Address.ofText location).mapError fun _ => ReplyFault.unanswered
  let _ ← a.displayHost.mapError .domain
  if !a.scheme.isEmpty && a.host.isEmpty then
    let _ ← ({ a with host := request.address.host }.renew).mapError ReplyFault.address

/-- The address that a reply names in place of the one that was asked. -/
def location? (status : Nat) (headers : Headers) : Option String :=
  if isRedirect status then headers.get? "location" else none

/-! ### Content -/

/-- The content of a reply: its status, its headers, and the body that it was made of. -/
structure Content where
  status : Nat
  headers : Headers
  body : List UInt8
  deriving DecidableEq, Repr

/-- The content of a reply to a request. -/
def Reply.content (request : Request) : Reply → Except ReplyFault Content
  | .none => .error .unanswered
  | .unreadable f => .error (.header f)
  | .answer status headers body => do
    let some body := plainBody? headers body | throw .unanswered
    if request.address.isRelative then
      throw (.relative request.address.text)
    match location? status headers with
    | .some location => checkLocation request location
    | .none => pure ()
    return ⟨status, headers, body⟩

/-- The text of a content. The character set is UTF-8 unless the headers name another one that is
known. -/
def Content.text (c : Content) : Except Charset.Fault String :=
  let set := ((c.headers.get? "content-type").bind charsetName?).bind Charset.ofName?
  (Charset.decode (set.getD "utf-8") c.body).map String.ofList

end Web

/-- The web. -/
abbrev Web := Web.Request → Web.Reply

end AgentBundles
