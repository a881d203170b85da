import AgentBundles.Data.Display
import AgentBundles.Data.Table
import AgentBundles.Files.Disk
import AgentBundles.Web.Exchange

/-!
# Templates

Templates are asked for one by one under their identifiers. A template that is not there is left
out, so that whoever needs it can name all that are missing; any other fault ends the fetch.

A template can be a file below a directory; its identifier is its path without the ending `.md`. No
identifier leads to a file that is not below the directory.
-/

namespace AgentBundles

/-! ### Fetching templates -/

/-- Why a template cannot be had. -/
inductive TemplateFault where
  /-- There is no template with the identifier. -/
  | missing (id : String)
  /-- The identifier leads out of the directory of templates. -/
  | outside (id : String)
  /-- The identifier cannot be part of an address. -/
  | notAddress (id : String)
  | tooLarge (id : String) (most : Int)
  | file (f : FileFault)
  /-- The address of the template is none. -/
  | address (f : AddressFault)
  /-- The host of the address cannot be shown. -/
  | domain (f : Domain.Fault)
  | reply (f : Web.ReplyFault)
  | status (code : Nat)
  | replyTooLarge (most : Value)
  /-- The limit of a reply is no number. -/
  | limit (v : Value)
  /-- The reply is in a character set in which it cannot be read. -/
  | charset (f : Charset.Fault)
  deriving Repr

namespace TemplateFault

/-- The kind of a fault. -/
def kind : TemplateFault → FaultKind
  | .missing _ => .template
  | .outside _ => .template
  | .notAddress _ => .value
  | .file f => f.kind
  | .address _ => .address
  | .domain f => f.kind
  | .reply f => f.kind
  | .limit _ => .type
  | .charset f => f.kind
  | _ => .source

/-- What a message says of a template that cannot be had. -/
def message : TemplateFault → String
  | .missing id => id
  | .outside id => "Invalid template_id: " ++ Text.quoted id
  | .notAddress id =>
    "Invalid template_id: " ++ Text.quoted id ++
      "; each path segment must start with an alphanumeric " ++
        "character and contain only alphanumeric characters, hyphens, dots, and underscores"
  | .tooLarge id most =>
    "Template " ++ Text.quoted id ++ " exceeds maximum size (" ++ intText most ++ " bytes)"
  | .file f => f.message
  | .address f => f.message
  | .domain f => f.message
  | .reply f => f.message
  | .status code => "HTTP " ++ natText code ++ " error"
  | .replyTooLarge most => "Response exceeds maximum size (" ++ most.plainText ++ " bytes)"
  | .limit v => "'>' not supported between instances of 'int' and " ++ Text.inQuotes v.fullKindName
  | .charset f => f.message

/-- Whether there is just no such template. -/
def isMissing : TemplateFault → Bool
  | .missing _ => true
  | .outside _ => true
  | _ => false

end TemplateFault

namespace Template

/-- What came of asking for a template, where a missing one is no fault. -/
def found (r : Except TemplateFault String) : Except TemplateFault (Option String) :=
  match r with
  | .ok s => .ok (some s)
  | .error f => if f.isMissing then .ok none else .error f

/-- The templates with some identifiers that there are, each once and in the order of the
identifiers. -/
def fetch {ε : Type} (get : String → Except ε (Option String)) (ids : List String) :
    Except ε (Table String) := do
  let found ← (Text.distinct ids).mapM fun id =>
    (get id).map fun body? => body?.map fun body => (id, body)
  return found.filterMap id

end Template

/-! ### Templates in a directory -/

/-- The size that no file may exceed, in bytes, unless something else is asked for. -/
def defaultFileLimit : Int := 10 * 1024 * 1024

/-- A directory of templates, and the size that none of them may exceed. -/
structure TemplateDirectory where
  root : FilePath
  limit : Int
  deriving DecidableEq, Repr

namespace TemplateDirectory

/-- The ending of template files. -/
def ending : String := ".md"

/-- The templates in a directory, if it is there. -/
def read (d : Disk) (root : FilePath) (limit : Int) : Except FileFault TemplateDirectory :=
  (d.requireDirectory "Template root" root).map fun _ => ⟨root, limit⟩

/-- The text that stands for a directory of templates. -/
def display (t : TemplateDirectory) : String :=
    "LocalTemplateSource(" ++ Text.quoted t.root.text ++ ")"

/-- The path of the template with an identifier. -/
def pathOf (t : TemplateDirectory) (id : String) : FilePath := t.root.child (id ++ ending)

/-- The text of the template with an identifier. -/
def get (t : TemplateDirectory) (d : Disk) (id : String) : Except TemplateFault String := do
  if !(t.pathOf id).isPlain then
    throw (.file .zero)
  let place := d.resolve (t.pathOf id)
  let path := FilePath.ofPlace place
  if (relative? (d.resolve t.root) place).isNone then
    throw (.outside id)
  if !(← (d.isFile path).mapError .file) then
    throw (.missing id)
  if t.limit < d.size path then
    throw (.tooLarge id t.limit)
  (d.read path).mapError .file

/-- The identifiers of all templates. -/
def identifiers (t : TemplateDirectory) (d : Disk) : List String :=
  Text.sort ((d.below t.root).filterMap fun e =>
    match e.2 with
    | .directory => none
    | .file _ =>
      let name := e.1.getLastD ""
      if Text.endsWith name ending then some (placeText (e.1.dropLast ++ [stem name])) else none)

end TemplateDirectory

end AgentBundles
