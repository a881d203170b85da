import AgentBundles.Bundle.Manifest
import AgentBundles.Header
import AgentBundles.Json.Reader
import AgentBundles.Rule.Judgement
import AgentBundles.Schema.Check
import AgentBundles.Schema.Library

/-!
# Validating single documents

The issues of a manifest, of the header of a skill or an agent, of hooks, and of a catalog index.
Beside their schemas, names have to be in kebab case and versions have to be semantic.
-/

namespace AgentBundles

/-! ### Issues -/

/-- Something found in a document: how grave it is, where it is, and what a message says. -/
structure Issue where
  severity : Severity
  location : String
  message : String
  deriving DecidableEq, Repr

namespace Issue

/-- An issue that keeps a bundle from being published. -/
def error (location message : String) : Issue := ⟨.error, location, message⟩

/-- An issue that is advice. -/
def warning (location message : String) : Issue := ⟨.warning, location, message⟩

/-- An issue with its location, as text. -/
def text (i : Issue) : String := i.location ++ ": " ++ i.message

/-- Whether an issue is an error. -/
def isError (i : Issue) : Bool := i.severity == .error

/-- A location within a document. -/
def locate (location field : String) : String :=
  if field.isEmpty then location else location ++ ":" ++ field

/-- The issue of a violation in the document at a location. -/
def ofViolation (location : String) (x : Violation) : Issue :=
  .error (locate location (Text.join "." x.place)) x.message

end Issue

/-- The issues of a document by its schema. -/
def DocumentSchema.issues (d : DocumentSchema) (v : Value) (location : String) : List Issue :=
  (d.violations v).map (Issue.ofViolation location)

/-! ### Documents -/

/-- Why a document cannot be validated. -/
inductive ValidationFault where
  /-- A header holds a date or number that does not exist. -/
  | header (f : Yaml.Fault)
  /-- A text that may be JSON holds an integer with too many digits. -/
  | json (f : Json.Fault)
  /-- A message would quote an integer with too many digits. -/
  | unwritable
  deriving DecidableEq, Repr

/-- The kind of a fault. -/
def ValidationFault.kind : ValidationFault → FaultKind
  | .header f => f.kind
  | .json f => f.kind
  | .unwritable => .value

/-- What a message says of a document that cannot be validated. -/
def ValidationFault.message : ValidationFault → String
  | .header f => f.message
  | .json f => f.message
  | .unwritable => unwritableMessage

namespace Validation

/-- The outcome of a validation. -/
abbrev Checked (α : Type) := Except ValidationFault α

/-- The value of a field of a record, if it is there and not null. -/
def stated? (v : Value) (name : String) : Option Value :=
  (v.field? name).filter fun
    | .null => false
    | _ => true

/-- The text of a field of a record. -/
def text? (v : Value) (name : String) : Option String :=
  match v.field? name with
  | some (.str s) => some s
  | _ => none

/-- The issue of a name that is not in kebab case. -/
def nameIssues (v : Value) (location : String) : List Issue :=
  match text? v "name" with
  | some name =>
    if name.isEmpty || Slug.isKebabName name then []
    else [.error (location ++ ":name") ("name must be kebab-case: " ++ Text.inQuotes name)]
  | none => []

/-- The issue of a version that is not semantic. -/
def versionIssues (v : Value) (location : String) : List Issue :=
  match text? v "version" with
  | some version =>
    if Version.isSemantic version then []
    else [.error (location ++ ":version")
      ("version " ++ Text.inQuotes version ++ " is not valid semver (MAJOR.MINOR.PATCH)")]
  | none => []

/-- The issue of a manifest without description. -/
def descriptionIssues (v : Value) (location : String) : List Issue :=
  if ((v.field? "description").getD .null).isEmpty then
    [.warning location "Missing description (recommended for discoverability)"]
  else
    []

/-- The issues of a manifest. -/
def manifestIssues (v : Value) (location : String) : List Issue :=
  Schema.plugin.issues v location ++
    match v with
    | .map _ => nameIssues v location ++ versionIssues v location ++ descriptionIssues v location
    | _ => []

/-- The issues of a header by a schema, and the header if there is one. -/
def headerIssues (d : DocumentSchema) (content location : String) :
    Checked (Option Value × List Issue) := do
  match ← (Header.parse content).mapError .header with
  | none => return (none, [.error location "Missing or invalid YAML header block"])
  | some v =>
    if (d.violations v).all (·.isWritable) then
      return (some v, d.issues v location ++ nameIssues v location)
    else
      throw .unwritable

/-- The fields of skill headers that belong elsewhere. -/
def deprecatedFields : List String := ["category", "author", "version"]

/-- The issues of fields that belong elsewhere. -/
def deprecationIssues (v : Value) (location : String) : List Issue :=
  (deprecatedFields.filter fun name => (v.field? name).isSome).map fun name =>
    .warning (location ++ ":" ++ name)
      ("Deprecated key " ++ Text.inQuotes name ++ " (use metadata.yaml instead)")

/-- The directory that the text of a skill at a location is in, if that directory is itself in
one. -/
def skillDirectory? (location : String) : Option String :=
  match (Text.segments location).reverse with
  | file :: directory :: _ :: _ => if file == Compile.skillFile then some directory else none
  | _ => none

/-- The issue of a skill whose name is not that of its directory. -/
def directoryIssues (v : Value) (location : String) : List Issue :=
  match skillDirectory? location, stated? v "name" with
  | some directory, some name =>
    if name.sameKey (.str directory) then []
    else [.warning (location ++ ":name")
      ("name " ++ Text.inQuotes name.plainText ++ " does not match directory " ++
        Text.inQuotes directory)]
  | _, _ => []

/-- The issues of the text of a skill. -/
def skillIssues (content location : String) : Checked (List Issue) := do
  let (header?, issues) ← headerIssues Schema.skillHeader content location
  match header? with
  | none => return issues
  | some v => return issues ++ deprecationIssues v location ++ directoryIssues v location

/-- The issues of the document of an agent. -/
def agentIssues (content location : String) : Checked (List Issue) := do
  return (← headerIssues Schema.agentHeader content location).2

/-- The issues of hooks. -/
def hooksIssues (v : Value) (location : String) : List Issue := Schema.hooks.issues v location

/-- The issues of a catalog index. -/
def catalogIssues (v : Value) (location : String) : List Issue :=
    Schema.marketplace.issues v location

end Validation

end AgentBundles
