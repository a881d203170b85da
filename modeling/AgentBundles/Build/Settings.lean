import AgentBundles.Data.Value
import AgentBundles.Files.Disk
import AgentBundles.Json.Reader
import AgentBundles.Record.Stack
import AgentBundles.Yaml.Reader

/-!
# Settings of a build

Where the source tree is, where bundles go, which stacks are compiled, where templates come from,
and what the catalog index says. Settings are a YAML or JSON document. Placeholders `${NAME}` in its
texts are replaced by the values of environment variables; what is put in is not looked through
again, and keys of mappings stay as they are.
-/

namespace AgentBundles

/-! ### Environment variables in settings -/

namespace Build

/-- The values of environment variables. -/
abbrev Environment := List (String × String)

/-- The value of a variable, empty if it is not set. -/
def Environment.value (env : Environment) (name : String) : String :=
  ((env.find? fun e => e.1 == name).map (·.2)).getD ""

/-- A part of a text: characters that stand for themselves, or the name in a placeholder. -/
inductive Piece where
  | literal (c : Char)
  | variable (name : List Char)
  deriving DecidableEq, Repr

/-- The name of the placeholder whose mark `${` came just before, and the text after it. -/
def takeName? (cs : List Char) : Option (List Char × List Char) :=
  match cs.takeWhile (· != '}'), cs.dropWhile (· != '}') with
  | c :: name, '}' :: rest => some (c :: name, rest)
  | _, _ => none

/-- The parts of a text. -/
def pieces : Nat → List Char → List Piece
  | 0, _ => []
  | _, [] => []
  | fuel + 1, c :: cs =>
    match c, cs with
    | '$', '{' :: after =>
      match takeName? after with
      | some (name, rest) => .variable name :: pieces fuel rest
      | none => .literal c :: pieces fuel cs
    | _, _ => .literal c :: pieces fuel cs

/-- What a part of a text becomes. -/
def Piece.resolve (env : Environment) : Piece → List Char
  | .literal c => [c]
  | .variable name => (env.value (String.ofList name)).toList

/-- A text with its placeholders replaced. -/
def resolveText (env : Environment) (s : String) : String :=
  String.ofList ((pieces s.toList.length s.toList).flatMap (·.resolve env))

/-- The names of the placeholders in a text. -/
def namesInText (s : String) : List String :=
  (pieces s.toList.length s.toList).filterMap fun p =>
    match p with
    | .literal _ => none
    | .variable name => some (String.ofList name)

mutual

/-- The names of the placeholders in the texts of a value. -/
def names : Value → List String
  | .str s => namesInText s
  | .list items => namesInItems items
  | .map entries => namesInEntries entries
  | _ => []

/-- The names of the placeholders in the items of a list. -/
def namesInItems : List Value → List String
  | [] => []
  | v :: vs => names v ++ namesInItems vs

/-- The names of the placeholders in the values of a mapping. -/
def namesInEntries : List (Value × Value) → List String
  | [] => []
  | (_, v) :: rest => names v ++ namesInEntries rest

end

mutual

/-- Whether a list or mapping holds itself, so that there is no end to the texts in it; pairs are
not looked into. -/
def isEndless : Value → Bool
  | .list items => anyEndless items
  | .map entries => anyEntryEndless entries
  | .enclosing _ => true
  | _ => false

/-- Whether there is no end to the texts in some items. -/
def anyEndless : List Value → Bool
  | [] => false
  | v :: vs => isEndless v || anyEndless vs

/-- Whether there is no end to the texts in some entries. -/
def anyEntryEndless : List (Value × Value) → Bool
  | [] => false
  | (_, v) :: rest => isEndless v || anyEntryEndless rest

end

mutual

/-- A value with the placeholders in its texts replaced. -/
def resolve (env : Environment) : Value → Value
  | .str s => .str (resolveText env s)
  | .list items => .list (resolveItems env items)
  | .map entries => .map (resolveEntries env entries)
  | v => v

/-- The items of a list with placeholders replaced. -/
def resolveItems (env : Environment) : List Value → List Value
  | [] => []
  | v :: vs => resolve env v :: resolveItems env vs

/-- The entries of a mapping with placeholders in the values replaced. -/
def resolveEntries (env : Environment) : List (Value × Value) → List (Value × Value)
  | [] => []
  | (k, v) :: rest => (k, resolve env v) :: resolveEntries env rest

end

end Build

/-! ### Settings of a build -/

/-- Where templates come from. -/
structure TemplateSettings where
  provider : String
  options : Entries
  deriving Repr

/-- What the catalog index says, and where it is written. -/
structure CatalogSettings where
  name : String
  ownerName : String
  ownerEmail : Option String
  version : String
  description : Option String
  path : FilePath
  pluginRoot : String
  deriving DecidableEq, Repr

/-- The settings of a build. -/
structure BuildSettings where
  source : FilePath
  output : FilePath
  stackIds : List String
  templates : Option TemplateSettings
  catalog : Option CatalogSettings
  deriving Repr

namespace Record

/-- Reads a path. -/
def path : Decoder FilePath
  | .str s => .done (FilePath.ofText s)
  | _ => .defect .path

/-- Reads the entries of a mapping with text keys, as they are. -/
def openEntries (v : Value) : Decoded Entries :=
  (table anything v).map fun t => t.map fun e => (.str e.1, e.2)

/-- Reads where templates come from. -/
def templateSettings : Decoder TemplateSettings := fields fun es =>
  TemplateSettings.mk <$> withDefault es "provider" "fs" string
    <*> withDefault es "options" [] openEntries

/-- Reads what the catalog index says. -/
def catalogSettings : Decoder CatalogSettings := fields fun es =>
  CatalogSettings.mk <$> required es "name" string <*> required es "owner_name" string
    <*> withDefault es "owner_email" none (optional string)
    <*> withDefault es "version" "1.0.0" string
    <*> withDefault es "description" none (optional string)
    <*> withDefault es "path" (.ofText ".claude-plugin/marketplace.json") path
    <*> withDefault es "plugin_root" "./plugins" string

/-- Reads the settings of a build. -/
def buildSettings : Decoder BuildSettings := fields fun es =>
  BuildSettings.mk <$> required es "source" path
    <*> withDefault es "output" (.ofText "plugins") path
    <*> withDefault es "stacks" [] (list string)
    <*> withDefault es "templates" none (optional templateSettings)
    <*> withDefault es "catalog" none (optional catalogSettings)

end Record

/-- The settings of templates that a value holds. -/
def TemplateSettings.ofValue (v : Value) : Except Record.Fault TemplateSettings :=
  (Record.templateSettings v).toExcept "TemplateSourceConfig"

/-- Why there are no settings. -/
inductive SettingsFault where
  | noFile (path : FilePath)
  | file (f : FileFault)
  | yaml (f : Yaml.Fault)
  | json (f : Json.Fault)
  /-- The document holds itself. -/
  | endless
  /-- The document is not a mapping. -/
  | notMapping (v : Value)
  /-- A key of the document is no text. -/
  | keys
  | record (f : Record.Fault)
  deriving Repr

namespace SettingsFault

/-- The kind of a fault. -/
def kind : SettingsFault → FaultKind
  | .noFile _ => .missingFile
  | .file f => f.kind
  | .yaml f => f.kind
  | .json f => f.kind
  | .record _ => .record
  | .endless => .recursion
  | .notMapping _ => .type
  | .keys => .type

/-- What a message says of settings that there are not. -/
def message : SettingsFault → String
  | .noFile path => "config file not found: " ++ path.text
  | .file f => f.message
  | .yaml f => f.message
  | .json f => f.message
  | .notMapping v =>
      "skillbundle_cli.config.BuildConfig() argument after ** must be a mapping, not " ++
      v.fullKindName
  | .endless => "maximum recursion depth exceeded"
  | .keys => "keywords must be strings"
  | .record f => f.message

end SettingsFault

namespace BuildSettings

/-- The settings that a value holds. -/
def ofValue (v : Value) : Except Record.Fault BuildSettings :=
  (Record.buildSettings v).toExcept "BuildConfig"

/-- The document that a text is; the ending of its path says whether it is YAML or JSON. -/
def document (path : FilePath) (s : String) : Except SettingsFault Value :=
  if extension path.name == ".yaml" || extension path.name == ".yml" then
    (Yaml.read s).mapError .yaml
  else
    (Json.read s).mapError .json

/-- Whether a key is a text. -/
def isTextKey : Value → Bool
  | .str _ => true
  | _ => false

/-- The settings in a document, with placeholders replaced; an empty document has no fields. -/
def ofDocument (env : Build.Environment) (v : Value) : Except SettingsFault BuildSettings :=
  if Build.isEndless v then
    .error .endless
  else
    match Build.resolve env (if v.isEmpty then .map [] else v) with
    | .map entries =>
      if entries.all fun e => isTextKey e.1 then (ofValue (.map entries)).mapError .record
        else .error .keys
    | v => .error (.notMapping v)

/-- The settings in a file. -/
def read (d : Disk) (env : Build.Environment) (path : FilePath) :
    Except SettingsFault BuildSettings := do
  let s ← (d.read path).mapError .file
  ofDocument env (← document path s)

end BuildSettings

end AgentBundles
