import AgentBundles.Build.Settings
import AgentBundles.Bundle.Storage
import AgentBundles.Compile.Bundle
import AgentBundles.Publish.Index
import AgentBundles.Source.Documents
import AgentBundles.Template.Remote

/-!
# Building

How a stack becomes a bundle, and everything that can end a build or a publication. A fault is one
of the inputs or of the disk if someone can mend it there; the others come from values that no step
of the build provides for.

Templates come from a directory or from the web; unless the settings say otherwise they come from
the directory `templates` of the source tree. The bundle of a stack is planned from what the disk
holds, and only then written. A stack whose selection has errors, that names agents without profile,
or whose bundle does not pass validation, changes nothing on the disk. The documents are encoded for
their digest before anything is written, the readme only when it is written.
-/

namespace AgentBundles

/-! ### Faults of a build -/

namespace Build

/-- Why a build or a publication ends. -/
inductive Fault where
  | file (f : FileFault)
  | settings (f : SettingsFault)
  | source (f : SourceFault)
  /-- The directory of templates is given by a value that is no text. -/
  | templatePath (v : Value)
  | site (f : SiteFault)
  | provider (name : String)
  | template (f : TemplateFault)
  | noStacks (root : FilePath)
  | unknownAgents (stack : String) (names : List String)
  /-- The selection or the bundle of a stack has errors. -/
  | stack (id : String) (problems : List String)
  | compile (f : CompileFault)
  /-- The documents of a stack cannot be encoded. -/
  | digest (f : Text.EncodingFault)
  | sharedPath (f : SharedPath)
  | manifest (f : ManifestFault)
  | version (f : VersionFault)
  /-- The header of a document in a bundle holds a date or number that does not exist. -/
  | validation (f : ValidationFault)
  | storage (f : StorageFault)
  | noOutput (f : NoDirectory)
  /-- The settings say nothing of a catalog index. -/
  | noCatalog
  | publish (f : Publish.Fault)
  deriving Repr

namespace Fault

/-- The names of the ways to get templates. -/
def providers : List String := ["fs", "http"]

/-- What a message says of a value that should be a path. -/
def pathMessage : Value → String
  | .bytes _ =>
    "argument should be a str object or an os.PathLike object returning str, not <class 'bytes'>"
  | v => "expected str, bytes or os.PathLike object, not " ++ v.kindName

/-- The kind of a fault. -/
def kind : Fault → FaultKind
  | .file f => f.kind
  | .settings f => f.kind
  | .source f => f.kind
  | .templatePath _ => .type
  | .site f => f.kind
  | .provider _ => .value
  | .template f => f.kind
  | .noStacks _ => .source
  | .unknownAgents _ _ => .source
  | .stack _ _ => .build
  | .compile f => f.kind
  | .digest _ => .encoding
  | .sharedPath _ => .value
  | .manifest f => f.kind
  | .version _ => .value
  | .validation f => f.kind
  | .storage f => f.kind
  | .noOutput _ => .source
  | .noCatalog => .value
  | .publish f => f.kind

/-- What a message says of a fault. -/
def message : Fault → String
  | .file f => f.message
  | .settings f => f.message
  | .source f => f.message
  | .templatePath v => pathMessage v
  | .site f => f.message
  | .provider name =>
    "Unknown template source type: " ++ Text.quoted name ++ ". Supported types: " ++
      Text.join ", " providers
  | .template f => f.message
  | .noStacks root => "No stacks to compile in " ++ root.text
  | .unknownAgents id names =>
    "Stack " ++ Text.inQuotes id ++ " references unknown agent(s): " ++ Text.join ", " names
  | .stack id problems =>
    "Stack " ++ Text.inQuotes id ++ " failed to build:\n" ++ Text.join "\n"
      (problems.map ("  - " ++ ·))
  | .compile f => f.message
  | .digest f => f.message
  | .sharedPath f => f.message
  | .manifest f => f.message
  | .version f => f.message
  | .validation f => f.message
  | .storage f => f.message
  | .noOutput f => f.message
  | .noCatalog => "Publishing requires a 'catalog' section in the build config"
  | .publish f => f.message

end Fault

end Build

/-! ### Where templates come from -/

/-- Where templates come from. -/
inductive TemplateSource where
  | directory (t : TemplateDirectory)
  | site (t : TemplateSite)
  deriving Repr

namespace TemplateSource

/-- The text that stands for a source of templates. -/
def display : TemplateSource → String
  | .directory t => t.display
  | .site t => t.display

/-- The text of the template with an identifier. -/
def get (s : TemplateSource) (d : Disk) (web : Web) (id : String) : Except TemplateFault String :=
  match s with
  | .directory t => t.get d id
  | .site t => t.get web id

/-- The templates with some identifiers that there are. -/
def fetch (s : TemplateSource) (d : Disk) (web : Web) (ids : List String) :
    Except TemplateFault (Table String) :=
  Template.fetch (fun id => Template.found (s.get d web id)) ids

/-- A directory of templates as a source. -/
def ofDirectory (r : Except FileFault TemplateDirectory) : Except Build.Fault TemplateSource :=
  (r.map .directory).mapError .file

/-- The directory of templates that the options name, or that of the source tree. -/
def directoryOf (t : SourceTree) (d : Disk) (options : Entries) :
    Except Build.Fault TemplateSource :=
  match options.field? "root" with
  | none => ofDirectory (TemplateDirectory.read d t.templatesRoot defaultFileLimit)
  | some (.str root) => ofDirectory (TemplateDirectory.read d (.ofText root) defaultFileLimit)
  | some v => .error (.templatePath v)

/-- The source of templates that the settings of a build describe. -/
def ofSettings (t : SourceTree) (d : Disk) : Option TemplateSettings →
    Except Build.Fault TemplateSource
  | none => ofDirectory (t.templates d)
  | some s =>
    match s.provider with
    | "fs" => directoryOf t d s.options
    | "http" => ((TemplateSite.ofSettings s.options false).map .site).mapError .site
    | name => .error (.provider name)

end TemplateSource

/-! ### Building -/

namespace Build

/-- What the stacks of a build share. -/
structure Workshop where
  tree : SourceTree
  catalog : Catalog
  profiles : Table AgentProfile
  templates : TemplateSource
  output : FilePath
  /-- The part of the version that is raised where the content of an earlier bundle has changed;
  without it, versions are those of the stacks. -/
  bump : Option String
  deriving Repr

/-- A bundle that has been built: the identifier of its stack, where it is, its version, the short
digest of its documents and the report on it. -/
structure Product where
  stack : String
  path : FilePath
  version : String
  contentHash : String
  report : Report
  deriving DecidableEq, Repr

/-! ### Versions -/

/-- Whether the first name of a path is that of a directory that belongs to the compiler. -/
def isOwned (path : String) : Bool :=
  ownedDirectories.contains ((Text.segments path).headD "")

/-- The documents among the files of a bundle. -/
def ownedFiles (files : Table String) : Table String := files.filter fun f => isOwned f.1

/-- Whether two tables have the same values under the same names. -/
def sameTable (t u : Table String) : Bool :=
  t.length == u.length && t.all fun e => u.get? e.1 == some e.2

/-- The documents of a compiled bundle under their paths. -/
def contents (b : CompiledBundle) : Table String :=
  Table.ofList (b.documents.map fun d => (d.path, d.content))

/-- A manifest that goes on from the version of the bundle in a directory, if there is one: the
version stays if the documents are the same, and is raised if not. -/
def carryVersion (d : Disk) (m : Manifest) (compiled : CompiledBundle) (path : FilePath)
    (part : String) :
    Except Fault Manifest := do
  if !(← (d.isFile (path.child Manifest.path)).mapError .file) then
    return m
  let previous ← (Bundle.readFrom d path none).mapError .storage
  let version := (← previous.manifest.mapError .manifest).version
  let m := { m with version := version }
  if sameTable (ownedFiles previous.files) (contents compiled) then
    return m
  (m.raiseVersion part).mapError .version

/-! ### Plans -/

/-- A bundle that can be written: what comes of it, and its texts. -/
structure Plan where
  product : Product
  bundle : Bundle
  deriving DecidableEq, Repr

/-- The profiles of the agents of a stack. -/
def agentsOf (profiles : Table AgentProfile) (id : String) (names : List String) :
    Except Fault (List AgentProfile) :=
  match names.filter fun n => !profiles.has n with
  | [] => .ok (names.filterMap profiles.get?)
  | unknown => .error (.unknownAgents id unknown)

/-- The documents of a stack, of which a digest can be taken. -/
def compileStack (w : Workshop) (d : Disk) (web : Web) (id : String) (stack : Record.Stack) :
    Except Fault CompiledBundle := do
  let result := w.catalog.validate (.ofList stack.skills)
  let some selection := result.validated? | throw (.stack id (result.errors.map (·.message)))
  let agents ← agentsOf w.profiles id stack.agents
  let templates ← (w.templates.fetch d web (agents.flatMap (·.templateIds))).mapError .template
  let compiled ← (Compile.bundle w.catalog selection agents templates stack.name stack.routing
    (Value.ofFields (stack.hooks.mapValues .list))).mapError .compile
  match compiled.encodingFault? with
  | some f => throw (.digest f)
  | none => return compiled

/-- The bundle of a stack, if it passes validation. -/
def plan (w : Workshop) (d : Disk) (web : Web) (id : String) : Except Fault Plan := do
  let stack ← (w.tree.stack d id).mapError .source
  let compiled ← compileStack w d web id stack
  let metadata := BundleMetadata.ofStack stack
  let path := w.output.child stack.name
  let described := Manifest.describe metadata compiled.paths
  let m ← match w.bump with
    | none => Except.ok described
    | some part => carryVersion d described compiled path part
  let readme := Readme.document metadata compiled.paths
  let bundle ← (Bundle.assemble compiled.documents (some readme) m none).mapError .sharedPath
  let report ← bundle.validate.mapError .validation
  if !report.ok then
    throw (.stack id (report.errors.map (·.text)))
  return ⟨⟨id, path, m.version, compiled.contentHash, report⟩, bundle⟩

/-- Builds a stack. -/
def buildStack (w : Workshop) (web : Web) (id : String) : Disk.Action Fault Product := do
  let p ← .look fun d => plan w d web id
  ExceptT.adapt Fault.storage (p.bundle.encodeTo p.product.path)
  return p.product

end Build

end AgentBundles
