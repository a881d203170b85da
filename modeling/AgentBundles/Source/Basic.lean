import AgentBundles.Catalog.Build
import AgentBundles.Template.Source
import AgentBundles.Yaml.Reader

/-!
# Source trees

A source tree is a directory with the documents that bundles are made of: the matrix of skills, the
skills, the agent profiles, the templates and the stacks. Every document is a file of limited size;
a document that is not there, cannot be read or does not describe what it should is a fault that
names its path.
-/

namespace AgentBundles

/-- Why a source tree cannot be read. -/
inductive SourceFault where
  | noSkills (f : NoDirectory)
  | noFile (path : FilePath)
  | tooLarge (path : FilePath) (most : Int)
  | file (f : FileFault)
  | yaml (path : FilePath) (f : Yaml.Fault)
  /-- The header of a document holds a date or number that does not exist. -/
  | header (f : Yaml.Fault)
  /-- The description of a skill holds an integer with too many digits to be written. -/
  | unwritable
  /-- A document does not describe what it should. -/
  | record (path : FilePath) (f : Record.Fault)
  /-- The identifier of a stack leads out of the directory of stacks. -/
  | outside (id : String)
  | catalog (f : CatalogFault)
  deriving Repr

namespace SourceFault

/-- The kind of a fault. -/
def kind : SourceFault → FaultKind
  | .file f => f.kind
  | .yaml _ .malformed => .source
  | .yaml _ f => f.kind
  | .header f => f.kind
  | .unwritable => .value
  | .catalog f => f.kind
  | _ => .source

/-- What a message says of a text that is not YAML at all, or of one with a value that does not
exist. -/
def yamlMessage (path : FilePath) : Yaml.Fault → String
  | .malformed => "Invalid YAML in " ++ path.text
  | f => f.message

/-- What a message says of a source tree that cannot be read. -/
def message : SourceFault → String
  | .noSkills f => f.message
  | .noFile path => "File not found: " ++ path.text
  | .tooLarge path most => path.text ++ " exceeds maximum size (" ++ intText most ++ " bytes)"
  | .file f => f.message
  | .yaml path f => yamlMessage path f
  | .header f => f.message
  | .unwritable => unwritableMessage
  | .record path f => "Invalid " ++ path.name ++ " at " ++ path.text ++ ":\n" ++ f.message
  | .outside id => "Invalid stack_id: " ++ Text.quoted id
  | .catalog f => f.message

end SourceFault

/-- A source tree, and the size that none of its files may exceed. -/
structure SourceTree where
  root : FilePath
  limit : Int
  deriving DecidableEq, Repr

namespace SourceTree

/-- The source tree in a directory, if it is there. -/
def read (d : Disk) (root : FilePath) (limit : Int) : Except SourceFault SourceTree :=
  ((d.requireDirectory "Source root" root).map fun _ => ⟨root, limit⟩).mapError .file

/-- Whether a path leads to a file. -/
def isFile (d : Disk) (path : FilePath) : Except SourceFault Bool := (d.isFile path).mapError .file

/-- The text of a file. -/
def text (t : SourceTree) (d : Disk) (path : FilePath) : Except SourceFault String := do
  if !(← isFile d path) then
    throw (.noFile path)
  if t.limit < d.size path then
    throw (.tooLarge path t.limit)
  (d.read path).mapError .file

/-- What a file describes; an empty one describes a record without fields. -/
def document {α : Type} (t : SourceTree) (d : Disk) (path : FilePath)
    (read : Value → Except Record.Fault α) :
    Except SourceFault α := do
  let v ← (Yaml.read (← t.text d path)).mapError (.yaml path)
  let v := match v with
    | .null => Value.map []
    | v => v
  (read v).mapError (.record path)

end SourceTree

end AgentBundles
