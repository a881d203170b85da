import AgentBundles.Bundle.Basic
import AgentBundles.Json.Reader
import AgentBundles.Validation.Document

/-!
# Validating bundles

All issues of a bundle: those of its manifest, of the entry points that the manifest declares, of
the documents of skills and agents, of what is there without being declared, and of a missing
readme.
-/

namespace AgentBundles

/-- A bundle and everything that was found in it. -/
structure Report where
  bundle : Bundle
  issues : List Issue
  deriving DecidableEq, Repr

namespace Report

/-- The errors. -/
def errors (r : Report) : List Issue := r.issues.filter (·.isError)

/-- The warnings. -/
def warnings (r : Report) : List Issue := r.issues.filter fun i => !i.isError

/-- Whether there are no errors. -/
def ok (r : Report) : Bool := r.errors.isEmpty

end Report

namespace Validation

/-- A declared path without `./` in front. -/
def entryPath (declared : String) : String :=
  if Text.startsWith declared "./" then Text.dropStart declared 2 else declared

/-- A declared path as the path of a directory, with one slash at the end. -/
def entryDirectory (declared : String) : String := Text.trimSlashes (entryPath declared) ++ "/"

/-- What follows the path of a directory in a path, if it begins so. -/
def below? (directory path : String) : Option String :=
  if Text.startsWith path directory then some (Text.dropStart path directory.length) else none

/-- Whether a path below the directory of skills is that of the text of a skill. -/
def isSkillText (relative : String) : Bool :=
  match Text.segments relative with
  | [_, file] => file == Compile.skillFile
  | _ => false

/-- Whether a path below the directory of agents is that of an agent. -/
def isAgentText (relative : String) : Bool :=
  (Text.segments relative).length == 1 && Text.endsWith relative ".md"

/-- The issues of the declared directory of a kind of documents. -/
def directoryEntryIssues (paths : List String) (kind declared : String) (isText : String → Bool) :
    List Issue :=
  let entry := "Declared " ++ kind ++ " entry point " ++ Text.inQuotes declared
  match paths.filterMap (below? (entryDirectory declared)) with
  | [] => [.error Manifest.path (entry ++ " does not exist")]
  | relatives =>
    if relatives.any isText then []
    else [.error Manifest.path (entry ++ " contains no " ++ kind ++ " documents")]

/-- The value of a text that should be JSON, or the issue of one that is not. -/
def jsonOf (location text : String) : Checked (Value ⊕ Issue) :=
  match Json.read text with
  | .ok v => .ok (.inl v)
  | .error f =>
    if f.isFormal then .ok (.inr (.error location ("Invalid JSON: " ++ f.message)))
      else .error (.json f)

/-- The issues of the declared file of hooks. -/
def hooksEntryIssues (files : Table String) (declared : String) : Checked (List Issue) := do
  let path := entryPath declared
  let entry := "Declared hooks entry point " ++ Text.inQuotes declared
  match files.get? path with
  | none => return [.error Manifest.path (entry ++ " does not exist")]
  | some s =>
    if Text.allBlank s then
      return [.error path (entry ++ " is empty")]
    match ← jsonOf path s with
    | .inl v => return hooksIssues v path
    | .inr issue => return [issue]

/-- The manifest of a bundle as a value, empty if there is none, and the issues on the way to it. -/
def manifestOf (files : Table String) : Checked (Entries × List Issue) := do
  match files.get? Manifest.path with
  | none => return ([], [.error Manifest.path "Missing plugin manifest"])
  | some s =>
    match ← jsonOf Manifest.path s with
    | .inr issue => return ([], [issue])
    | .inl (.map entries) => return (entries, manifestIssues (.map entries) Manifest.path)
    | .inl v => return ([], manifestIssues v Manifest.path)

/-- The directory of a kind of documents: the declared one, or else the usual one. -/
def directoryOf (manifest : Value) (kind usual : String) : String :=
  match text? manifest kind with
  | some declared => entryDirectory declared
  | none => usual

/-- The issues of what a manifest declares under a kind. -/
def declaredIssues (manifest : Value) (kind : String) (issues : String → Checked (List Issue)) :
    Checked (List Issue) :=
  match text? manifest kind with
  | some declared => issues declared
  | none => .ok []

/-- The issues of all entry points. -/
def entryIssues (files : Table String) (manifest : Value) : Checked (List Issue) := do
  let skills ← declaredIssues manifest "skills" fun declared =>
    .ok (directoryEntryIssues files.names "skills" declared isSkillText)
  let agents ← declaredIssues manifest "agents" fun declared =>
    .ok (directoryEntryIssues files.names "agents" declared isAgentText)
  let hooks ← declaredIssues manifest "hooks" (hooksEntryIssues files)
  return skills ++ agents ++ hooks

/-- Whether a path is that of the text of a skill below a directory. -/
def isSkillPath (skills path : String) : Bool := (below? skills path).any isSkillText

/-- Whether a path is that of an agent below a directory. -/
def isAgentPath (agents path : String) : Bool := (below? agents path).any isAgentText

/-- The issues of one document of a bundle. -/
def documentIssues (skills agents : String) (file : String × String) : Checked (List Issue) :=
  if isSkillPath skills file.1 then skillIssues file.2 file.1
  else if isAgentPath agents file.1 then agentIssues file.2 file.1
  else .ok []

/-- The files of a bundle in the order of their paths. -/
def sortedFiles (files : Table String) : Table String := files.mergeSort fun a b => Text.le a.1 b.1

/-- The warning about content that a manifest does not declare. -/
def undeclaredIssues (manifest : Value) (kind location : String) (there : Bool) : List Issue :=
  if (stated? manifest kind).isNone && there then
    [.warning location "Content is not declared in the manifest"]
  else
    []

/-- The warnings about all content that a manifest does not declare. -/
def undeclared (files : Table String) (manifest : Entries) (skills agents : String) : List Issue :=
  let v : Value := .map manifest
  let below (directory : String) := files.any fun f => Text.startsWith f.1 directory
  if manifest.isEmpty then []
  else
    undeclaredIssues v "skills" skills (below skills) ++
      undeclaredIssues v "agents" agents (below agents) ++
      undeclaredIssues v "hooks" Compile.hooksPath (files.has Compile.hooksPath)

/-- The warning about a missing readme. -/
def readmeIssues (files : Table String) : List Issue :=
  if files.has Readme.path then []
  else [.warning Readme.path "Missing README.md (recommended for documentation)"]

end Validation

/-- Validates a bundle. Numbers and dates that cannot be read or written are the only thing that
ends validation. -/
def Bundle.validate (b : Bundle) : Validation.Checked Report := do
  let (manifest, manifestIssues) ← Validation.manifestOf b.files
  let v : Value := .map manifest
  let entries ← Validation.entryIssues b.files v
  let skills := Validation.directoryOf v "skills" Manifest.skillsDirectory
  let agents := Validation.directoryOf v "agents" Manifest.agentsDirectory
  let documents ← (Validation.sortedFiles b.files).mapM (Validation.documentIssues skills agents)
  return {
    bundle := b
    issues := manifestIssues ++ entries ++ documents.flatten ++
      Validation.undeclared b.files manifest skills agents ++ Validation.readmeIssues b.files }

end AgentBundles
