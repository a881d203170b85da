import AgentBundles.Bundle.Version
import AgentBundles.Compile.Bundle
import AgentBundles.Json.Reader
import AgentBundles.Record.Stack

/-!
# Manifests

The manifest of a bundle names it and declares where its skills, agents and hooks are. An entry
point is declared only if there are documents of its kind.
-/

namespace AgentBundles

/-- The author of a bundle. -/
structure Author where
  name : String
  email : Option String
  deriving DecidableEq, Repr

/-- What the maker of a bundle says of it. -/
structure BundleMetadata where
  name : String
  version : String
  description : Option String
  author : Option String
  authorEmail : Option String
  license : String
  keywords : List String
  philosophy : Option String
  principles : List String
  deriving DecidableEq, Repr

/-- The manifest of a bundle. -/
structure Manifest where
  name : String
  version : String
  description : Option String
  author : Option Author
  license : String
  keywords : List String
  skills : Option String
  agents : Option String
  hooks : Option String
  deriving DecidableEq, Repr

namespace Manifest

/-- The path of the manifest in a bundle. -/
def path : String := ".claude-plugin/plugin.json"

/-- The version of a bundle that states none. -/
def defaultVersion : String := "1.0.0"

/-- The licence of a bundle that states none. -/
def defaultLicense : String := "MIT"

/-- The directory of the skills in a bundle. -/
def skillsDirectory : String := "skills/"

/-- The directory of the agents in a bundle. -/
def agentsDirectory : String := "agents/"

end Manifest

/-! ### Reading -/

namespace Record

/-- Reads an author. -/
def author : Decoder Author := fields fun es =>
  Author.mk <$> required es "name" string <*> withDefault es "email" none (optional string)

/-- Reads the metadata of a bundle. -/
def bundleMetadata : Decoder BundleMetadata := fields fun es =>
  BundleMetadata.mk <$> required es "name" string
    <*> withDefault es "version" Manifest.defaultVersion string
    <*> withDefault es "description" none (optional string)
    <*> withDefault es "author" none (optional string)
    <*> withDefault es "author_email" none (optional string)
    <*> withDefault es "license" Manifest.defaultLicense string
    <*> withDefault es "keywords" [] (tuple string)
    <*> withDefault es "philosophy" none (optional string)
    <*> withDefault es "principles" [] (tuple string)

/-- Reads a manifest. -/
def manifest : Decoder Manifest := fields fun es =>
  Manifest.mk <$> required es "name" string
    <*> withDefault es "version" Manifest.defaultVersion string
    <*> withDefault es "description" none (optional string)
    <*> withDefault es "author" none (optional author)
    <*> withDefault es "license" Manifest.defaultLicense string
    <*> withDefault es "keywords" [] (tuple string)
    <*> withDefault es "skills" none (optional string)
    <*> withDefault es "agents" none (optional string)
    <*> withDefault es "hooks" none (optional string)

end Record

/-- The metadata that a value holds. -/
def BundleMetadata.ofValue (v : Value) : Except Record.Fault BundleMetadata :=
  (Record.bundleMetadata v).toExcept "BundleMetadata"

/-- The metadata that a stack states; its tags are the keywords. -/
def BundleMetadata.ofStack (s : Record.Stack) : BundleMetadata where
  name := s.name
  version := s.version
  description := s.description
  author := s.author
  authorEmail := s.authorEmail
  license := Manifest.defaultLicense
  keywords := s.tags
  philosophy := s.philosophy
  principles := s.principles

/-- Why a bundle has no manifest. -/
inductive ManifestFault where
  | missing
  | text (f : Json.Fault)
  | record (f : Record.Fault)
  deriving DecidableEq, Repr

/-- The kind of a fault. -/
def ManifestFault.kind : ManifestFault → FaultKind
  | .missing => .key
  | .text f => f.kind
  | .record _ => .record

/-- What a message says of a bundle without manifest. -/
def ManifestFault.message : ManifestFault → String
  | .missing => Text.quoted Manifest.path
  | .text f => f.message
  | .record f => f.message

namespace Manifest

/-- The manifest that a value holds. -/
def ofValue (v : Value) : Except Record.Fault Manifest :=
  (Record.manifest v).toExcept "BundleManifest"

/-- The manifest that a text holds. -/
def read (s : String) : Except ManifestFault Manifest :=
  match Json.read s with
  | .error f => .error (.text f)
  | .ok v => (ofValue v).mapError .record

end Manifest

/-! ### Writing -/

/-- A field of a text that is there and not empty. -/
def stated (name : String) (s? : Option String) : List (String × Value) :=
  match s? with
  | some s => if s.isEmpty then [] else [(name, .str s)]
  | none => []

/-- A field of a text that is there. -/
def present (name : String) (s? : Option String) : List (String × Value) :=
  match s? with
  | some s => [(name, .str s)]
  | none => []

/-- A field of a list that is not empty. -/
def listed (name : String) (ss : List String) : List (String × Value) :=
  if ss.isEmpty then [] else [(name, Value.ofStrings ss)]

/-- An author as a value. -/
def Author.toValue (a : Author) : Value :=
  Value.ofFields ([("name", .str a.name)] ++ present "email" a.email)

namespace Manifest

/-- The field of an author. -/
def authorField : Option Author → List (String × Value)
  | some a => [("author", a.toValue)]
  | none => []

/-- A manifest as a value, without the fields that say nothing. -/
def toValue (m : Manifest) : Value :=
  Value.ofFields
    ([("name", .str m.name), ("version", .str m.version)] ++ stated "description" m.description ++
      authorField m.author ++ [("license", .str m.license)] ++ listed "keywords" m.keywords ++
      present "skills" m.skills ++ present "agents" m.agents ++ present "hooks" m.hooks)

/-- The text of a manifest. -/
def write (m : Manifest) : String := Json.write m.toValue ++ "\n"

/-- The entry point of a kind, if it is declared. -/
def entryPoint (kind : String) : Option String → Table String
  | some path => if path.isEmpty then [] else [(kind, path)]
  | none => []

/-- The declared entry points by kind. -/
def entryPoints (m : Manifest) : Table String :=
  entryPoint "skills" m.skills ++ entryPoint "agents" m.agents ++ entryPoint "hooks" m.hooks

/-- A path as an entry point, if it is needed. -/
def declare (needed : Bool) (path : String) : Option String :=
  if needed then some ("./" ++ path) else none

/-- The manifest of documents at paths. -/
def describe (m : BundleMetadata) (paths : List String) : Manifest where
  name := m.name
  version := if m.version.isEmpty then defaultVersion else m.version
  description := m.description
  author := (m.author.filter fun a => !a.isEmpty).map fun a => ⟨a, m.authorEmail⟩
  license := m.license
  keywords := m.keywords
  skills := declare (paths.any fun p => Text.startsWith p skillsDirectory) skillsDirectory
  agents := declare (paths.any fun p => Text.startsWith p agentsDirectory) agentsDirectory
  hooks := declare (paths.contains Compile.hooksPath) Compile.hooksPath

/-- A manifest with a part of its version raised. -/
def raiseVersion (m : Manifest) (part : String) : Except VersionFault Manifest :=
  (AgentBundles.raiseVersion m.version part).map fun v => { m with version := v }

end Manifest

end AgentBundles
