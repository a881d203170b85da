import AgentBundles.Bundle.Manifest

/-!
# Bundles

A bundle is texts under paths, among them the manifest, and the place where it can be found. Its
readme is a page that names it and lists its agents and skills.
-/

namespace AgentBundles

/-! ### Bundles -/

/-- Where bundles are kept that are not beside their catalog. -/
inductive Host where
  | github
  | url
  deriving DecidableEq, Repr

/-- The name of a kind of host. -/
def Host.name : Host → String
  | .github => "github"
  | .url => "url"

/-- Where a bundle can be fetched from. -/
structure RemoteSource where
  source : Host
  repo : Option String
  url : Option String
  ref : Option String
  deriving DecidableEq, Repr

/-- A remote source as a value. -/
def RemoteSource.toValue (r : RemoteSource) : Value :=
  Value.ofFields
    ([("source", .str r.source.name)] ++ present "repo" r.repo ++ present "url" r.url ++
      present "ref" r.ref)

/-- Where a bundle is. -/
inductive Location where
  | path (p : String)
  | remote (r : RemoteSource)
  deriving DecidableEq, Repr

/-- A location as a value. -/
def Location.toValue : Location → Value
  | .path p => .str p
  | .remote r => r.toValue

/-- A bundle. -/
structure Bundle where
  files : Table String
  location : Option Location
  deriving DecidableEq, Repr

namespace Record

/-- Reads a kind of host. -/
def host : Decoder Host
  | .str "github" => .done .github
  | .str "url" => .done .url
  | _ => .defect .literal

/-- Reads a remote source. -/
def remoteSource : Decoder RemoteSource := fields fun es =>
  RemoteSource.mk <$> required es "source" host <*> withDefault es "repo" none (optional string)
    <*> withDefault es "url" none (optional string) <*> withDefault es "ref" none (optional string)

/-- Reads a location; a value that is neither text nor remote source has the defects of both. -/
def location (v : Value) : Decoded Location :=
  match string v, remoteSource v with
  | .done s, _ => .done (.path s)
  | _, .done r => .done (.remote r)
  | .defective cs, .defective ds =>
    .defective (((Decoded.defective cs : Decoded Unit).under "str").defects ++
      ((Decoded.defective ds : Decoded Unit).under "RemoteSource").defects)

/-- Reads a bundle. -/
def bundle : Decoder Bundle := fields fun es =>
  Bundle.mk <$> withDefault es "files" [] (table string)
    <*> withDefault es "location" none (optional location)

end Record

/-- The remote source that a value holds. -/
def RemoteSource.ofValue (v : Value) : Except Record.Fault RemoteSource :=
  (Record.remoteSource v).toExcept "RemoteSource"

namespace Bundle

/-- The bundle that a value holds. -/
def ofValue (v : Value) : Except Record.Fault Bundle := (Record.bundle v).toExcept "Bundle"

/-- The manifest of a bundle. -/
def manifest (b : Bundle) : Except ManifestFault Manifest :=
  match b.files.get? Manifest.path with
  | some s => Manifest.read s
  | none => .error .missing

end Bundle

/-- Two documents of a bundle have one path. -/
structure SharedPath where
  path : String
  deriving DecidableEq, Repr

/-- What a message says of documents with one path. -/
def SharedPath.message (e : SharedPath) : String :=
  "Duplicate document path " ++ Text.inQuotes e.path

/-- The files of documents whose paths are not among those of `files`. -/
def addDocuments (files : Table String) : List Document → Except SharedPath (Table String)
  | [] => .ok files
  | d :: ds =>
    if files.has d.path then .error ⟨d.path⟩ else addDocuments (files ++ [(d.path, d.content)]) ds

/-- The bundle of documents and a manifest; the manifest takes the place of a document at its
path. -/
def Bundle.assemble (documents : List Document) (readme : Option Document) (m : Manifest)
    (location : Option Location) : Except SharedPath Bundle :=
  (addDocuments [] (documents ++ readme.toList)).map fun files =>
    ⟨files.insert Manifest.path m.write, location⟩

/-! ### The readme of a bundle -/

namespace Readme

/-- The path of the readme in a bundle. -/
def path : String := "README.md"

/-- A text in backquotes. -/
def code (s : String) : String := "`" ++ s ++ "`"

/-- The names of the agents among documents at paths, in order. -/
def agentNames (paths : List String) : List String :=
  let agents := paths.filter fun p =>
    Text.startsWith p Manifest.agentsDirectory && Text.endsWith p ".md"
  Text.sort (agents.map fun p => Text.dropEnd (Text.dropStart p Manifest.agentsDirectory.length) 3)

/-- The names of the skills among documents at paths, in order. -/
def skillNames (paths : List String) : List String :=
  let skills := paths.filter fun p =>
    Text.startsWith p Manifest.skillsDirectory && Text.endsWith p ("/" ++ Compile.skillFile)
  Text.sort (skills.map fun p => ((Text.segments p).drop 1).headD "")

/-- A section under a title, unless it has no lines. -/
def titled (title : String) (lines : List String) : List String :=
  if lines.isEmpty then [] else ["## " ++ title, ""] ++ lines ++ [""]

/-- A list with a hyphen before each item. -/
def bullets (items : List String) : List String := items.map ("- " ++ ·)

/-- The lines of the readme of a bundle with documents at paths. -/
def lines (m : BundleMetadata) (paths : List String) : List String :=
  ["# " ++ m.name, "", orElse m.description "An agent skill bundle.", ""] ++
    titled "Tags" (if m.keywords.isEmpty then [] else [Text.join " " (m.keywords.map code)]) ++
    titled "Agents" (bullets ((agentNames paths).map code)) ++
    titled "Skills" (bullets ((skillNames paths).map code)) ++
    titled "Philosophy"
      ((m.philosophy.filter fun p => !p.isEmpty).toList.map Text.trim) ++
    titled "Principles" (bullets m.principles)

/-- The readme of a bundle with documents at paths. -/
def document (m : BundleMetadata) (paths : List String) : Document where
  path := path
  content := Text.join "\n" (lines m paths)
  contributors := []

end Readme

end AgentBundles
