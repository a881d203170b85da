import AgentBundles.Build.Stack

/-!
# Builds and publications

A build makes the bundles of all stacks asked for, one after the other. A publication validates all
bundles in the output directory and writes the catalog index that lists them.
-/

namespace AgentBundles.Build

/-! ### Building -/

/-- The stacks of a build: those asked for, or those in the settings, or all of the source tree. -/
def stackIds (s : BuildSettings) (t : SourceTree) (d : Disk) (asked : List String) :
    Except Fault (List String) :=
  let ids := if !asked.isEmpty then asked else if !s.stackIds.isEmpty then s.stackIds
    else t.stackIds d
  if ids.isEmpty then .error (.noStacks t.root) else .ok ids

/-- What the stacks of a build share, and their identifiers. -/
def prepare (s : BuildSettings) (asked : List String) (bump : Option String) (d : Disk) :
    Except Fault (Workshop × List String) := do
  let tree ← (SourceTree.read d s.source defaultFileLimit).mapError .source
  let catalog ← (tree.catalog d).mapError .source
  let profiles ← (tree.profiles d).mapError .source
  let ids ← stackIds s tree d asked
  let templates ← TemplateSource.ofSettings tree d s.templates
  return (⟨tree, catalog, profiles, templates, s.output, bump⟩, ids)

/-- Builds the stacks asked for. -/
def run (s : BuildSettings) (web : Web) (asked : List String) (bump : Option String) :
    Disk.Action Fault (List Product) := do
  let (workshop, ids) ← .look (prepare s asked bump)
  ids.mapM (buildStack workshop web)

/-! ### Bundles on the disk -/

/-- Validates the bundle in a directory. -/
def validatePath (d : Disk) (path : FilePath) : Except Fault Report := do
  let bundle ← (Bundle.readFrom d path none).mapError .storage
  bundle.validate.mapError .validation

/-- The directories of all bundles in a directory, by name. -/
def bundlePaths (d : Disk) (output : FilePath) : Except Fault (List FilePath) := do
  if !(← (d.isDirectory output).mapError .file) then
    throw (.noOutput ⟨"Output directory", output⟩)
  let directories := (d.below output).filterMap fun e =>
    match e.1 with
    | [name] => some (output.below [name])
    | _ => none
  return directories.filter fun p => d.isFile (p.child Manifest.path) matches .ok true

/-! ### Publishing -/

/-- What a catalog index says of itself. -/
def publishSettings (s : CatalogSettings) : Publish.Settings :=
  ⟨s.name, ⟨s.ownerName, s.ownerEmail⟩, s.version, s.description, s.pluginRoot⟩

/-- The catalog index of all bundles in a directory. -/
def index (s : CatalogSettings) (output : FilePath) (d : Disk) : Except Fault CatalogIndex := do
  let reports ← (← bundlePaths d output).mapM (validatePath d)
  (Publish.publish (publishSettings s) (fun name => .ok (Publish.inferCategory name))
    (reports.map .report)).mapError .publish

/-- Publishes all bundles in the output directory; the result is the path of the catalog index. -/
def publish (s : BuildSettings) : Disk.Action Fault FilePath := do
  let some settings := s.catalog | throw .noCatalog
  let x ← .look (index settings s.output)
  ExceptT.adapt Fault.storage (storeText settings.path x.write)
  return settings.path

end AgentBundles.Build
