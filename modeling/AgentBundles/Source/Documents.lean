import AgentBundles.Header
import AgentBundles.Record.Profile
import AgentBundles.Record.Stack
import AgentBundles.Source.Basic

/-!
# What a source tree holds

The matrix of skills, the skills, and the catalog made from them; the agent profiles; the stacks,
each in a directory of its own; and the templates.

Every directory below `skills` with a text `SKILL.md` and a file `metadata.yaml` is a skill, unless
the header of the text gives no name. The other files below the directory belong to the skill, but
not those of a skill nested in it.
-/

namespace AgentBundles.SourceTree

/-! ### Skills of a source tree -/

/-- The name of the file with the text of a skill. -/
def skillFile : String := "SKILL.md"

/-- The name of the file that describes a skill. -/
def metadataFile : String := "metadata.yaml"

/-- The directory of the skills. -/
def skillsRoot (t : SourceTree) : FilePath := t.root.below ["skills"]

/-- Whether a directory holds the text of a skill. -/
def holdsSkill (d : Disk) (directory : FilePath) : Bool :=
  d.isFile (directory.below [skillFile]) matches .ok true

/-- Whether a place below a directory lies in a skill nested in it. -/
def isNested (d : Disk) (directory : FilePath) (place : Place) : Bool :=
  (List.range (place.length - 1)).any fun n => holdsSkill d (directory.below (place.take (n + 1)))

/-- The places of the files that belong to the skill in a directory, besides its text and
description. -/
def resourcePlaces (d : Disk) (directory : FilePath) : List Place :=
  (d.below directory).filterMap fun e =>
    match e.2 with
    | .directory => none
    | .file _ =>
      if e.1 == [skillFile] || e.1 == [metadataFile] || isNested d directory e.1 then none
      else some e.1

/-- The files that belong to the skill in a directory, under their paths. -/
def resources (t : SourceTree) (d : Disk) (directory : FilePath) :
    Except SourceFault (Table String) :=
  (resourcePlaces d directory).mapM fun place =>
    (t.text d (directory.below place)).map fun s => (placeText place, s)

/-- The name in the header of a skill's text. -/
def nameIn? (header : Value) : Option String :=
  match header.field? "name" with
  | some (.str s) => if s.isEmpty then none else some s
  | _ => none

/-- The description in the header of a skill's text; empty if there is none. -/
def descriptionIn (header : Value) : Except SourceFault String :=
  match header.field? "description" with
  | some v =>
      if v.isEmpty then .ok "" else if v.isShowable then .ok v.plainText else .error .unwritable
  | none => .ok ""

/-- The skill at a place below the directory of skills, if there is one. -/
def skill? (t : SourceTree) (d : Disk) (place : Place) :
    Except SourceFault (Option Record.Skill) := do
  let directory := t.skillsRoot.below place
  let metadataPath := directory.below [metadataFile]
  if !(← isFile d metadataPath) then
    return none
  let s ← t.text d (directory.below [skillFile])
  let (header, body) ← (Header.split s).mapError .header
  let some name := nameIn? header | return none
  let metadata ← t.document d metadataPath Record.Metadata.ofValue
  let description ← descriptionIn header
  let resources ← t.resources d directory
  return some {
    id := name
    description := description
    content := body
    metadata := metadata
    resources := resources
    path := placeText place }

/-- The places below the directory of skills where there is something with the name of a skill's
text. -/
def skillPlaces (t : SourceTree) (d : Disk) : List Place :=
  (d.below t.skillsRoot).filterMap fun e =>
    if e.1.getLast? == some skillFile then some e.1.dropLast else none

/-- All skills, in the order of the paths of their texts. -/
def skills (t : SourceTree) (d : Disk) : Except SourceFault (List Record.Skill) := do
  if !(← (d.isDirectory t.skillsRoot).mapError .file) then
    throw (.noSkills ⟨"Skills directory", t.skillsRoot⟩)
  let skills ← (t.skillPlaces d).mapM (t.skill? d)
  return skills.filterMap id

/-! ### Documents of a source tree -/

variable (t : SourceTree) (d : Disk)

/-- The matrix of skills. -/
def matrix : Except SourceFault Record.Matrix :=
  t.document d (t.root.below ["skills-matrix.yaml"]) Record.Matrix.ofValue

/-- The catalog. -/
def catalog : Except SourceFault Catalog := do
  let matrix ← t.matrix d
  (Catalog.build matrix (← t.skills d)).mapError .catalog

/-- The agent profiles under their names; without their file there are none. -/
def profiles : Except SourceFault (Table AgentProfile) := do
  let path := t.root.below ["agents.yaml"]
  if !(← isFile d path) then
    return []
  let profiles ← t.document d path Record.profilesOfValue
  return profiles.map fun p => (p.1, ⟨p.1, p.2⟩)

/-- The directory of the stacks. -/
def stacksRoot : FilePath := t.root.below ["stacks"]

/-- The name of the file that describes a stack. -/
def stackFile : String := "config.yaml"

/-- The identifiers of all stacks. -/
def stackIds : List String :=
  Text.sort ((d.below t.stacksRoot).filterMap fun e =>
    match e.1 with
    | [id, file] => if file == stackFile then some id else none
    | _ => none)

/-- The stack with an identifier. -/
def stack (id : String) : Except SourceFault Record.Stack := do
  let path := (t.stacksRoot.child id).below [stackFile]
  if !path.isPlain then
    throw (.file .zero)
  let place := d.resolve path
  if (relative? (d.resolve t.stacksRoot) place).isNone then
    throw (.outside id)
  t.document d (.ofPlace place) Record.Stack.ofValue

/-- The directory of the templates. -/
def templatesRoot : FilePath := t.root.below ["templates"]

/-- The templates. -/
def templates : Except FileFault TemplateDirectory :=
  TemplateDirectory.read d t.templatesRoot t.limit

end AgentBundles.SourceTree
