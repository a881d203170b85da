import AgentBundles.Catalog.Basic
import AgentBundles.Digest.Sha256
import AgentBundles.Header
import AgentBundles.Json.Writer
import AgentBundles.Record.Profile
import AgentBundles.Selection.Validation
import AgentBundles.Template.Placeholder
import AgentBundles.Text.Utf8

/-!
# Agents

A skill concerns an agent if its category or one above it is listed for the agent; an agent that is
not listed is concerned by every skill.

The document of an agent is a header and sections: the filled base template, the partials before the
skills, the texts of the preloaded skills, the index of the other skills that concern the agent, and
the partials after the skills. A section that the base template takes in at a place of its own is
not repeated. The digest of documents is taken over their paths and contents, each followed by a
zero byte.
-/

namespace AgentBundles

/-! ### Routing -/

/-- The categories that concern each agent. -/
abbrev Routing := Table (List String)

namespace Routing

/-- Reads a routing. -/
def decode : Record.Decoder Routing := Record.fields fun es =>
  Record.withDefault es "routes" [] (Record.table (Record.tuple Record.string))

/-- The routing that a table of categories by agent holds. -/
def ofValue (v : Value) : Except Record.Fault Routing :=
  (decode (Value.ofFields [("routes", v)])).toExcept "SkillRouting"

/-- Whether a category or one above it is among some. -/
def covers (c : Catalog) (categories : List String) (category : String) : Bool :=
  (c.lineage category).any categories.contains

/-- The skills of a list that concern an agent; the identifier of a skill that is not there is a
fault if categories have to be looked at. -/
def relevant (r : Routing) (c : Catalog) (agent : String) (ids : List String) :
    Except String (List String) :=
  match r.get? agent with
  | none => .ok ids
  | some categories => do
    let kept ← ids.mapM fun id =>
      match c.skill? id with
      | some s => Except.ok (if covers c categories s.category then [id] else [])
      | none => .error (c.resolve id)
    return kept.flatten

end Routing

/-! ### Documents -/

/-- A document of a bundle. -/
structure Document where
  path : String
  content : String
  contributors : List String
  deriving DecidableEq, Repr

namespace Document

/-- The bytes of a document that its digest is taken over. -/
def digestBytes (d : Document) : List UInt8 :=
  Text.utf8 d.path ++ 0 :: Text.utf8 d.content ++ [0]

/-- The bytes that the digest of documents is taken over. -/
def allDigestBytes (ds : List Document) : List UInt8 := ds.flatMap digestBytes

/-- The digest of documents. -/
def digest (ds : List Document) : String := Sha256.digest (allDigestBytes ds)

end Document

/-- The short digest of a text. -/
def contentHash (s : String) : String := Sha256.short (Sha256.digest (Text.utf8 s))

/-! ### Compiling an agent -/

/-- What an agent profile lacks. -/
inductive LackKind where
  | template
  | skill
  deriving DecidableEq, Repr

/-- The name of what a profile lacks. -/
def LackKind.name : LackKind → String
  | .template => "template"
  | .skill => "skill"

/-- Why documents cannot be compiled. -/
inductive CompileFault where
  /-- The selection has not passed validation. -/
  | notValidated
  /-- A profile refers to templates or skills that are not there. -/
  | lacking (profile : String) (missing : List String) (kind : LackKind)
  /-- A selected identifier is no skill's. -/
  | unknownSkill (id : String)
  | duplicateProfile (name : String)
  /-- Two skills have one slug. -/
  | sharedSlug (first second slug : String)
  /-- The hooks have no JSON text. -/
  | hooks (part : Json.Unwritable)
  deriving DecidableEq, Repr

/-- The kind of a fault. -/
def CompileFault.kind : CompileFault → FaultKind
  | .notValidated => .type
  | .lacking _ _ _ => .profile
  | .unknownSkill _ => .key
  | .duplicateProfile _ => .value
  | .sharedSlug _ _ _ => .value
  | .hooks part => part.kind

/-- What a message says of documents that cannot be compiled. -/
def CompileFault.message : CompileFault → String
  | .notValidated =>
    "Compilation requires a ValidatedSelection; got Selection. Call validate_selection() first."
  | .lacking profile missing kind =>
    "Agent profile " ++ Text.inQuotes profile ++ " references missing " ++ kind.name ++ "(s): " ++
      Text.join ", " (missing.map Text.inQuotes)
  | .unknownSkill id => Text.quoted id
  | .duplicateProfile name => "Duplicate agent profile " ++ Text.inQuotes name
  | .sharedSlug first second slug =>
    "Skills " ++ Text.inQuotes first ++ " and " ++ Text.inQuotes second ++
      " share the output name " ++ Text.inQuotes slug
  | .hooks part => part.message

/-- A place in a template for which there was no text. -/
structure CompileWarning where
  agent : String
  template : String
  placeholder : String
  deriving DecidableEq, Repr

/-- What a message says of a place without text. -/
def CompileWarning.message (w : CompileWarning) : String :=
  "Agent " ++ Text.inQuotes w.agent ++ ": unresolved placeholder " ++ Text.inQuotes w.placeholder ++
    " in template " ++ Text.inQuotes w.template

/-- The document of an agent, and the warnings on the way. -/
structure AgentCompilation where
  document : Document
  warnings : List CompileWarning
  deriving DecidableEq, Repr

/-- The validated selection of a result, without which nothing is compiled. -/
def SelectionResult.forCompilation (r : SelectionResult) : Except CompileFault ValidatedSelection :=
  match r.validated? with
  | some s => .ok s
  | none => .error .notValidated

namespace Compile

/-- What stands between the sections of a document. -/
def separator : String := "\n\n---\n\n"

/-- Sections as one text; empty ones do not count. -/
def joinSections (sections : List String) : String :=
  Text.join separator (sections.filter fun s => !s.isEmpty)

/-- The line of the index for a skill. -/
def indexLine (s : Skill) : String :=
  Text.trimEnd ("- `" ++ s.slug ++ "`: " ++ orElse s.usageGuidance s.description)

/-- The index of skills; empty without skills. -/
def skillIndex (skills : List Skill) : String :=
  if skills.isEmpty then ""
    else Text.join "\n" ("## Available Skills" :: "" :: skills.map indexLine)

/-- The texts of skills as one. -/
def skillTexts (skills : List Skill) : String :=
  joinSections (skills.map fun s => Text.trim s.content)

/-- The skill with an identifier or short name. -/
def skillOf (c : Catalog) (id : String) : Except CompileFault Skill :=
  match c.skill? id with
  | some s => .ok s
  | none => .error (.unknownSkill (c.resolve id))

/-- The identifiers of the preloaded skills of a profile, if its templates and skills are all
there. -/
def preloadedIds (c : Catalog) (p : AgentProfile) (templates : Table String) :
    Except CompileFault (List String) :=
  let noTemplates := p.templateIds.filter fun t => !templates.has t
  let ids := p.settings.preloadedSkills.map c.resolve
  let noSkills := ids.filter fun id => !c.contains id
  if !noTemplates.isEmpty then .error (.lacking p.name noTemplates .template)
  else if !noSkills.isEmpty then .error (.lacking p.name noSkills .skill)
  else .ok (Text.distinct ids)

/-- The texts that every template of a profile can take in. -/
def scalarContext (p : AgentProfile) : Table String :=
  [("name", p.name), ("description", p.settings.description)]

/-- The text of a template. -/
def templateText (templates : Table String) (id : String) : String :=
  (templates.get? id).getD ""

/-- A partial of a profile with its places filled. -/
def renderPartial (p : AgentProfile) (templates : Table String) (id : String) : String :=
  Template.fill (scalarContext p).get? (templateText templates id)

/-- The texts that the base template of a profile can take in; of texts with one name the last
counts. -/
def baseContext (p : AgentProfile) (templates : Table String) (skills index : String) :
    Table String :=
  let rendered := renderPartial p templates
  Table.ofList
    (scalarContext p ++ p.partialIds.map (fun id => (id, rendered id)) ++
      [("skills", skills), ("skill_index", index),
       ("core_partials", joinSections (p.settings.partials.map rendered)),
       ("ending_partials", joinSections (p.settings.endingPartials.map rendered))])

/-- The partials that the base template has not taken in, together or one by one. -/
def remaining (taken : List String) (group : String) (rendered : String → String)
    (ids : List String) :
    List String :=
  if taken.contains group then [] else (ids.filter fun id => !taken.contains id).map rendered

/-- The sections of the document of a profile. -/
def sections (p : AgentProfile) (templates : Table String) (skills index : String) : List String :=
  let context := baseContext p templates skills index
  let template := templateText templates p.settings.template
  let taken := (Template.places template).filter context.has
  let rendered := renderPartial p templates
  [Template.fill context.get? template] ++
    remaining taken "core_partials" rendered p.settings.partials ++
    (if taken.contains "skills" then [] else [skills]) ++
    (if taken.contains "skill_index" then [] else [index]) ++
    remaining taken "ending_partials" rendered p.settings.endingPartials

/-- The warnings about the places of a template without text. -/
def warningsIn (p : AgentProfile) (templates : Table String) (context : Table String)
    (id : String) :
    List CompileWarning :=
  (Template.unfilled context.get? (templateText templates id)).map fun name => ⟨p.name, id, name⟩

/-- All warnings for a profile: those of its partials in order, then those of its base template. -/
def warnings (p : AgentProfile) (templates : Table String) (skills index : String) :
    List CompileWarning :=
  p.partialIds.flatMap (warningsIn p templates (scalarContext p)) ++
    warningsIn p templates (baseContext p templates skills index) p.settings.template

/-- A list in a header, or nothing if it is empty. -/
def headerList (items : List String) : Value :=
  let s := Text.join ", " items
  if s.isEmpty then .null else .str s

/-- A text in a header, or nothing. -/
def headerText (s? : Option String) : Value :=
  match s? with
  | some s => .str s
  | none => .null

/-- The header of the document of a profile. -/
def header (p : AgentProfile) (preloaded : List Skill) : Entries :=
  [(.str "name", .str p.name), (.str "description", .str p.settings.description),
   (.str "tools", headerList p.settings.tools),
   (.str "disallowedTools", headerList p.settings.disallowedTools),
   (.str "model", headerText p.settings.model),
   (.str "permissionMode", headerText p.settings.permissionMode),
   (.str "skills", headerList (preloaded.map (·.slug)))]

/-- The path of the document of an agent. -/
def agentPath (name : String) : String := "agents/" ++ name ++ ".md"

/-- Compiles the document of an agent. -/
def agent (c : Catalog) (s : ValidatedSelection) (p : AgentProfile) (templates : Table String)
    (routing : Routing) : Except CompileFault AgentCompilation := do
  let preloadedIds ← preloadedIds c p templates
  let relevant ← (routing.relevant c p.name s.selection.ids).mapError .unknownSkill
  let ids := Text.distinct (preloadedIds ++ relevant)
  let preloaded ← preloadedIds.mapM (skillOf c)
  let indexed ← (ids.filter fun id => !preloadedIds.contains id).mapM (skillOf c)
  let skills := skillTexts preloaded
  let index := skillIndex indexed
  return {
    document :=
      { path := agentPath p.name
        content :=
          Header.render (header p preloaded) (joinSections (sections p templates skills index))
        contributors := ids }
    warnings := warnings p templates skills index }

end Compile

end AgentBundles
