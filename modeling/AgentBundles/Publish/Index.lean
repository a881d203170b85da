import AgentBundles.Validation.Bundle

/-!
# Catalog indexes

A catalog index lists published bundles. Only bundles that pass validation when they are published
are listed, and either all bundles are listed or there is no index. The name of a bundle can suggest
its category: the first of the patterns that fits decides, and a pattern fits a name that begins
with one of its stems, before which `skill-` may stand.
-/

namespace AgentBundles

/-! ### Categories -/

namespace Publish

/-- The stems of names and the categories that they suggest. -/
def categoryPatterns : List (List String × String) :=
  [(["setup-"], "setup"),
   (["backend-"], "backend"),
   (["frontend-"], "frontend"),
   (["express", "fastify", "hono", "drizzle", "prisma", "better-auth"], "backend"),
   (["react-testing", "vue-test", "karma"], "testing"),
   (["react-query", "swr", "trpc", "graphql", "msw", "mocks"], "api"),
   (["react-hook-form", "vee-validate", "zod"], "forms"),
   (["react-intl", "next-intl", "vue-i18n"], "i18n"),
   (["react-native", "expo"], "mobile"),
   (["react", "vue", "angular", "solid", "next", "nuxt", "remix"], "frontend"),
   (["tailwind", "scss", "cva", "shadcn", "radix"], "frontend"),
   (["framer-motion", "css-animations", "view-transitions"], "frontend"),
   (["zustand", "mobx", "redux", "jotai", "pinia", "ngrx"], "frontend"),
   (["vitest", "cypress", "playwright", "jest", "testing"], "testing"),
   (["websockets", "socket-io", "sse"], "api"),
   (["posthog", "axiom", "pino", "sentry"], "observability"),
   (["github-actions"], "devops"),
   (["turborepo", "storybook", "tooling"], "tooling"),
   (["security"], "security")]

/-- Whether a name begins with a stem, before which `skill-` may stand. -/
def hasStem (name stem : String) : Bool :=
  Text.startsWith name stem || Text.startsWith name ("skill-" ++ stem)

/-- The category that a name suggests. -/
def inferCategory (name : String) : Option String :=
  (categoryPatterns.find? fun p => p.1.any (hasStem name)).map (·.2)

end Publish

/-! ### Indexes -/

/-- The owner of a catalog index. -/
structure Owner where
  name : String
  email : Option String
  deriving DecidableEq, Repr

/-- A bundle that a catalog index lists. -/
structure IndexEntry where
  name : String
  source : Location
  description : Option String
  version : Option String
  author : Option Author
  keywords : List String
  category : Option String
  deriving DecidableEq, Repr

/-- A catalog index. -/
structure CatalogIndex where
  name : String
  version : String
  description : Option String
  owner : Owner
  pluginRoot : String
  entries : List IndexEntry
  deriving DecidableEq, Repr

namespace Record

/-- Reads an owner. -/
def owner : Decoder Owner := fields fun es =>
  Owner.mk <$> required es "name" string <*> withDefault es "email" none (optional string)

/-- Reads an entry. -/
def indexEntry : Decoder IndexEntry := fields fun es =>
  IndexEntry.mk <$> required es "name" string <*> required es "source" location
    <*> withDefault es "description" none (optional string)
    <*> withDefault es "version" none (optional string)
    <*> withDefault es "author" none (optional author)
    <*> withDefault es "keywords" [] (tuple string)
    <*> withDefault es "category" none (optional string)

/-- Reads a catalog index. -/
def catalogIndex : Decoder CatalogIndex := fields fun es =>
  CatalogIndex.mk <$> required es "name" string
    <*> withDefault es "version" Manifest.defaultVersion string
    <*> withDefault es "description" none (optional string) <*> required es "owner" owner
    <*> required es "plugin_root" string <*> withDefault es "entries" [] (tuple indexEntry)

end Record

/-- The owner that a value holds. -/
def Owner.ofValue (v : Value) : Except Record.Fault Owner :=
    (Record.owner v).toExcept "CatalogOwner"

/-- An owner as a value. -/
def Owner.toValue (o : Owner) : Value :=
  Value.ofFields ([("name", .str o.name)] ++ present "email" o.email)

/-- An entry as a value, without the fields that say nothing. -/
def IndexEntry.toValue (e : IndexEntry) : Value :=
  Value.ofFields
    ([("name", .str e.name), ("source", e.source.toValue)] ++ stated "description" e.description ++
      stated "version" e.version ++ Manifest.authorField e.author ++ listed "keywords" e.keywords ++
      stated "category" e.category)

/-- A category with its entries in a list of such; categories are listed by their names. -/
def addToGroup (e : IndexEntry) (category : String) :
    Table (List IndexEntry) → Table (List IndexEntry)
  | [] => [(category, [e])]
  | g :: rest =>
    if g.1 == category then (g.1, g.2 ++ [e]) :: rest
    else if category < g.1 then (category, [e]) :: g :: rest
    else g :: addToGroup e category rest

namespace CatalogIndex

/-- The catalog index that a value holds. -/
def ofValue (v : Value) : Except Record.Fault CatalogIndex :=
  (Record.catalogIndex v).toExcept "CatalogIndex"

/-- A catalog index as a value. -/
def toValue (x : CatalogIndex) : Value :=
  Value.ofFields
    ([("$schema", .str "https://anthropic.com/claude-code/marketplace.schema.json"),
      ("name", .str x.name), ("version", .str x.version)] ++ stated "description" x.description ++
      [("owner", x.owner.toValue), ("metadata", Value.ofFields [("pluginRoot", .str x.pluginRoot)]),
       ("plugins", .list (x.entries.map (·.toValue)))])

/-- The text of a catalog index. -/
def write (x : CatalogIndex) : String := Json.write x.toValue ++ "\n"

/-- The entries by category, in the order of the categories' names. -/
def groups (x : CatalogIndex) : Table (List IndexEntry) :=
  x.entries.foldl (fun gs e => addToGroup e (orElse e.category "uncategorized") gs) []

end CatalogIndex

namespace Publish

/-- What is handed in for publication: a report, or a bundle without one. -/
inductive Submission where
  | report (r : Report)
  | bundle (b : Bundle)
  deriving DecidableEq, Repr

/-- Why no catalog index is published. Submissions are counted from zero. -/
inductive Fault where
  | notReported (position : Nat)
  | failed (position : Nat) (errors : List Issue)
  | stale (position : Nat)
  | duplicate (name : String)
  | validation (f : ValidationFault)
  | manifest (f : ManifestFault)
  /-- A setting does not exist. -/
  | unknown (name : String)
  /-- Settings are missing. -/
  | missing (names : List String)
  /-- The directory of bundles is given by a value that is no text. -/
  | root (v : Value)
  /-- The categories are given by a value that cannot be asked for them. -/
  | categories (v : Value)
  | record (f : Record.Fault)
  deriving Repr

/-- The kind of a fault. -/
def Fault.kind : Fault → FaultKind
  | .duplicate _ => .value
  | .validation f => f.kind
  | .manifest f => f.kind
  | .unknown _ => .type
  | .missing _ => .type
  | .root _ => .attribute
  | .categories _ => .type
  | .record _ => .record
  | _ => .unvalidated

/-- A submission by its number. -/
def input (position : Nat) : String := "Input #" ++ natText position

/-- What a message says of a catalog index that is not published. -/
def Fault.message : Fault → String
  | .notReported position =>
    input position ++ " is a Bundle, not a validation report; run validate_bundle() first"
  | .failed position errors =>
    input position ++ " failed validation: " ++ Text.join "; " (errors.map (·.text))
  | .stale position => input position ++ " no longer passes validation; its report is stale"
  | .duplicate name => "Duplicate bundle name " ++ Text.inQuotes name
  | .validation f => f.message
  | .manifest f => f.message
  | .unknown name => "publish_catalog() got an unexpected keyword argument " ++ Text.inQuotes name
  | .missing names =>
    "publish_catalog() missing " ++ natText names.length ++ " required keyword-only argument" ++
      (if names.length = 1 then "" else "s") ++ ": " ++ Text.join " and " (names.map Text.inQuotes)
  | .root v => Text.inQuotes v.fullKindName ++ " object has no attribute 'startswith'"
  | .categories v => Text.inQuotes v.fullKindName ++ " object is not callable"
  | .record f => f.message

/-- The bundle of a submission, if its report is without errors and so is a new one. -/
def accept (s : Submission × Nat) : Except Fault Bundle :=
  match s with
  | (.bundle _, position) => .error (.notReported position)
  | (.report r, position) =>
    if !r.ok then .error (.failed position r.errors)
    else
      match r.bundle.validate with
      | .error f => .error (.validation f)
      | .ok again => if again.ok then .ok r.bundle else .error (.stale position)

/-- The directory of bundles that have no location of their own. -/
def rootPath (pluginRoot : String) : String :=
  "./" ++ Text.trimSlashes (Validation.entryPath pluginRoot)

/-- The way to find the category of a bundle with a name, if it has one. -/
abbrev Categorizer := String → Except Fault (Option String)

/-- The entry of a bundle. -/
def entryOf (pluginRoot : String) (category : Option String) (b : Bundle) (m : Manifest) :
    IndexEntry where
  name := m.name
  source := b.location.getD (.path (rootPath pluginRoot ++ "/" ++ m.name))
  description := m.description
  version := some m.version
  author := m.author
  keywords := m.keywords
  category := category

/-- The entries of bundles whose names are neither among `seen` nor shared. -/
def entriesOf (pluginRoot : String) (categorize : Categorizer) (seen : List String) :
    List Bundle → Except Fault (List IndexEntry)
  | [] => .ok []
  | b :: bs => do
    let m ← b.manifest.mapError .manifest
    if seen.contains m.name then
      throw (.duplicate m.name)
    let category ← categorize m.name
    return entryOf pluginRoot category b m ::
      (← entriesOf pluginRoot categorize (m.name :: seen) bs)

/-- The bundles of what is handed in, each with a report that still holds. -/
def acceptAll (submissions : List Submission) : Except Fault (List Bundle) :=
    submissions.zipIdx.mapM accept

/-- The entries of bundles, in the order of their names. -/
def entries (pluginRoot : String) (categorize : Categorizer) (bundles : List Bundle) :
    Except Fault (List IndexEntry) :=
  (entriesOf pluginRoot categorize [] bundles).map fun es => es.mergeSort fun a b =>
    Text.le a.name b.name

/-- What a catalog index says of itself. -/
structure Settings where
  name : String
  owner : Owner
  version : String
  description : Option String
  pluginRoot : String
  deriving DecidableEq, Repr

/-- A field of a mapping under another name, if it is there. -/
def renamed (v : Value) (name newName : String) : List (String × Value) :=
  ((v.field? name).map fun x => (newName, x)).toList

/-- What a catalog index says of itself, read from a mapping; the owner is read first. -/
def Settings.ofValue (v : Value) : Except Record.Fault Settings := do
  let owner ← Owner.ofValue
    (.ofFields (renamed v "owner_name" "name" ++ renamed v "owner_email" "email"))
  let x ← CatalogIndex.ofValue (.ofFields
    (renamed v "name" "name" ++ renamed v "version" "version" ++
      renamed v "description" "description" ++ [("owner", owner.toValue),
        ("plugin_root", (v.field? "plugin_root").getD (.str "./plugins"))]))
  return ⟨x.name, owner, x.version, x.description, x.pluginRoot⟩

/-- The catalog index of entries. -/
def indexOf (s : Settings) (entries : List IndexEntry) : CatalogIndex where
  name := s.name
  version := s.version
  description := s.description
  owner := s.owner
  pluginRoot := s.pluginRoot
  entries := entries

/-- The catalog index of what is handed in. -/
def publish (s : Settings) (categorize : Categorizer) (submissions : List Submission) :
    Except Fault CatalogIndex := do
  let bundles ← acceptAll submissions
  return indexOf s (← entries s.pluginRoot categorize bundles)

/-! ### Settings that are not read yet -/

/-- The settings that have to be given. -/
def neededSettings : List String := ["name", "owner_name"]

/-- The settings that may be given. -/
def settingNames : List String :=
  neededSettings ++ ["owner_email", "version", "description", "plugin_root", "categorize"]

/-- Checks which settings are given. -/
def checkSettings (options : Entries) : Except Fault Unit :=
  match options.find? fun e => !settingNames.contains e.1.plainText with
  | some e => .error (.unknown e.1.plainText)
  | none =>
    let missing := neededSettings.filter fun name => (options.field? name).isNone
    if missing.isEmpty then .ok () else .error (.missing missing)

/-- The category that a value is. -/
def categoryOf : Value → Except Fault (Option String)
  | .null => .ok none
  | .str s => .ok (some s)
  | _ => .error (.record ⟨"CatalogEntry", [⟨["category"], .string⟩]⟩)

/-- The way to find categories in a table of them, or the usual one; a setting for it cannot be
given as a value. -/
def categorizerOf (options : Entries) (categories : Value) : Categorizer :=
  match categories, options.field? "categorize" with
  | .map entries, _ => fun name => categoryOf ((Entries.field? entries name).getD .null)
  | _, some v => fun _ => .error (.categories v)
  | _, none => fun name => .ok (inferCategory name)

/-- The catalog index of what is handed in under settings; they are read after the bundles. -/
def publishUnder (options : Entries) (categories : Value) (submissions : List Submission) :
    Except Fault CatalogIndex := do
  checkSettings options
  let bundles ← acceptAll submissions
  let root ← match (options.field? "plugin_root").getD (.str "./plugins") with
    | .str s => .ok s
    | v => .error (.root v)
  let entries ← entries root (categorizerOf options categories) bundles
  let settings ← (Settings.ofValue (.map options)).mapError .record
  return indexOf settings entries

end Publish

end AgentBundles
