import AgentBundles.Schema.Basic

/-!
# The schemas of bundle documents

The schemas of manifests, of the headers of skills and agents, of hooks, and of catalog indexes.
-/

namespace AgentBundles.Schema

/-- Any text. -/
def anyText : Schema := .text []

/-- A text that is not empty. -/
def someText : Schema := .text [.notEmpty]

/-- A list of texts. -/
def texts : Schema := .list false anyText

/-- A text, or a list of texts. -/
def textOrTexts : Schema := .anyOf [anyText, texts]

/-- A path that begins with `./`, with a note. -/
def relativePath (note : String) : Schema := .noted note (.text [.relativePath])

/-- The schema of manifests. -/
def plugin : DocumentSchema where
  name := "plugin"
  title := "Plugin manifest"
  description := "Contents of .claude-plugin/plugin.json"
  definitions := []
  schema := .record ["name"]
    [("name", .noted "Plugin identifier (kebab-case)" someText),
     ("version", .noted "Semantic version" anyText),
     ("description", anyText),
     ("author",
       .record ["name"] [("name", someText), ("email", anyText), ("url", anyText)] .forbidden),
     ("license", anyText),
     ("homepage", anyText),
     ("repository", anyText),
     ("keywords", texts),
     ("skills", relativePath "Relative path to the skills directory"),
     ("agents", relativePath "Relative path to the agents directory"),
     ("hooks", relativePath "Relative path to the hooks configuration file")]
    .allowed

/-- The schema of the headers of skills. -/
def skillHeader : DocumentSchema where
  name := "skill-frontmatter"
  title := "Skill header"
  description := "YAML header block of a SKILL.md document"
  definitions := []
  schema := .record ["name", "description"]
    [("name", someText),
     ("description", someText),
     ("license", anyText),
     ("allowed-tools", anyText),
     ("metadata", .record [] [] .unmentioned)]
    .allowed

/-- How an agent may ask for permission. -/
def permissionModes : List String :=
    ["default", "acceptEdits", "bypassPermissions", "plan", "dontAsk"]

/-- The schema of the headers of agents. -/
def agentHeader : DocumentSchema where
  name := "agent-frontmatter"
  title := "Agent header"
  description := "YAML header block of a compiled agent document"
  definitions := []
  schema := .record ["name", "description"]
    [("name", someText),
     ("description", someText),
     ("tools", textOrTexts),
     ("disallowedTools", textOrTexts),
     ("model", anyText),
     ("permissionMode", .text [.oneOf permissionModes]),
     ("skills", textOrTexts),
     ("color", anyText)]
    .forbidden

/-- What a hook does. -/
def action : Schema :=
  .record ["type"]
    [("type", .text [.oneOf ["command", "prompt"]]), ("command", anyText), ("prompt", anyText),
     ("timeout", .quantity)]
    .unmentioned

/-- The hooks of one event that apply to what a pattern matches. -/
def matcher : Schema :=
  .record ["hooks"] [("matcher", anyText), ("hooks", .list true (.definition "action" action))]
    .unmentioned

/-- The schema of hooks. -/
def hooks : DocumentSchema where
  name := "hooks"
  title := "Hooks configuration"
  description := "Contents of hooks/hooks.json"
  definitions := [("matcher", matcher), ("action", action)]
  schema := .record ["hooks"]
    [("hooks", .dictionary (.list false (.definition "matcher" matcher)))]
    .unmentioned

/-- A place from which a bundle can be fetched. -/
def remoteSource : Schema :=
  .record ["source"]
    [("source", .text [.oneOf ["github", "url"]]), ("repo", anyText), ("url", anyText),
      ("ref", anyText)]
    .unmentioned

/-- An entry of a catalog index. -/
def catalogEntry : Schema :=
  .record ["name", "source"]
    [("name", someText),
     ("source", .exactlyOneOf [someText, .definition "remoteSource" remoteSource]),
     ("description", anyText),
     ("version", anyText),
     ("category", anyText),
     ("keywords", texts),
     ("author", .record ["name"] [("name", anyText), ("email", anyText)] .unmentioned)]
    .unmentioned

/-- The schema of catalog indexes. -/
def marketplace : DocumentSchema where
  name := "marketplace"
  title := "Catalog index"
  description := "Discovery file listing many plugin bundles"
  definitions := [("plugin", catalogEntry), ("remoteSource", remoteSource)]
  schema := .record ["name", "owner", "plugins"]
    [("$schema", anyText),
     ("name", someText),
     ("version", anyText),
     ("description", anyText),
     ("owner", .record ["name"] [("name", someText), ("email", anyText)] .unmentioned),
     ("metadata", .record [] [("pluginRoot", anyText)] .unmentioned),
     ("plugins", .list false (.definition "plugin" catalogEntry))]
    .unmentioned

/-- All schemas. -/
def all : List DocumentSchema := [plugin, skillHeader, agentHeader, hooks, marketplace]

/-- The schema with a name. -/
def named? (name : String) : Option DocumentSchema := all.find? fun d => d.name == name

end AgentBundles.Schema
