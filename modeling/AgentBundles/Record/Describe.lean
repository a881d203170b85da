import AgentBundles.Record.Matrix
import AgentBundles.Record.Profile
import AgentBundles.Record.Skill
import AgentBundles.Record.Stack

/-!
# Records as values

What records hold, with all of their fields, those that were not given included.
-/

namespace AgentBundles

namespace Record

open Value (ofFields ofStrings ofText? ofTable)

/-! ### Matrices -/

/-- A category as a value. -/
def Category.toValue (c : Category) : Value :=
  ofFields [("id", .str c.id), ("name", .str c.name), ("description", .str c.description),
    ("parent", ofText? c.parent), ("exclusive", .bool c.exclusive), ("required", .bool c.required),
    ("order", .int c.order), ("icon", ofText? c.icon)]

/-- The skills of a relation with a reason as a value. -/
def membersValue (skills : List String) (reason : String) : Value :=
  ofFields [("skills", ofStrings skills), ("reason", .str reason)]

/-- A recommendation as a value. -/
def Recommendation.toValue (r : Recommendation) : Value :=
  ofFields [("when", .str r.skill), ("suggest", ofStrings r.suggest), ("reason", .str r.reason)]

/-- A requirement as a value. -/
def Requirement.toValue (r : Requirement) : Value :=
  ofFields [("skill", .str r.skill), ("needs", ofStrings r.needs), ("needs_any", .bool r.needsAny),
    ("reason", .str r.reason)]

/-- Alternatives as a value. -/
def Alternatives.toValue (a : Alternatives) : Value :=
  ofFields [("purpose", .str a.purpose), ("skills", ofStrings a.skills)]

/-- Relations as a value. -/
def Relations.toValue (r : Relations) : Value :=
  ofFields [("conflicts", .list (r.conflicts.map fun c => membersValue c.skills c.reason)),
    ("discourages", .list (r.discourages.map fun c => membersValue c.skills c.reason)),
    ("recommends", .list (r.recommends.map (·.toValue))),
    ("requires", .list (r.requires.map (·.toValue))),
    ("alternatives", .list (r.alternatives.map (·.toValue)))]

/-- A suggested stack as a value. -/
def SuggestedStack.toValue (s : SuggestedStack) : Value :=
  ofFields [("id", .str s.id), ("name", .str s.name), ("description", .str s.description),
    ("audience", ofStrings s.audience), ("skills", ofTable (ofTable .str) s.skills),
    ("philosophy", .str s.philosophy)]

/-- A matrix as a value. -/
def Matrix.toValue (m : Matrix) : Value :=
  ofFields [("version", .str m.version), ("categories", ofTable Category.toValue m.categories),
    ("relationships", m.relations.toValue),
    ("suggested_stacks", .list (m.suggestedStacks.map (·.toValue))),
    ("skill_aliases", ofTable .str m.aliases)]

/-! ### Skills -/

/-- The version of a skill as a value. -/
def SkillVersion.toValue : SkillVersion → Value
  | .text s => .str s
  | .number n => .int n

/-- What is said of a skill as a value. -/
def Metadata.toValue (m : Metadata) : Value :=
  ofFields [("category", .str m.category), ("category_exclusive", .bool m.exclusive),
    ("author", .str m.author), ("version", (m.version.map (·.toValue)).getD .null),
    ("cli_name", ofText? m.shortName), ("cli_description", ofText? m.shortDescription),
    ("usage_guidance", ofText? m.usageGuidance), ("tags", ofStrings m.tags),
    ("compatible_with", ofStrings m.compatibleWith), ("conflicts_with", ofStrings m.conflictsWith),
    ("requires", ofStrings m.requires), ("requires_setup", ofStrings m.requiresSetup),
    ("provides_setup_for", ofStrings m.providesSetupFor)]

/-- A skill as a value. -/
def Skill.toValue (s : Skill) : Value :=
  ofFields [("id", .str s.id), ("description", .str s.description), ("content", .str s.content),
    ("metadata", s.metadata.toValue), ("resources", ofTable .str s.resources),
    ("path", .str s.path)]

/-! ### Profiles and stacks -/

/-- The fields of a profile as values. -/
def Profile.fields (p : Profile) : List (String × Value) :=
  [("description", .str p.description), ("template", .str p.template),
    ("partials", ofStrings p.partials), ("ending_partials", ofStrings p.endingPartials),
    ("preloaded_skills", ofStrings p.preloadedSkills), ("tools", ofStrings p.tools),
    ("disallowed_tools", ofStrings p.disallowedTools), ("model", ofText? p.model),
    ("permission_mode", ofText? p.permissionMode)]

/-- A profile as a value. -/
def Profile.toValue (p : Profile) : Value := ofFields p.fields

/-- A stack as a value. -/
def Stack.toValue (s : Stack) : Value :=
  ofFields [("name", .str s.name), ("version", .str s.version), ("author", ofText? s.author),
    ("author_email", ofText? s.authorEmail), ("description", ofText? s.description),
    ("skills", ofStrings s.skills), ("agents", ofStrings s.agents),
    ("routing", ofTable ofStrings s.routing), ("hooks", ofTable .list s.hooks),
    ("tags", ofStrings s.tags), ("philosophy", ofText? s.philosophy),
    ("principles", ofStrings s.principles)]

end Record

/-- A named profile as a value, with the identifiers of the templates that it needs. -/
def AgentProfile.toValue (p : AgentProfile) : Value :=
  Value.ofFields
    (("name", .str p.name) :: ("template_ids", Value.ofStrings p.templateIds) :: p.settings.fields)

end AgentBundles
