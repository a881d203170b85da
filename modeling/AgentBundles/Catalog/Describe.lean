import AgentBundles.Record.Rule
import AgentBundles.Selection.Validation

/-!
# Catalogs as values

What a catalog holds and what is found with it, with all fields.
-/

namespace AgentBundles

open Value (ofFields ofStrings ofText? ofTable)

/-- A skill as a value. -/
def Skill.toValue (s : Skill) : Value :=
  ofFields [("id", .str s.id), ("slug", .str s.slug), ("name", .str s.name),
    ("description", .str s.description), ("category", .str s.category),
    ("exclusive", .bool s.exclusive), ("author", .str s.author),
    ("tags", ofStrings s.tags), ("usage_guidance", ofText? s.usageGuidance),
    ("content", .str s.content), ("resources", ofTable .str s.resources)]

/-- A category as a value. -/
def Category.toValue (c : Category) : Value :=
  ofFields [("id", .str c.id), ("name", .str c.name), ("description", .str c.description),
    ("parent", ofText? c.parent), ("exclusive", .bool c.exclusive), ("required", .bool c.required),
    ("order", .int c.order)]

/-- A suggested stack as a value. -/
def SuggestedStack.toValue (s : SuggestedStack) : Value :=
  ofFields [("id", .str s.id), ("name", .str s.name), ("description", .str s.description),
    ("audience", ofStrings s.audience), ("skills", ofTable (ofTable .str) s.skills),
    ("skill_ids", ofStrings s.skillIds), ("philosophy", .str s.philosophy)]

/-- A finding as a value. -/
def Finding.toValue (f : Finding) : Value :=
  ofFields [("kind", .str f.kind.name), ("severity", .str f.severity.name),
    ("message", .str f.message), ("skills", ofStrings f.skills)]

/-- A hint as a value. -/
def Hint.toValue (h : Hint) : Value :=
    ofFields [("status", .str h.status.name), ("reason", .str h.reason)]

/-- How a skill stands, as a value. -/
def Availability.toValue (a : Availability) : Value :=
  ofFields [("skill_id", .str a.skill), ("category", .str a.category),
    ("status", .str a.status.name), ("reason", .str a.reason), ("selected", .bool a.selected),
    ("alternatives", ofStrings a.alternatives)]

end AgentBundles
