import AgentBundles.Skill
import AgentBundles.Rule.Basic

/-!
# Catalogs

A catalog holds skills, categories, rules, short names and suggested stacks, and answers questions
about them. Skills and rules keep the order in which they were loaded.
-/

namespace AgentBundles

/-- A category of skills. -/
structure Category where
  id : String
  name : String
  description : String
  parent : Option String
  exclusive : Bool
  required : Bool
  order : Int
  deriving DecidableEq, Repr

/-- A suggested choice of skills, with every short name resolved. -/
structure SuggestedStack where
  id : String
  name : String
  description : String
  audience : List String
  skills : Table (Table String)
  skillIds : List String
  philosophy : String
  deriving DecidableEq, Repr

/-- A catalog. -/
structure Catalog where
  version : String
  skills : List Skill
  categories : Table Category
  rules : List Rule
  aliases : Table String
  suggestedStacks : Table SuggestedStack
  deriving DecidableEq, Repr

namespace Catalog

variable (c : Catalog)

/-- The skill with an identifier. -/
def find? (id : String) : Option Skill := c.skills.find? fun s => s.id == id

/-- Whether a skill has an identifier. -/
def contains (id : String) : Bool := c.skills.any fun s => s.id == id

/-- The identifier that a short name stands for; other texts stand for themselves. -/
def resolve (name : String) : String := (c.aliases.get? name).getD name

/-- The skill with an identifier or short name. -/
def skill? (name : String) : Option Skill := c.find? (c.resolve name)

/-- The last short name for an identifier. -/
def aliasOf? (id : String) : Option String :=
  (c.aliases.reverse.find? fun e => e.2 == id).map (·.1)

/-- The identifiers of the skills of a category. -/
def skillsInCategory (category : String) : List String :=
  (c.skills.filter fun s => s.category == category).map (·.id)

/-- The order of categories by number and then by identifier. -/
def categoryLe (a b : Category) : Bool :=
  a.order < b.order || (a.order == b.order && Text.le a.id b.id)

/-- The categories in their order. -/
def sortedCategories : List Category := c.categories.values.mergeSort categoryLe

/-- The parent of a category, if the category is defined and its parent has a name. -/
def parent? (category : String) : Option String :=
  ((c.categories.get? category).bind (·.parent)).filter fun p => !p.isEmpty

/-- The categories above one in a chain that holds `seen` so far, up to the first one that occurs
again. Each step adds a parent of a defined category, so there are no more steps than categories. -/
def ancestors (seen : List String) (category : String) : Nat → List String
  | 0 => seen
  | fuel + 1 =>
    match c.parent? category with
    | some p => if seen.contains p then seen else ancestors (seen ++ [p]) p fuel
    | none => seen

/-- A category and the categories above it. -/
def lineage (category : String) : List String :=
  c.ancestors [category] category (c.categories.length + 1)

/-- Whether at most one skill of a category may be selected. A category without a definition is
exclusive if one of its skills says so. -/
def isExclusive (category : String) : Bool :=
  match c.categories.get? category with
  | some k => k.exclusive
  | none => c.skills.any fun s => s.category == category && s.exclusive

/-- An index with a rule added under each skill that it mentions. -/
def indexRule (index : Table (List Rule)) (r : Rule) : Table (List Rule) :=
  (Text.distinct r.references).foldl (fun index id => index.push id r) index

/-- The rules under the skills that they mention, in their order. -/
def ruleIndex : Table (List Rule) := c.rules.foldl indexRule []

/-- The rules that mention a skill. -/
def rulesFor (name : String) : List Rule := (c.ruleIndex.get? (c.resolve name)).getD []

/-- The skills of a group of alternatives other than one, after those found before, each once. -/
def addAlternatives (name : String) (found : List String) : Rule → List String
  | .alternatives _ skills =>
    skills.foldl (fun found s => if s == name || found.contains s then found
      else found ++ [s]) found
  | _ => found

/-- The skills that serve the same purpose as one. -/
def alternativesFor (name : String) : List String :=
  (c.rulesFor name).foldl (addAlternatives name) []

/-- Whether a rule has a skill conflict with one of a selection. -/
def conflictsByRule (name : String) (selected : List String) : Rule → Bool
  | .conflicts skills _ => skills.any fun s => s != name && selected.contains s
  | _ => false

/-- Whether a skill conflicts with one of a selection. -/
def conflictsWithAny (name : String) (selected : List String) : Bool :=
  (c.rulesFor name).any (conflictsByRule name selected)

/-- The suggested stack with an identifier. -/
def stack? (id : String) : Option SuggestedStack := c.suggestedStacks.get? id

/-- A catalog by its numbers of skills and rules. -/
def summary : String :=
  "Catalog(" ++ natText c.skills.length ++ " skills, " ++ natText c.rules.length ++ " rules)"

end Catalog

end AgentBundles
