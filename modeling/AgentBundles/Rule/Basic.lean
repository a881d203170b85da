import AgentBundles.Text.Split

/-!
# Rules

The relations between skills that a selection is judged by.
-/

namespace AgentBundles

/-- Whether all of the needed skills have to be there, or any one of them. -/
inductive MatchMode where
  | all
  | any
  deriving DecidableEq, Repr

/-- A relation between skills. -/
inductive Rule where
  /-- No two of the skills go together. -/
  | conflicts (skills : List String) (reason : String)
  /-- Two of the skills had better not go together. -/
  | discourages (skills : List String) (reason : String)
  /-- A skill needs others. -/
  | requires (skill : String) (needs : List String) (mode : MatchMode) (reason : String)
  /-- A skill goes well with others. -/
  | recommends (skill : String) (suggest : List String) (reason : String)
  /-- The skills serve one purpose. -/
  | alternatives (purpose : String) (skills : List String)
  /-- At most one of the skills of a category may be selected. -/
  | exclusiveCategory (category : String) (skills : List String)
  /-- At least one of the skills of a category has to be selected. -/
  | requiredCategory (category : String) (skills : List String)
  /-- A skill prepares for others and is of little use alone. -/
  | setupFor (setup : String) (usage : List String)
  deriving DecidableEq, Repr

namespace Rule

/-- The skills that a rule mentions. -/
def references : Rule → List String
  | .conflicts skills _ => skills
  | .discourages skills _ => skills
  | .requires skill needs _ _ => skill :: needs
  | .recommends skill suggest _ => skill :: suggest
  | .alternatives _ skills => skills
  | .exclusiveCategory _ skills => skills
  | .requiredCategory _ skills => skills
  | .setupFor setup usage => setup :: usage

/-- Whether a rule mentions a skill. -/
def mentions (r : Rule) (id : String) : Bool := r.references.contains id

end Rule

end AgentBundles
