import AgentBundles.Catalog.Basic

/-!
# Judging a selection by rules

A rule's findings about a whole selection, and its hint about a single skill beside a selection.
-/

namespace AgentBundles

/-- How grave a finding is. -/
inductive Severity where
  | error
  | warning
  deriving DecidableEq, Repr

/-- The name of a severity. -/
def Severity.name : Severity → String
  | .error => "error"
  | .warning => "warning"

/-- What kind of thing a finding is about. -/
inductive FindingKind where
  | conflict
  | discouraged
  | missingRequirement
  | missingRecommendation
  | categoryExclusive
  | categoryRequired
  | unusedSetup
  | unknownSkill
  deriving DecidableEq, Repr

namespace FindingKind

/-- The name of a kind. -/
def name : FindingKind → String
  | .conflict => "conflict"
  | .discouraged => "discouraged"
  | .missingRequirement => "missing_requirement"
  | .missingRecommendation => "missing_recommendation"
  | .categoryExclusive => "category_exclusive"
  | .categoryRequired => "category_required"
  | .unusedSetup => "unused_setup"
  | .unknownSkill => "unknown_skill"

/-- Advice is a warning; all else is an error. -/
def severity : FindingKind → Severity
  | .discouraged => .warning
  | .missingRecommendation => .warning
  | .unusedSetup => .warning
  | _ => .error

end FindingKind

/-- Something found in a selection, with the skills it is about. -/
structure Finding where
  kind : FindingKind
  message : String
  skills : List String
  deriving DecidableEq, Repr

/-- The severity of a finding. -/
def Finding.severity (f : Finding) : Severity := f.kind.severity

/-- How a skill stands beside a selection. -/
inductive Status where
  | selectable
  | disabled
  | discouraged
  | recommended
  deriving DecidableEq, Repr

namespace Status

/-- The name of a status. -/
def name : Status → String
  | .selectable => "selectable"
  | .disabled => "disabled"
  | .discouraged => "discouraged"
  | .recommended => "recommended"

/-- All statuses. -/
def all : List Status := [.selectable, .disabled, .discouraged, .recommended]

/-- The status with a name. -/
def ofName? (name : String) : Option Status := all.find? fun s => s.name == name

/-- The rank of a status among hints; the least one counts. -/
def rank : Status → Nat
  | .disabled => 0
  | .discouraged => 1
  | .recommended => 2
  | .selectable => 3

end Status

/-- What a rule has to say of a single skill. -/
structure Hint where
  status : Status
  reason : String
  deriving DecidableEq, Repr

/-- A message with a reason, if there is one. -/
def withReason (message reason : String) : String :=
  if reason.isEmpty then message else message ++ ": " ++ reason

/-- A text, or another one if it is empty. -/
def textOr (s fallback : String) : String := if s.isEmpty then fallback else s

/-- The selected ones of some skills. -/
def presentOf (skills selected : List String) : List String :=
  selected.filter skills.contains

/-- The selected ones of some skills other than one. -/
def othersOf (id : String) (skills selected : List String) : List String :=
  selected.filter fun s => skills.contains s && s != id

namespace Rule

/-- The findings about suggestions of a skill: on those that are neither selected nor in conflict
with one of `present`. -/
def missingSuggestions (c : Catalog) (selected present : List String) (skill : String)
    (suggest : List String) (reason : String) : List Finding :=
  (suggest.filter fun s => !(selected.contains s || c.conflictsWithAny s present)).map fun s =>
    ⟨.missingRecommendation, withReason (skill ++ " recommends " ++ s) reason, [skill, s]⟩

/-- The findings of a rule about a selection. -/
def findings (c : Catalog) (selected : List String) : Rule → List Finding
  | .conflicts skills reason =>
    let present := presentOf skills selected
    if present.length < 2 then []
    else [⟨.conflict, withReason (Text.join " conflicts with " present) reason, present⟩]
  | .discourages skills reason =>
    let present := presentOf skills selected
    if present.length < 2 then []
    else [⟨.discouraged, withReason (Text.join " with " present ++ " is discouraged") reason,
      present⟩]
  | .requires skill needs mode reason =>
    if !selected.contains skill then []
    else
      match mode with
      | .any =>
        if needs.any selected.contains then []
        else [⟨.missingRequirement,
          withReason (skill ++ " requires " ++ Text.join " or " needs) reason, skill :: needs⟩]
      | .all =>
        let missing := needs.filter fun n => !selected.contains n
        if missing.isEmpty then []
        else [⟨.missingRequirement,
          withReason (skill ++ " requires " ++ Text.join ", " missing) reason, skill :: missing⟩]
  | .recommends skill suggest reason =>
    if !selected.contains skill then []
      else missingSuggestions c selected selected skill suggest reason
  | .alternatives _ _ => []
  | .exclusiveCategory category skills =>
    let present := presentOf skills selected
    if present.length ≤ 1 then []
    else [⟨.categoryExclusive,
      "Category " ++ Text.inQuotes category ++
        " only allows one selection, but multiple selected: " ++ Text.join ", " present, present⟩]
  | .requiredCategory category skills =>
    if selected.any skills.contains then []
    else [⟨.categoryRequired,
      "Category " ++ Text.inQuotes category ++ " requires a selection" ++
        (if skills.isEmpty then "" else " (one of: " ++ Text.join ", " skills ++ ")"), skills⟩]
  | .setupFor setup usage =>
    if !selected.contains setup || usage.any selected.contains then []
    else [⟨.unusedSetup,
      "Setup skill " ++ setup ++ " selected but no corresponding usage skills: " ++
        Text.join ", " usage,
      setup :: usage⟩]

/-- The hint of a rule about a skill beside a selection. -/
def hint? (id : String) (selected : List String) : Rule → Option Hint
  | .conflicts skills reason =>
    if !skills.contains id then none
    else
      (othersOf id skills selected).head?.map fun other =>
        ⟨.disabled, textOr reason "Conflicting skills" ++ " (conflicts with " ++ other ++ ")"⟩
  | .discourages skills reason =>
    if !skills.contains id then none
    else
      (othersOf id skills selected).head?.map fun _ => ⟨.discouraged,
        textOr reason "Not recommended"⟩
  | .recommends skill suggest reason =>
    if selected.contains skill && suggest.contains id && !selected.contains id then
      some ⟨.recommended, textOr reason "Recommended" ++ " (recommended by " ++ skill ++ ")"⟩
    else
      none
  | .exclusiveCategory category skills =>
    if !skills.contains id then none
    else
      (othersOf id skills selected).head?.map fun other =>
        ⟨.disabled, "Category " ++ Text.inQuotes category ++ " allows one selection (" ++ other ++
          " already selected)"⟩
  | _ => none

end Rule

end AgentBundles
