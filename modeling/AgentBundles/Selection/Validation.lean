import AgentBundles.Rule.Judgement
import AgentBundles.Selection.Basic

/-!
# Judged selections

A selection is judged by every rule of a catalog; all findings are collected. Only a selection
without errors becomes a validated one, which bundles are compiled from.

Beside a selection each skill of a catalog has a status. Of the hints that rules give, a disabling
one wins over a discouraging one, and that over a recommendation; of equals the first one counts.
-/

namespace AgentBundles

/-! ### Validating a selection -/

/-- A selection that passed validation, with the warnings found on the way. -/
structure ValidatedSelection where
  selection : Selection String
  warnings : List Finding
  deriving DecidableEq, Repr

/-- What came of validating a selection: the selection with short names resolved, and the
findings. -/
structure SelectionResult where
  selection : Selection String
  errors : List Finding
  warnings : List Finding
  deriving DecidableEq, Repr

namespace SelectionResult

/-- Whether there are no errors. -/
def ok (r : SelectionResult) : Bool := r.errors.isEmpty

/-- The validated selection, if there are no errors. -/
def validated? (r : SelectionResult) : Option ValidatedSelection :=
  if r.ok then some ⟨r.selection, r.warnings⟩ else none

end SelectionResult

namespace Catalog

variable (c : Catalog)

/-- A selection with short names resolved. -/
def resolveSelection (s : Selection String) : Selection String := s.map c.resolve

/-- The finding about an identifier that no skill has. -/
def unknownSkill (id : String) : Finding :=
  ⟨.unknownSkill, "Unknown skill " ++ Text.inQuotes id, [id]⟩

/-- All findings about a selection: on unknown identifiers, then of each rule on the known ones. -/
def findings (s : Selection String) : List Finding :=
  (s.ids.filter fun id => !c.contains id).map unknownSkill ++
    c.rules.flatMap (·.findings c (s.ids.filter c.contains))

/-- Judges a selection by every rule. -/
def validate (s : Selection String) : SelectionResult :=
  let resolved := c.resolveSelection s
  let found := c.findings resolved
  { selection := resolved
    errors := found.filter fun f => f.severity == .error
    warnings := found.filter fun f => f.severity == .warning }

end Catalog

/-! ### Availability -/

/-- How a skill stands beside a selection. -/
structure Availability where
  skill : String
  category : String
  status : Status
  reason : String
  selected : Bool
  alternatives : List String
  deriving DecidableEq, Repr

/-- The hint of least rank, the first one of equals. -/
def bestHint? : List Hint → Option Hint
  | [] => none
  | h :: hs =>
    match bestHint? hs with
    | none => some h
    | some b => if b.status.rank < h.status.rank then some b else some h

namespace Catalog

variable (c : Catalog)

/-- How one skill stands beside a selection whose short names are resolved. -/
def availabilityOf (selected : List String) (s : Skill) : Availability :=
  let best? := bestHint? ((c.rulesFor s.id).filterMap (·.hint? s.id selected))
  { skill := s.id
    category := s.category
    status := (best?.map (·.status)).getD .selectable
    reason := (best?.map (·.reason)).getD ""
    selected := selected.contains s.id
    alternatives := c.alternativesFor s.id }

/-- How every skill stands beside a selection, in the order of the catalog. -/
def availability (s : Selection String) : List Availability :=
  c.skills.map (c.availabilityOf (c.resolveSelection s).ids)

end Catalog

end AgentBundles
