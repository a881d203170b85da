import AgentBundles.Record.Decode
import AgentBundles.Rule.Basic

/-!
# Rule records

A rule as a record: its field `kind` says which rule it is, and the other fields are its parts.
Defects in the parts are placed under the kind.
-/

namespace AgentBundles

namespace Record

/-- Reads a match mode. -/
def matchMode : Decoder MatchMode
  | .str "all" => .done .all
  | .str "any" => .done .any
  | _ => .defect .member

/-- Reads the parts of a rule of a kind, if there is such a kind. -/
def rulePart? (kind : String) (es : Value) : Option (Decoded Rule) :=
  let skills := required es "skills" (tuple string)
  let reason := withDefault es "reason" "" string
  let category := required es "category" string
  match kind with
  | "conflicts" => some (Rule.conflicts <$> skills <*> reason)
  | "discourages" => some (Rule.discourages <$> skills <*> reason)
  | "requires" =>
    some (Rule.requires <$> required es "skill" string <*> required es "needs" (tuple string)
      <*> withDefault es "match" .all matchMode <*> reason)
  | "recommends" =>
    some (Rule.recommends <$> required es "when" string <*> required es "suggest" (tuple string)
      <*> reason)
  | "alternatives" => some (Rule.alternatives <$> required es "purpose" string <*> skills)
  | "exclusive_category" => some (Rule.exclusiveCategory <$> category <*> skills)
  | "required_category" => some (Rule.requiredCategory <$> category <*> skills)
  | "setup_for" =>
    some (Rule.setupFor <$> required es "setup" string <*> required es "usage" (tuple string))
  | _ => none

/-- Reads a rule. -/
def rule (v : Value) : Decoded Rule :=
  match v, v.field? "kind" with
  | .map _, none => .defect .tag
  | .map _, some (.str kind) =>
    match rulePart? kind v with
    | some d => d.under kind
    | none => .defect .knownTag
  | .map _, some _ => .defect .knownTag
  | _, _ => .defect .tagged

/-- The rule that a value holds. -/
def ruleOfValue (v : Value) : Except Fault Rule := (rule v).toExcept "tagged-union"

end Record

/-! ### Writing -/

/-- The name of a match mode. -/
def MatchMode.name : MatchMode → String
  | .all => "all"
  | .any => "any"

namespace Rule

/-- The name of the kind of a rule. -/
def kindName : Rule → String
  | .conflicts _ _ => "conflicts"
  | .discourages _ _ => "discourages"
  | .requires _ _ _ _ => "requires"
  | .recommends _ _ _ => "recommends"
  | .alternatives _ _ => "alternatives"
  | .exclusiveCategory _ _ => "exclusive_category"
  | .requiredCategory _ _ => "required_category"
  | .setupFor _ _ => "setup_for"

/-- The fields of a rule besides its kind. -/
def fields : Rule → List (String × Value)
  | .conflicts skills reason => [("skills", .ofStrings skills), ("reason", .str reason)]
  | .discourages skills reason => [("skills", .ofStrings skills), ("reason", .str reason)]
  | .requires skill needs mode reason =>
    [("skill", .str skill), ("needs", .ofStrings needs), ("match", .str mode.name),
      ("reason", .str reason)]
  | .recommends skill suggest reason =>
    [("when", .str skill), ("suggest", .ofStrings suggest), ("reason", .str reason)]
  | .alternatives purpose skills => [("purpose", .str purpose), ("skills", .ofStrings skills)]
  | .exclusiveCategory category skills => [("category", .str category),
      ("skills", .ofStrings skills)]
  | .requiredCategory category skills => [("category", .str category),
      ("skills", .ofStrings skills)]
  | .setupFor setup usage => [("setup", .str setup), ("usage", .ofStrings usage)]

/-- A rule as a record. -/
def toValue (r : Rule) : Value := Value.ofFields (("kind", .str r.kindName) :: r.fields)

end Rule

end AgentBundles
