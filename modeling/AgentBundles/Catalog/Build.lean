import AgentBundles.Catalog.Basic
import AgentBundles.Data.FaultKind
import AgentBundles.Record.Matrix

/-!
# Building a catalog

`Catalog.build` makes a catalog of a matrix and skill records. Short names in rules are resolved,
the relations in the metadata of skills become rules, and categories become rules too. Nothing is
built if an identifier occurs twice or gives no slug, or if something refers to a skill that is not
there; all such references are reported.
-/

namespace AgentBundles

/-- A reference to a skill that is not there: where it stands, and the identifier. -/
abbrev Reference := String × String

/-- Why no catalog can be built. -/
inductive CatalogFault where
  | duplicate (id : String)
  | unnamable (id slug : String)
  | dangling (references : List Reference)
  deriving DecidableEq, Repr

/-- The kind of a fault. -/
def CatalogFault.kind : CatalogFault → FaultKind
  | .duplicate _ => .duplicate
  | .unnamable _ _ => .catalog
  | .dangling _ => .reference

/-- What a message says of a catalog that cannot be built. -/
def CatalogFault.message : CatalogFault → String
  | .duplicate id => "Duplicate skill identifier " ++ Text.inQuotes id
  | .unnamable id slug =>
    "Skill identifier " ++ Text.inQuotes id ++ " has no kebab-case output name (got " ++
      Text.inQuotes slug ++ ")"
  | .dangling references =>
    "Unknown skill references:\n" ++
      Text.join "\n" (references.map fun r => "  - " ++ r.1 ++ ": " ++ Text.inQuotes r.2)

namespace Catalog

/-- The first record that repeats an identifier or gives no slug. -/
def firstFault? (seen : List String) : List Record.Skill → Option CatalogFault
  | [] => none
  | r :: rest =>
    if seen.contains r.id then some (.duplicate r.id)
    else
      let slug := Slug.ofId r.id
      if Slug.isKebabName slug then firstFault? (r.id :: seen) rest else some (.unnamable r.id slug)

/-! ### Rules of the matrix and of metadata -/

/-- The place of the relation with a number in a list of the matrix. -/
def relationPlace (list : String) (i : Nat) : String :=
  "relationships." ++ list ++ "[" ++ natText i ++ "]"

/-- The relations of a list of the matrix as rules, with their places. -/
def numberedRules {α : Type} (list : String) (rule : α → Rule) (xs : List α) :
    List (String × Rule) :=
  xs.zipIdx.map fun x => (relationPlace list x.2, rule x.1)

/-- The rules of a matrix with their places. -/
def matrixRules (resolve : String → String) (m : Record.Relations) : List (String × Rule) :=
  numberedRules "conflicts" (fun r => .conflicts (r.skills.map resolve) r.reason) m.conflicts ++
  numberedRules "discourages" (fun r => .discourages (r.skills.map resolve) r.reason)
    m.discourages ++
  numberedRules "requires" (fun r => .requires (resolve r.skill) (r.needs.map resolve)
    (if r.needsAny then .any else .all) r.reason) m.requires ++
  numberedRules "recommends"
    (fun r => .recommends (resolve r.skill) (r.suggest.map resolve) r.reason) m.recommends ++
  numberedRules "alternatives" (fun r => .alternatives r.purpose (r.skills.map resolve))
    m.alternatives

/-- The place of what the metadata of a skill say. -/
def metadataPlace (r : Record.Skill) : String :=
  "skill " ++ Text.inQuotes r.id ++ " metadata"

/-- The reason for rules that stem from metadata. -/
def metadataReason : String := "Defined in skill metadata"

/-- A rule about a list of skills, unless the list is empty. -/
def unlessEmpty (resolve : String → String) (ids : List String) (rule : List String → Rule) :
    List Rule :=
  if ids.isEmpty then [] else [rule (ids.map resolve)]

/-- The rules in the metadata of a skill. -/
def metadataRules (resolve : String → String) (r : Record.Skill) : List Rule :=
  let m := r.metadata
  m.conflictsWith.map (fun other => .conflicts [r.id, resolve other] metadataReason) ++
  unlessEmpty resolve m.requires (fun ids => .requires r.id ids .all metadataReason) ++
  unlessEmpty resolve m.compatibleWith
    (fun ids => .recommends r.id ids "Compatible with this skill") ++
  unlessEmpty resolve m.providesSetupFor (.setupFor r.id)

/-! ### References -/

/-- The references at a place to skills that are not there. -/
def missingAt (known : List String) (place : String) (ids : List String) : List Reference :=
  (ids.filter fun id => !known.contains id).map fun id => (place, id)

/-- The references in a rule to skills that are not there. -/
def missingInRule (known : List String) (r : String × Rule) : List Reference :=
  missingAt known r.1 r.2.references

/-- The references in the metadata of a skill to skills that are not there. -/
def missingInMetadata (known : List String) (resolve : String → String) (r : Record.Skill) :
    List Reference :=
  (metadataRules resolve r).flatMap (fun rule => missingInRule known (metadataPlace r, rule)) ++
    missingAt known (metadataPlace r) (r.metadata.requiresSetup.map resolve)

/-- A suggested stack with its short names resolved. -/
def resolveStack (resolve : String → String) (s : Record.SuggestedStack) : SuggestedStack :=
  let skills := s.skills.mapValues fun t => t.mapValues resolve
  { id := s.id
    name := s.name
    description := s.description
    audience := s.audience
    skills := skills
    skillIds := Text.distinct (skills.values.flatMap Table.values)
    philosophy := s.philosophy }

/-- The references in a suggested stack to skills that are not there. -/
def missingInStack (known : List String) (s : SuggestedStack) : List Reference :=
  missingAt known ("suggested stack " ++ Text.inQuotes s.id) s.skillIds

/-- All references to skills that are not there, each once. -/
def missingReferences (resolve : String → String) (m : Record.Matrix) (skills : List Record.Skill) :
    List Reference :=
  let known := skills.map (·.id)
  Text.distinct
    ((matrixRules resolve m.relations).flatMap (missingInRule known) ++
      skills.flatMap (missingInMetadata known resolve) ++
      (m.suggestedStacks.map (resolveStack resolve)).flatMap (missingInStack known))

/-! ### Symmetric rules -/

/-- The kinds of rules that hold between any two of their skills. -/
inductive SymmetricKind where
  | conflicts
  | discourages
  deriving DecidableEq, Repr

/-- The kind and the skills of a symmetric rule. -/
def symmetric? : Rule → Option (SymmetricKind × List String)
  | .conflicts skills _ => some (.conflicts, skills)
  | .discourages skills _ => some (.discourages, skills)
  | _ => none

/-- Whether all of some skills are among others. -/
def isSubset (xs ys : List String) : Bool := xs.all ys.contains

/-- Whether a rule is covered by another that comes before it or after it: the other is of the same
kind and has all its skills, and either more, or it comes before. -/
def isCoveredBy (before : Bool) (rule other : Rule) : Bool :=
  match symmetric? rule, symmetric? other with
  | some (k, xs), some (l, ys) => k == l && isSubset xs ys && (before || !isSubset ys xs)
  | _, _ => false

/-- The rules that are not covered, after the rules `earlier`. -/
def dropCoveredAfter (earlier : List Rule) : List Rule → List Rule
  | [] => []
  | r :: rest =>
    let kept := dropCoveredAfter (earlier ++ [r]) rest
    if earlier.any (isCoveredBy true r) || rest.any (isCoveredBy false r) then kept else r :: kept

/-- The rules without the symmetric ones that another one covers. -/
def dropCovered (rules : List Rule) : List Rule := dropCoveredAfter [] rules

/-! ### Categories -/

/-- The category that a definition describes. -/
def categoryOfRecord (r : Record.Category) : Category :=
  ⟨r.id, r.name, r.description, r.parent, r.exclusive, r.required, r.order⟩

/-- The skills of a category. -/
def members (skills : List Skill) (category : String) : List String :=
  (skills.filter fun s => s.category == category).map (·.id)

/-- Whether a category is exclusive, by its definition or else by its skills. -/
def exclusiveIn (skills : List Skill) (categories : Table Category) (category : String) : Bool :=
  match categories.get? category with
  | some k => k.exclusive
  | none => skills.any fun s => s.category == category && s.exclusive

/-- The rules that categories make: for the exclusive ones with more than one skill in the order of
their first skills, then for the required ones. -/
def categoryRules (skills : List Skill) (categories : Table Category) : List Rule :=
  ((Text.distinct (skills.map (·.category))).filter fun k =>
      exclusiveIn skills categories k && 1 < (members skills k).length).map
    (fun k => .exclusiveCategory k (members skills k)) ++
  (categories.filter fun e => e.2.required).map fun e => .requiredCategory e.1 (members skills e.1)

/-- The catalog of a matrix and skill records. -/
def build (m : Record.Matrix) (records : List Record.Skill) : Except CatalogFault Catalog :=
  let resolve (name : String) : String := (m.aliases.get? name).getD name
  match firstFault? [] records with
  | some e => .error e
  | none =>
    match missingReferences resolve m records with
    | r :: rs => .error (.dangling (r :: rs))
    | [] =>
      let skills := records.map Skill.ofRecord
      let categories := m.categories.mapValues categoryOfRecord
      let rules :=
        (matrixRules resolve m.relations).map (·.2) ++ records.flatMap (metadataRules resolve)
      let suggested := m.suggestedStacks.map (resolveStack resolve)
      .ok
        { version := m.version
          skills := skills
          categories := categories
          rules := dropCovered rules ++ categoryRules skills categories
          aliases := m.aliases
          suggestedStacks := Table.ofList (suggested.map fun s => (s.id, s)) }

end Catalog

end AgentBundles
