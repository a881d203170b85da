import AgentBundles.Rule.Judgement
import AgentBundles.Selection.Basic

/-!
# Judging beside values

A rule may be asked about any value in place of a selection. Some rules go through the parts of the
value, and some ask what is in it; in a text its characters are the parts, and all pieces of it are
in it.
-/

namespace AgentBundles

/-- How a rule looks at what is selected. -/
inductive Look where
  | not
  /-- It goes through the parts. -/
  | through
  /-- It asks whether something is there. -/
  | inside
  deriving DecidableEq, Repr

namespace Rule

/-- How a rule looks at what is selected to find something. -/
def look : Rule → Look
  | .requires _ _ _ _ => .inside
  | .recommends _ _ _ => .inside
  | .setupFor _ _ => .inside
  | .alternatives _ _ => .not
  | _ => .through

/-- How a rule looks at what is selected to give a hint about a skill. -/
def hintLook (id : Value) (r : Rule) : Look :=
  let among (skills : List String) : Look :=
    match id with
    | .str s => if skills.contains s then .through else .not
    | _ => .not
  match r with
  | .conflicts skills _ => among skills
  | .discourages skills _ => among skills
  | .exclusiveCategory _ skills => among skills
  | .recommends _ _ _ => .inside
  | _ => .not

/-- The identifiers that a rule sees in a value. -/
def seen (r : Rule) (look : Look) (selected : Value) : Except SelectionFault (List String) :=
  match look, selected, selected.parts? with
  | .not, _, _ => .ok []
  | .inside, .str s, _ => .ok (r.references.filter fun id => Text.hasPiece id.toList s.toList)
  | _, _, some parts => .ok (textsOf parts)
  | .through, v, none => .error (.noParts v)
  | .inside, v, none => .error (.noMembers v)

/-- The findings of a rule about a value. -/
def findingsBeside (c : Catalog) (selected : Value) (r : Rule) :
    Except SelectionFault (List Finding) := do
  let ids ← r.seen r.look selected
  match r with
  | .recommends skill suggest reason =>
    if ids.contains skill && suggest.any fun s => !ids.contains s then
      let present ← keys ((selected.parts?).getD [])
      return missingSuggestions c ids (textsOf present) skill suggest reason
    else
      return []
  | r => return r.findings c ids

/-- The hint of a rule about a skill beside a value. -/
def hintBeside (id : Value) (selected : Value) (r : Rule) :
    Except SelectionFault (Option Hint) := do
  let ids ← r.seen (r.hintLook id) selected
  match id with
  | .str s => return r.hint? s ids
  | _ => return none

end Rule

end AgentBundles
