import AgentBundles.Compile.Agent
import AgentBundles.Selection.Validation

/-!
# Asking a catalog

A catalog may be asked about any value. A text names something or nothing, another value that can be
a key names nothing, and the rest may not be asked about.
-/

namespace AgentBundles

/-- What a function makes of a text, or something else for another value that can be a key. -/
def onText {α : Type} (v : Value) (other : α) (f : String → α) : Except SelectionFault α :=
  match v with
  | .str s => .ok (f s)
  | v => if v.isKey then .ok other else .error (.noKey v)

/-- What there is under a value. -/
def require {α : Type} (v : Value) (find? : String → Option α) : Except SelectionFault α := do
  let some a ← onText v none find? | throw (.missing v)
  return a

/-- The status that a value names. -/
def Status.ofValue (v : Value) : Except SelectionFault Status :=
  match v with
  | .str s => ((Status.ofName? s).map Except.ok).getD (.error (.status v))
  | v => .error (.status v)

namespace Catalog

variable (c : Catalog)

/-- The identifier that a value stands for. -/
def resolveValue (v : Value) : Except SelectionFault Value := onText v v fun s => .str (c.resolve s)

/-- The skill with an identifier or short name. -/
def skillUnder (v : Value) : Except SelectionFault Skill := do
  require (← c.resolveValue v) c.find?

/-- The suggested stack with an identifier. -/
def stackUnder (v : Value) : Except SelectionFault SuggestedStack := require v c.stack?

/-- A category and the categories above it. -/
def lineageOf (v : Value) : Except SelectionFault (List Value) :=
    onText v [v] fun s => (c.lineage s).map .str

/-- Whether a skill conflicts with one of the parts of a value. -/
def conflictsWithPart (v selected : Value) : Except SelectionFault Bool := do
  let some parts := selected.parts? | throw (.noParts selected)
  let present ← keys parts
  onText v false fun s => c.conflictsWithAny s (textsOf present)

/-- Judges a selection of values by every rule. -/
def validateValues (s : Selection Value) : Except SelectionFault SelectionResult :=
    s.identifiers.map c.validate

/-- How every skill stands beside a selection of values. -/
def availabilityBeside (s : Selection Value) : List Availability := c.availability s.texts

end Catalog

/-- How the skill with an identifier stands. -/
def Availability.under (entries : List Availability) (v : Value) :
    Except SelectionFault Availability :=
  require v fun id => entries.find? fun a => a.skill == id

/-- The selected values that concern an agent. -/
def Routing.relevantValues (r : Routing) (c : Catalog) (agent : Value) (s : Selection Value) :
    Except SelectionFault (List Value) := do
  let some categories ← onText agent none r.get? | return s.ids
  s.ids.filterM fun id => (c.skillUnder id).map fun skill => covers c categories skill.category

end AgentBundles
