import AgentBundles.Data.FaultKind
import AgentBundles.Record.Decode

/-!
# Selections

A selection is a list of identifiers in the order in which they were chosen, each once. Whoever
selects skills and asks about them hands in values, and not every value is an identifier or a list
of such.
-/

namespace AgentBundles

/-! ### Faults -/

/-- Why a value cannot be selected or asked about. -/
inductive SelectionFault where
  /-- A text is no list of identifiers. -/
  | text
  /-- The value has no parts to go through. -/
  | noParts (v : Value)
  /-- The value has no parts among which something may be. -/
  | noMembers (v : Value)
  /-- The value cannot be a key. -/
  | noKey (v : Value)
  /-- There is nothing under the key. -/
  | missing (key : Value)
  /-- The value is no status. -/
  | status (v : Value)
  /-- A finding is about something that is no identifier. -/
  | finding (f : Record.Fault)
  deriving Repr

namespace SelectionFault

/-- The kind of a fault. -/
def kind : SelectionFault → FaultKind
  | .missing _ => .key
  | .status _ => .value
  | .finding _ => .record
  | _ => .type

/-- What a message says of a value that cannot be selected or asked about. -/
def message : SelectionFault → String
  | .text => "skill_ids must be an iterable of identifiers, not a string"
  | .noParts v => v.noPartsMessage
  | .noMembers v => "argument of type " ++ Text.inQuotes v.kindName ++ " is not iterable"
  | .noKey v => v.noKeyMessage
  | .missing key => key.display
  | .status v => v.display ++ " is not a valid AvailabilityStatus"
  | .finding f => f.message

end SelectionFault

/-! ### Selections -/

/-- Identifiers in the order of choice. -/
structure Selection (ι : Type) where
  ids : List ι
  deriving DecidableEq, Repr

namespace Selection

variable {ι : Type} [BEq ι]

/-- Nothing selected. -/
def empty : Selection ι := ⟨[]⟩

/-- The selection of identifiers in a list, each at its first place. -/
def ofList (ids : List ι) : Selection ι := ⟨Text.distinct ids⟩

/-- Whether an identifier is selected. -/
def contains (s : Selection ι) (id : ι) : Bool := s.ids.contains id

/-- The selection with an identifier at the end, unless it is selected already. -/
def insert (s : Selection ι) (id : ι) : Selection ι := ofList (s.ids ++ [id])

/-- The selection without an identifier. -/
def erase (s : Selection ι) (id : ι) : Selection ι := ofList (s.ids.filter fun i => !(i == id))

/-- The selection of what each identifier stands for. -/
def map (s : Selection ι) (f : ι → ι) : Selection ι := ofList (s.ids.map f)

end Selection

instance : BEq Value := ⟨Value.sameKey⟩

/-- The values of a list, each of which has to be a key. -/
def keys (vs : List Value) : Except SelectionFault (List Value) :=
  match vs.find? fun v => !v.isKey with
  | some v => .error (.noKey v)
  | none => .ok vs

/-- The texts among values. -/
def textsOf (vs : List Value) : List String :=
  vs.filterMap fun v => match v with
    | .str s => some s
    | _ => none

namespace Selection

/-- The selection of the parts of a value that is no text: the items of a list, or the keys of a
mapping. -/
def ofValue (v : Value) : Except SelectionFault (Selection Value) :=
  match v, v.parts? with
  | .str _, _ => .error .text
  | _, some parts => (keys parts).map ofList
  | v, none => .error (.noParts v)

/-- The selection with a value at the end, which has to be a key. -/
def insertKey (s : Selection Value) (id : Value) : Except SelectionFault (Selection Value) :=
  if id.isKey then .ok (s.insert id) else .error (.noKey id)

/-- The selected texts. -/
def texts (s : Selection Value) : Selection String := ⟨textsOf s.ids⟩

/-- The selected identifiers, which are texts; a finding about anything else cannot be made. -/
def identifiers (s : Selection Value) : Except SelectionFault (Selection String) :=
  if s.texts.ids.length = s.ids.length then .ok s.texts
  else .error (.finding ⟨"SelectionIssue", [⟨["skills", "0"], .string⟩]⟩)

end Selection

end AgentBundles
