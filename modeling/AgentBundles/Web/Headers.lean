import AgentBundles.Data.FaultKind
import AgentBundles.Data.Value
import AgentBundles.Text.Percent
import AgentBundles.Text.Case

/-!
# Headers

The headers of requests and replies: names and values in ASCII, where letter case counts for nothing
in names and a name may occur more than once.
-/

namespace AgentBundles.Web

/-- Names and values in the order in which they are sent. -/
abbrev Headers := List (String × String)

namespace Headers

/-- Whether two names are the same. -/
def sameName (a b : String) : Bool := Text.lower a == Text.lower b

/-- The values under a name with commas between them, if there are any. -/
def get? (h : Headers) (name : String) : Option String :=
  match (h.filter fun e => sameName e.1 name).map (·.2) with
  | [] => none
  | values => some (Text.join ", " values)

/-- Whether there is a value under a name. -/
def has (h : Headers) (name : String) : Bool := h.any fun e => sameName e.1 name

/-- The headers with one value under a name, in the place of the first one that was there. -/
def set (h : Headers) (name value : String) : Headers :=
  match h with
  | [] => [(name, value)]
  | e :: rest =>
    if sameName e.1 name then (name, value) :: rest.filter fun f => !sameName f.1 name
    else e :: set rest name value

/-- The headers with others in place of those with the same names. -/
def merge (h others : Headers) : Headers := (h.filter fun e => !has others e.1) ++ others

end Headers

/-- Why a value does not hold headers. -/
inductive HeaderFault where
  /-- The value has no parts. -/
  | noParts (v : Value)
  /-- A part is no pair, since it has no parts itself. -/
  | noPair (v : Value)
  /-- A part has fewer than two parts. -/
  | tooFew (count : Nat)
  | tooMany
  | name (v : Value)
  | value (v : Value)
  /-- A text is not in ASCII. -/
  | encoding (f : Text.EncodingFault)
  deriving Repr

/-- The kind of a fault. -/
def HeaderFault.kind : HeaderFault → FaultKind
  | .tooFew _ => .value
  | .tooMany => .value
  | .name _ => .attribute
  | .encoding _ => .encoding
  | _ => .type

/-- What a message says of a value that does not hold headers. -/
def HeaderFault.message : HeaderFault → String
  | .noParts v => v.noPartsMessage
  | .noPair v => "cannot unpack non-iterable " ++ v.fullKindName ++ " object"
  | .tooFew count => "not enough values to unpack (expected 2, got " ++ natText count ++ ")"
  | .tooMany => "too many values to unpack (expected 2)"
  | .name v => Text.inQuotes v.fullKindName ++ " object has no attribute 'encode'"
  | .value v => "Header value must be str or bytes, not <class " ++
      Text.inQuotes v.fullKindName ++ ">"
  | .encoding f => f.message

namespace Headers

/-- The text of a name or value; `other` is the fault of a value that is neither text nor bytes. -/
def textOf (other : Value → HeaderFault) : Value → Except HeaderFault String
  | .str s =>
    match Text.Encoding.ascii.fault? s with
    | some f => .error (.encoding f)
    | none => .ok s
  | .bytes bs => .ok (String.ofList (bs.map fun b => Char.ofNat b.toNat))
  | v => .error (other v)

/-- The header of a name and a value. -/
def pairOf (name value : Value) : Except HeaderFault (String × String) := do
  let name ← textOf .name name
  return (name, ← textOf .value value)

/-- The header that a value is. -/
def ofPair (v : Value) : Except HeaderFault (String × String) :=
  match v.parts? with
  | none => .error (.noPair v)
  | some [name, value] => pairOf name value
  | some parts => .error (if parts.length < 2 then .tooFew parts.length else .tooMany)

/-- The headers that a value holds: the entries of a mapping, or pairs. -/
def ofValue (v : Value) : Except HeaderFault Headers :=
  match v with
  | .null => .ok []
  | .map entries => entries.mapM fun e => pairOf e.1 e.2
  | v =>
    match v.parts? with
    | none => .error (.noParts v)
    | some parts => parts.mapM ofPair

end Headers

end AgentBundles.Web
