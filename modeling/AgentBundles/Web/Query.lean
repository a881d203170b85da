import AgentBundles.Data.Display
import AgentBundles.Data.FaultKind
import AgentBundles.Text.Percent

/-!
# Queries

Names and values that are asked for along with an address. A name may have several values, and
counts even if it has none.
-/

namespace AgentBundles.Web

/-- Names with their values. -/
abbrev Query := List (String × List String)

/-- Why a value does not hold names and values. -/
inductive QueryFault where
  /-- The value is no mapping. -/
  | noEntries (v : Value)
  /-- A value has no items. -/
  | noItems (v : Value)
  /-- A value has no item at a place. -/
  | noItem (v : Value)
  /-- A mapping has no value under the number of a place. -/
  | noKey (place : Nat)
  | unhashable (v : Value)
  /-- A byte is none of ASCII. -/
  | byte (b : UInt8) (offset : Nat)
  /-- There is an integer with too many digits to be written. -/
  | unwritable
  deriving Repr

/-- The kind of a fault. -/
def QueryFault.kind : QueryFault → FaultKind
  | .noEntries _ => .attribute
  | .noItems _ => .type
  | .noItem _ => .index
  | .noKey _ => .key
  | .unhashable _ => .type
  | .byte _ _ => .decoding
  | .unwritable => .value

/-- The word for a place in a value, in messages. -/
def placeName : Value → String
  | .str _ => "string index"
  | .bytes _ => "index"
  | v => v.kindName ++ " index"

/-- What a message says of a value that does not hold names and values. -/
def QueryFault.message : QueryFault → String
  | .noEntries v => Text.inQuotes v.fullKindName ++ " object has no attribute 'items'"
  | .noItems v => Text.inQuotes v.fullKindName ++ " object is not subscriptable"
  | .noItem v => placeName v ++ " out of range"
  | .noKey place => natText place
  | .unhashable v => v.noKeyMessage
  | .byte b offset =>
    "'ascii' codec can't decode byte 0x" ++ String.ofList (Text.hexDigits 2 b.toNat) ++
      " in position " ++ natText offset ++ ": ordinal not in range(128)"
  | .unwritable => unwritableMessage

namespace Query

/-! ### Text -/

/-- A name or a value: a space as a plus sign, and all but letters, digits and four marks as
bytes. -/
def formText (s : String) : String :=
  String.ofList
    ((Text.percentEncode (fun c => Text.isUnreserved c || c == ' ') s.toList).map fun c =>
    if c == ' ' then '+' else c)

/-- The text of a query. -/
def text (q : Query) : String :=
  Text.join "&" (q.flatMap fun e => e.2.map fun v => formText e.1 ++ "=" ++ formText v)

/-- The name or value that a text stands for. -/
def plainText (cs : List Char) : String :=
  String.ofList (Text.percentDecode (cs.map fun c => if c == '+' then ' ' else c))

/-- The query with one more value under a name. -/
def add (q : Query) (name value : String) : Query :=
  match q with
  | [] => [(name, [value])]
  | e :: rest => if e.1 == name then (e.1, e.2 ++ [value]) :: rest else e :: add rest name value

/-- The query that a text is. -/
def ofText (s : String) : Query :=
  ((Text.fields '&' s.toList).filter fun f => !f.isEmpty).foldl
    (fun q f => q.add (plainText (f.takeWhile (· != '=')))
      (plainText ((f.dropWhile (· != '=')).drop 1))) []

/-! ### Values -/

/-- The text of a value. -/
def valueText : Value → Except QueryFault String
  | .null => .ok ""
  | .bool b => .ok (if b then "true" else "false")
  | v => if v.isShowable then .ok v.plainText else .error .unwritable

/-- The text of a name. -/
def nameText (v : Value) : Except QueryFault String :=
  if v.isShowable then .ok v.plainText else .error .unwritable

/-- The item of a value at a place. -/
def item (v : Value) (place : Nat) : Except QueryFault Value :=
  match v with
  | .map entries =>
    match Entries.get? entries (.int place) with
    | some w => .ok (Value.within v 0 w)
    | none => .error (.noKey place)
  | .set members => .error (.noItems (.set members))
  | v =>
    match v.parts? with
    | none => .error (.noItems v)
    | some parts =>
      match parts[place]? with
      | some w => .ok w
      | none => .error (.noItem v)

/-- Names with values, where those of a name that occurs again are added to it. -/
def grouped (entries : Entries (List Value)) (v : Value) :
    Except QueryFault (Entries (List Value)) := do
  let name ← item v 0
  if !name.isKey then
    throw (.unhashable name)
  let value ← item v 1
  return Entries.insert name ((Entries.get? entries name).getD [] ++ [value]) entries

/-- The values that a value under a name stands for. -/
def valuesOf (v : Value) : List Value :=
  match v with
  | .list _ => (v.items?).getD []
  | .pair _ _ => (v.members?).getD []
  | v => [v]

/-- The query of names and values. -/
def ofEntries (entries : Entries (List Value)) : Except QueryFault Query := do
  let pairs ← entries.mapM fun e => do
    let name ← nameText e.1
    return (name, ← e.2.mapM valueText)
  return pairs.foldl (fun q e =>
    if q.any fun f => f.1 == e.1 then q.map fun f => if f.1 == e.1 then e else f else q ++ [e]) []

/-- The query that a value holds: the text of a query, the entries of a mapping, or pairs. -/
def ofValue (v : Value) : Except QueryFault Query :=
  match v with
  | .null => .ok []
  | .str s => .ok (ofText s)
  | .bytes bs =>
    match bs.findIdx? fun b => 0x80 ≤ b.toNat with
    | some i => .error (.byte (bs.getD i 0) i)
    | none => .ok (ofText (String.ofList (bs.map fun b => Char.ofNat b.toNat)))
  | .map _ => ofEntries (((v.entries?).getD []).map fun e => (e.1, valuesOf e.2))
  | .list _ => (((v.items?).getD []).foldlM grouped []) >>= ofEntries
  | .pair _ _ => (((v.members?).getD []).foldlM grouped []) >>= ofEntries
  | v => .error (.noEntries v)

end Query

end AgentBundles.Web
