import AgentBundles.Data.Calendar
import AgentBundles.Text.Quoted
import AgentBundles.Text.Split

/-!
# Values

The data that documents hold: scalars, lists, pairs, mappings in the order of their keys, and sets.
Keys are compared as numbers where both are numbers, so `1`, `1.0` and `true` are one key; writing a
key again keeps its place and replaces its value.

A collection may hold itself. Inside a collection, `enclosing n` stands for the collection `n`
levels further out, so a value stays finite; `items?` and `entries?` give the parts of a collection
with such references to it replaced by the collection, and thus as values in their own right.
-/

namespace AgentBundles

/-- A piece of data as JSON and YAML documents describe it. -/
inductive Value where
  | null
  | bool (b : Bool)
  | int (n : Int)
  | float (x : Binary64)
  | str (s : String)
  | date (d : Date)
  | instant (t : Instant)
  | bytes (bs : List UInt8)
  | list (items : List Value)
  | pair (first second : Value)
  | map (entries : List (Value × Value))
  | set (members : List Value)
  /-- The collection so many levels further out; the innermost one has level zero. -/
  | enclosing (level : Nat)
  deriving Inhabited, Repr

namespace Value

/-- The number that a scalar is, as a key. -/
def asNumber? : Value → Option (Int ⊕ Binary64)
  | .bool b => some (.inl (if b then 1 else 0))
  | .int n => some (.inl n)
  | .float x => some ((x.toInt?).elim (.inr x) .inl)
  | _ => none

/-- Whether two values are the same key. -/
def sameKey (a b : Value) : Bool :=
  match a, b with
  | .null, .null => true
  | .str s, .str t => s == t
  | .date d, .date e => d == e
  | .instant t, .instant u => t.same u
  | .bytes s, .bytes t => s == t
  | a, b =>
    match a.asNumber?, b.asNumber? with
    | some (.inl m), some (.inl n) => m == n
    | some (.inr x), some (.inr y) => x.same y
    | _, _ => false

/-- Whether a value may be a key. -/
def isKey : Value → Bool
  | .list _ => false
  | .map _ => false
  | .set _ => false
  | .pair a b => a.isKey && b.isKey
  | .enclosing _ => false
  | _ => true

/-- Whether a value is empty, zero, false or null. -/
def isEmpty : Value → Bool
  | .null => true
  | .bool b => !b
  | .int n => n == 0
  | .float x => x.isZero
  | .str s => s.isEmpty
  | .date _ => false
  | .instant _ => false
  | .bytes bs => bs.isEmpty
  | .list items => items.isEmpty
  | .pair _ _ => false
  | .map entries => entries.isEmpty
  | .set members => members.isEmpty
  | .enclosing _ => false

/-- The name of a value's kind, in messages. -/
def kindName : Value → String
  | .null => "NoneType"
  | .bool _ => "bool"
  | .int _ => "int"
  | .float _ => "float"
  | .str _ => "str"
  | .date _ => "date"
  | .instant _ => "datetime"
  | .bytes _ => "bytes"
  | .list _ => "list"
  | .pair _ _ => "tuple"
  | .map _ => "dict"
  | .set _ => "set"
  | .enclosing _ => "list"

/-- The name of a value's kind, with the place where dates are defined. -/
def fullKindName : Value → String
  | .date _ => "datetime.date"
  | .instant _ => "datetime.datetime"
  | v => v.kindName

/-- What a message says of a value that has no parts to go through. -/
def noPartsMessage (v : Value) : String := Text.inQuotes v.fullKindName ++ " object is not iterable"

/-- What a message says of a value that cannot be a key. -/
def noKeyMessage (v : Value) : String := "unhashable type: " ++ Text.inQuotes v.kindName

/-! ### Parts -/

mutual

/-- A part of a collection, `depth` levels below it, with the collection in place of the references
to it. -/
def within (whole : Value) (depth : Nat) : Value → Value
  | .list items => .list (withinAll whole (depth + 1) items)
  | .pair a b => .pair (within whole (depth + 1) a) (within whole (depth + 1) b)
  | .map entries => .map (withinEntries whole (depth + 1) entries)
  | .enclosing level => if level = depth then whole else .enclosing level
  | v => v

/-- Parts of a collection with the collection in place of the references to it. -/
def withinAll (whole : Value) (depth : Nat) : List Value → List Value
  | [] => []
  | v :: vs => within whole depth v :: withinAll whole depth vs

/-- Entries in a collection with the collection in place of the references to it. -/
def withinEntries (whole : Value) (depth : Nat) : List (Value × Value) → List (Value × Value)
  | [] => []
  | (k, v) :: rest => (k, within whole depth v) :: withinEntries whole depth rest

end

/-- The items of a list. -/
def items? (v : Value) : Option (List Value) :=
  match v with
  | .list items => some (withinAll v 0 items)
  | _ => none

/-- The entries of a mapping. -/
def entries? (v : Value) : Option (List (Value × Value)) :=
  match v with
  | .map entries => some (withinEntries v 0 entries)
  | _ => none

/-- The members of a list, pair or set. -/
def members? (v : Value) : Option (List Value) :=
  match v with
  | .pair a b => some [within v 0 a, within v 0 b]
  | .set members => some members
  | v => v.items?

/-- What one comes upon in going through a value: items, members, keys, the characters of a text,
the numbers of bytes; nothing if the value has no parts. -/
def parts? (v : Value) : Option (List Value) :=
  match v with
  | .str s => some (s.toList.map fun c => .str (String.singleton c))
  | .bytes bs => some (bs.map fun b => .int b.toNat)
  | .map entries => some (entries.map (·.1))
  | v => v.members?

/-! ### Making values -/

/-- A mapping with text keys. -/
def ofFields (fields : List (String × Value)) : Value :=
  .map (fields.map fun f => (.str f.1, f.2))

/-- A list of texts. -/
def ofStrings (ss : List String) : Value :=
  .list (ss.map .str)

/-- A text that may be missing. -/
def ofText? (s? : Option String) : Value := (s?.map .str).getD .null

/-- A mapping of things under names. -/
def ofTable {α : Type} (toValue : α → Value) (entries : List (String × α)) : Value :=
  ofFields (entries.map fun e => (e.1, toValue e.2))

end Value

/-- Values, or other things, under keys. -/
abbrev Entries (α : Type := Value) := List (Value × α)

namespace Entries

variable {α : Type}

/-- The value of a key. -/
def get? (entries : Entries α) (key : Value) : Option α :=
  (entries.find? fun e => e.1.sameKey key).map (·.2)

/-- The value of a text key. -/
def field? (entries : Entries α) (name : String) : Option α :=
  get? entries (.str name)

/-- The entries with a key's value replaced, or with a new key at the end. -/
def insert (key : Value) (value : α) : Entries α → Entries α
  | [] => [(key, value)]
  | e :: rest => if e.1.sameKey key then (e.1, value) :: rest else e :: insert key value rest

/-- The entries written one after the other. -/
def ofList (pairs : List (Value × α)) : Entries α :=
  pairs.foldl (fun entries p => insert p.1 p.2 entries) []

end Entries

/-- The value of a text key of a mapping. -/
def Value.field? (v : Value) (name : String) : Option Value :=
  match v with
  | .map entries => (Entries.field? entries name).map (within v 0)
  | _ => none

end AgentBundles
