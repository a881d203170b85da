import AgentBundles.Data.FaultKind
import AgentBundles.Data.Value

/-!
# Writing JSON text

`Json.write` gives the text of a value, spread over lines with an indent of two spaces and in ASCII;
`Json.unwritable?` finds what in a value has no JSON text. A character that stands for a surrogate
is written like any other, as the pair of its own number and not as an escape of the surrogate, and
is read back as itself.
-/

namespace AgentBundles.Json

/-- The spacing of a text. -/
structure Layout where
  /-- What stands before an item at a depth of nesting. -/
  line : Nat → List Char
  /-- What stands between a key and its value. -/
  colon : List Char

/-- One item a line, indented by two spaces a level. -/
def Layout.spread : Layout where
  line depth := '\n' :: List.replicate (2 * depth) ' '
  colon := [':', ' ']

/-- Everything on one line. -/
def Layout.compact : Layout where
  line _ := []
  colon := [':']

/-- An escape by four hexadecimal digits. -/
def unitEscape (n : Nat) : List Char :=
  '\\' :: 'u' :: Text.hexDigits 4 n

/-- The characters that stand for `c` in a string. -/
def escaped (c : Char) : List Char :=
  if c == '\x22' then ['\\', '\x22']
  else if c == '\\' then ['\\', '\\']
  else if c == '\n' then ['\\', 'n']
  else if c == '\r' then ['\\', 'r']
  else if c == '\t' then ['\\', 't']
  else if c == '\x08' then ['\\', 'b']
  else if c == '\x0c' then ['\\', 'f']
  else if 0x20 ≤ c.toNat && c.toNat ≤ 0x7E then [c]
  else if c.toNat < 0x10000 then unitEscape c.toNat
  else
    let n := c.toNat - 0x10000
    unitEscape (0xD800 + n / 0x400) ++ unitEscape (0xDC00 + n % 0x400)

/-- A string in its quotes. -/
def stringText (s : String) : List Char :=
  '\x22' :: s.toList.flatMap escaped ++ ['\x22']

/-- The text of a scalar. -/
def scalarText : Value → List Char
  | .null => "null".toList
  | .bool true => "true".toList
  | .bool false => "false".toList
  | .int n => (intText n).toList
  | .float x => (x.text .json).toList
  | .str s => stringText s
  | .date d => stringText d.text
  | .instant t => stringText (t.text "T")
  | .bytes bs => stringText (Text.quotedBytes bs)
  | .list _ => []
  | .pair _ _ => []
  | .map _ => []
  | .set _ => []
  | .enclosing _ => []

/-- The text of a key, which is a string whatever the key is. -/
def keyText : Value → List Char
  | .str s => stringText s
  | k => '\x22' :: scalarText k ++ ['\x22']

mutual

/-- The text of a value at a depth of nesting. -/
def layout (l : Layout) (depth : Nat) : Value → List Char
  | .list [] => ['[', ']']
  | .list items => '[' :: layoutItems l (depth + 1) items ++ l.line depth ++ [']']
  | .pair a b =>
    '[' :: l.line (depth + 1) ++ layout l (depth + 1) a ++ ',' :: l.line (depth + 1) ++
      layout l (depth + 1) b ++ l.line depth ++ [']']
  | .map [] => ['{', '}']
  | .map entries => '{' :: layoutEntries l (depth + 1) entries ++ l.line depth ++ ['}']
  | v => scalarText v

/-- The items of a list, each on its line. -/
def layoutItems (l : Layout) (depth : Nat) : List Value → List Char
  | [] => []
  | [v] => l.line depth ++ layout l depth v
  | v :: vs => l.line depth ++ layout l depth v ++ ',' :: layoutItems l depth vs

/-- The entries of a mapping, each on its line. -/
def layoutEntries (l : Layout) (depth : Nat) : List (Value × Value) → List Char
  | [] => []
  | [(k, v)] => l.line depth ++ keyText k ++ l.colon ++ layout l depth v
  | (k, v) :: rest =>
    l.line depth ++ keyText k ++ l.colon ++ layout l depth v ++ ',' :: layoutEntries l depth rest

end

/-- A part of a value that JSON has no text for. -/
inductive Unwritable where
  | key (kind : String)
  | value (kind : String)
  /-- An integer with too many digits. -/
  | number
  /-- A collection inside itself. -/
  | circle
  deriving DecidableEq, Repr

/-- The kind of fault that a part without JSON text is. -/
def Unwritable.kind : Unwritable → FaultKind
  | .key _ => .type
  | .value _ => .type
  | .number => .value
  | .circle => .value

/-- What a message says of a part without JSON text. -/
def Unwritable.message : Unwritable → String
  | .key kind => "keys must be str, int, float, bool or None, not " ++ kind
  | .value kind => "Object of type " ++ kind ++ " is not JSON serializable"
  | .number => unwritableMessage
  | .circle => "Circular reference detected"

/-- What keeps a key from having a text. -/
def unwritableKey? : Value → Option Unwritable
  | .null => none
  | .bool _ => none
  | .int n => if hasDecimalText n then none else some .number
  | .float _ => none
  | .str _ => none
  | k => some (.key k.kindName)

mutual

/-- The first part of a value that has no JSON text. -/
def unwritable? : Value → Option Unwritable
  | .int n => if hasDecimalText n then none else some .number
  | .list items => unwritableItem? items
  | .pair a b => (unwritable? a).or (unwritable? b)
  | .map entries => unwritableField? entries
  | .date d => some (.value (Value.date d).kindName)
  | .instant t => some (.value (Value.instant t).kindName)
  | .bytes bs => some (.value (Value.bytes bs).kindName)
  | .set vs => some (.value (Value.set vs).kindName)
  | .enclosing _ => some .circle
  | _ => none

/-- The first part of a list's items that has no JSON text. -/
def unwritableItem? : List Value → Option Unwritable
  | [] => none
  | v :: vs => (unwritable? v).or (unwritableItem? vs)

/-- The first part of a mapping's entries that has no JSON text. -/
def unwritableField? : List (Value × Value) → Option Unwritable
  | [] => none
  | (k, v) :: rest => ((unwritableKey? k).or (unwritable? v)).or (unwritableField? rest)

end

/-- The text of a value, spread over lines. -/
def write (v : Value) : String :=
  String.ofList (layout .spread 0 v)

/-- The text of a value on one line. -/
def writeLine (v : Value) : String :=
  String.ofList (layout .compact 0 v)

end AgentBundles.Json
