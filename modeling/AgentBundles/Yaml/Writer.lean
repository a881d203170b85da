import AgentBundles.Yaml.Style
import AgentBundles.Data.Value

/-!
# Writing YAML text

The text of a mapping, an entry a line in the order of the keys. Nested mappings are indented by two
spaces, nested sequences under a key are not; empty collections are written in brackets.
-/

namespace AgentBundles.Yaml

/-- The length that the tag of a scalar counts for in a key. -/
def tagLength : Value → Nat
  | .null => 6
  | .bool _ => 6
  | .float _ => 7
  | _ => 5

/-- The text of a scalar other than a text. -/
def scalarText : Value → String
  | .null => "null"
  | .bool true => "true"
  | .bool false => "false"
  | .int n => intText n
  | .float x => x.text .yaml
  | .str s => s
  | .date d => d.text
  | .instant t => t.text " "
  | .bytes bs => Text.quotedBytes bs
  | .list _ => "[]"
  | .pair _ _ => "[]"
  | .map _ => "\x7b\x7d"
  | .set _ => "\x7b\x7d"
  | .enclosing _ => "[]"

/-- A scalar or an empty collection that starts at a column. -/
def writeScalar (isKey : Bool) (indent column : Nat) : Value → List Char
  | .str s => writeText isKey indent column s
  | v => (scalarText v).toList

/-- Whether a key can stand on one line with its value. -/
def isSimpleKey (k : Value) : Bool :=
  let cs := (scalarText k).toList
  cs.length + tagLength k < 128 && !cs.isEmpty && !isMultiline cs

mutual

/-- A value after a mark in a column, on the same line. -/
def writeAfterMark (column : Nat) : Value → List Char
  | .list items =>
    if items.isEmpty then ' ' :: writeScalar false 0 0 (.list [])
      else ' ' :: writeItems true (column + 2) items
  | .map entries =>
    if entries.isEmpty then ' ' :: writeScalar false 0 0 (.map [])
    else ' ' :: writeEntries true (column + 2) entries
  | v => ' ' :: writeScalar false (column + 2) (column + 2) v

/-- A value after a key and its colon, which end before a column, in a mapping with an indent. -/
def writeAfterKey (indent column : Nat) : Value → List Char
  | .list items =>
    if items.isEmpty then ' ' :: writeScalar false 0 0 (.list []) else writeItems false indent items
  | .map entries =>
    if entries.isEmpty then ' ' :: writeScalar false 0 0 (.map [])
    else writeEntries false (indent + 2) entries
  | v => ' ' :: writeScalar false (indent + 2) (column + 1) v

/-- The items of a sequence with an indent, each on a new line; `here` tells whether the first one
goes on the line that is open. -/
def writeItems (here : Bool) (indent : Nat) : List Value → List Char
  | [] => []
  | v :: vs =>
    (if here then [] else newLine indent) ++ '-' :: writeAfterMark indent v ++
      writeItems false indent vs

/-- The entries of a mapping with an indent, each on a new line; `here` tells whether the first one
goes on the line that is open. -/
def writeEntries (here : Bool) (indent : Nat) : List (Value × Value) → List Char
  | [] => []
  | (k, v) :: rest =>
    let entry :=
      if isSimpleKey k then
        let key := writeScalar true (indent + 2) indent k
        key ++ ':' :: writeAfterKey indent (indent + key.length + 1) v
      else
        '?' :: ' ' :: writeScalar false (indent + 2) (indent + 2) k ++ newLine indent ++
          ':' :: writeAfterMark indent v
    (if here then [] else newLine indent) ++ entry ++ writeEntries false indent rest

end

/-- The text of a mapping. -/
def write (entries : Entries) : String :=
  if entries.isEmpty then "\x7b\x7d\n" else String.ofList (writeEntries true 0 entries ++ ['\n'])

end AgentBundles.Yaml
