import AgentBundles.Yaml.Reader
import AgentBundles.Yaml.Writer

/-!
# Header blocks

A document may begin with a header: a first line `---`, lines of YAML, and a closing line `---`,
after which spaces and tabs may stand. The header counts only if its YAML is valid and describes a
mapping or nothing.
-/

namespace AgentBundles.Header

/-- The rest of a text after a line break, if one comes next. -/
def afterBreak? : List Char → Option (List Char)
  | '\r' :: '\n' :: cs => some cs
  | '\n' :: cs => some cs
  | _ => none

/-- The mark of the first and the closing line. -/
def mark : List Char := ['-', '-', '-']

/-- The rest of a text after a closing line, if one comes next: the mark, spaces and tabs, and a
line break or the end of the text. -/
def afterClosing? (cs : List Char) : Option (List Char) :=
  if mark.isPrefixOf cs then
    match (cs.drop 3).dropWhile fun c => c == ' ' || c == '\t' with
    | [] => some []
    | rest => afterBreak? rest
  else
    none

/-- The text up to the line break before the first closing line, and the text after that line. -/
def cut : List Char → Option (List Char × List Char)
  | [] => none
  | c :: cs =>
    match (afterBreak? (c :: cs)).bind afterClosing? with
    | some rest => some ([], rest)
    | none => (cut cs).map fun p => (c :: p.1, p.2)

/-- The lines of the header and the text after it. -/
def block? (cs : List Char) : Option (List Char × List Char) :=
  if mark.isPrefixOf cs then (afterBreak? (cs.drop 3)).bind cut else none

/-- The header of a text, which is a mapping, with the text after it; none if the text has no
header. Dates and numbers that do not exist are faults of their own. -/
def read? (text : String) : Yaml.Result (Option (Value × List Char)) :=
  match block? text.toList with
  | none => .ok none
  | some (lines, rest) =>
    match Yaml.read (String.ofList lines) with
    | .error .malformed => .ok none
    | .error e => .error e
    | .ok .null => .ok (some (.map [], rest))
    | .ok (.map entries) => .ok (some (.map entries, rest))
    | .ok _ => .ok none

/-- The header of a text. -/
def parse (text : String) : Yaml.Result (Option Value) :=
  (fun header? => header?.map (·.1)) <$> read? text

/-- The header of a text, empty if there is none, and the body: the text after the header without
blanks at its ends, or the whole text. -/
def split (text : String) : Yaml.Result (Value × String) :=
  (fun header? => match header? with
    | some (header, rest) => (header, String.ofList (Text.strip rest))
    | none => (.map [], text)) <$> read? text

/-- A header with the entries that are not null, and a body without blanks at its ends. -/
def render (entries : Entries) (body : String) : String :=
  let kept := entries.filter fun e => match e.2 with
    | .null => false
    | _ => true
  "---\n" ++ Yaml.write kept ++ "---\n\n" ++ Text.trim body ++ "\n"

end AgentBundles.Header
