/-!
# Cutting and joining text

Fields between separators, the order of texts by code point, and the other cuts that paths and
identifiers need.
-/

namespace AgentBundles.Text

/-- The fields of a list of characters between the occurrences of `sep`; never empty. -/
def fields (sep : Char) : List Char → List (List Char)
  | [] => [[]]
  | c :: cs =>
    if c == sep then
      [] :: fields sep cs
    else
      match fields sep cs with
      | [] => [[c]]
      | f :: fs => (c :: f) :: fs

/-- The fields of a text between the occurrences of `sep`. -/
def split (sep : Char) (s : String) : List String :=
  (fields sep s.toList).map String.ofList

/-- The fields of a text between slashes. -/
def segments (s : String) : List String :=
  split '/' s

/-- Texts one after the other with `sep` between them. -/
def join (sep : String) : List String → String
  | [] => ""
  | [s] => s
  | s :: t :: rest => s ++ sep ++ join sep (t :: rest)

/-- Whether `s` begins with `p`. -/
def startsWith (s p : String) : Bool :=
  p.toList.isPrefixOf s.toList

/-- Whether `s` ends with `p`. -/
def endsWith (s p : String) : Bool :=
  p.toList.reverse.isPrefixOf s.toList.reverse

/-- Whether `piece` stands somewhere in a list of characters. -/
def hasPiece (piece : List Char) : List Char → Bool
  | [] => piece.isEmpty
  | c :: cs => piece.isPrefixOf (c :: cs) || hasPiece piece cs

/-- The text without its first `n` characters. -/
def dropStart (s : String) (n : Nat) : String :=
  String.ofList (s.toList.drop n)

/-- The text without its last `n` characters. -/
def dropEnd (s : String) (n : Nat) : String :=
  String.ofList (s.toList.take (s.toList.length - n))

/-- The characters without a line feed at the end. -/
def dropFinalBreak (cs : List Char) : List Char :=
  if cs.getLast? == some '\n' then cs.dropLast else cs

/-- The order of texts by code points. -/
def le (s t : String) : Bool :=
  !decide (t < s)

/-- Texts in the order of their code points; equal ones keep their places. -/
def sort (ss : List String) : List String :=
  ss.mergeSort le

/-- The order of lists of texts by their first difference; a list comes after the lists that it
continues. -/
def listLe : List String → List String → Bool
  | [], _ => true
  | _ :: _, [] => false
  | s :: ss, t :: ts => s < t || (s == t && listLe ss ts)

/-- The items without those that occurred before. -/
def distinct {α : Type} [BEq α] (xs : List α) : List α :=
  xs.foldl (fun kept x => if kept.contains x then kept else kept ++ [x]) []

end AgentBundles.Text
