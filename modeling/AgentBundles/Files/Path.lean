import AgentBundles.Text.Split

/-!
# Paths

A path is a list of names, with slashes in front if it starts from the root of the file tree. Empty
names and single dots are dropped when a path is read; two dots are kept, and count only when the
path is resolved.
-/

namespace AgentBundles

/-- A place in the file tree: the names on the way to it from the root. -/
abbrev Place := List String

/-- A path. -/
structure FilePath where
  /-- The slashes in front. -/
  root : String
  names : List String
  deriving DecidableEq, Repr

namespace FilePath

/-- The slashes that count of those in front of a text: two are kept, more count as one. -/
def rootOf (s : String) : String :=
  match s.toList with
  | '/' :: '/' :: '/' :: _ => "/"
  | '/' :: '/' :: _ => "//"
  | '/' :: _ => "/"
  | _ => ""

/-- The path that a text is. -/
def ofText (s : String) : FilePath where
  root := rootOf s
  names := (Text.segments s).filter fun n => !(n.isEmpty || n == ".")

/-- The text of a path. -/
def text (p : FilePath) : String :=
  if p.root.isEmpty && p.names.isEmpty then "." else p.root ++ Text.join "/" p.names

/-- Whether a path starts from the root. -/
def isAbsolute (p : FilePath) : Bool := !p.root.isEmpty

/-- A path taken from another one on; a path that starts from the root stands alone. -/
def append (p q : FilePath) : FilePath :=
  if q.isAbsolute then q else ⟨p.root, p.names ++ q.names⟩

/-- A path with a text taken from it on. -/
def child (p : FilePath) (s : String) : FilePath := p.append (ofText s)

/-- A path with a place below it. -/
def below (p : FilePath) (place : Place) : FilePath := ⟨p.root, p.names ++ place⟩

/-- The path above. -/
def parent (p : FilePath) : FilePath := ⟨p.root, p.names.dropLast⟩

/-- The last name. -/
def name (p : FilePath) : String := p.names.getLastD ""

/-- The path of a place. -/
def ofPlace (place : Place) : FilePath := ⟨"/", place⟩

/-- Whether no name of a path holds a zero character, which file systems do not know. -/
def isPlain (p : FilePath) : Bool := p.names.all fun n => !n.toList.contains '\x00'

/-- The place that a name leads to from another one. -/
def enter (here : Place) (name : String) : Place :=
  if name == ".." then here.dropLast else here ++ [name]

/-- The place that a path names, seen from a directory. -/
def resolve (directory : Place) (p : FilePath) : Place :=
  p.names.foldl enter (if p.isAbsolute then [] else directory)

end FilePath

/-- The last dot of a name and what follows it, unless it begins or ends the name. -/
def extension (name : String) : String :=
  let after := name.toList.reverse.takeWhile (· != '.')
  let before := name.toList.length - after.length
  if after.isEmpty || before ≤ 1 then "" else Text.dropStart name (before - 1)

/-- A name without its extension. -/
def stem (name : String) : String := Text.dropEnd name (extension name).length

/-- What follows one place on the way to another, if that is the place itself or lies below it. -/
def relative? : Place → Place → Option Place
  | [], place => some place
  | _ :: _, [] => none
  | a :: above, b :: place => if a == b then relative? above place else none

/-- The text of a place relative to another. -/
def placeText (place : Place) : String := FilePath.text ⟨"", place⟩

end AgentBundles
