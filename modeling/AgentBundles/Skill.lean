import AgentBundles.Text.Split
import AgentBundles.Text.Word
import AgentBundles.Record.Skill

/-!
# Skills

The skills of a catalog, with the names and descriptions that documents and lists show. The name
that the documents of a skill have on disk is its slug, made from its identifier: the last part of
its path without the author, in runs of lower-case letters and digits joined by hyphens.
-/

namespace AgentBundles

/-! ### Slugs -/

namespace Slug

/-- Whether a character may stand in the name of an author. -/
def isAuthorChar (c : Char) : Bool :=
  Text.isWordChar c || c == '.' || c == '-'

/-- A reversed text without an author in brackets at its end, and the blanks before it. -/
def dropAuthorReversed : List Char → Option (List Char)
  | ')' :: cs =>
    match cs.takeWhile isAuthorChar, cs.dropWhile isAuthorChar with
    | _ :: _, '@' :: '(' :: rest => some (rest.dropWhile Text.isBlank)
    | _, _ => none
  | _ => none

/-- A text without an author such as ` (@name)` at its end; a line feed may follow the author. -/
def dropAuthor (cs : List Char) : List Char :=
  match cs.reverse with
  | '\n' :: rest =>
    match dropAuthorReversed rest with
    | some kept => kept.reverse ++ ['\n']
    | none => cs
  | reversed =>
    match dropAuthorReversed reversed with
    | some kept => kept.reverse
    | none => cs

/-- The part of a path after its last slash. -/
def lastSegment (cs : List Char) : List Char :=
  (cs.reverse.takeWhile (· != '/')).reverse

/-- A character in lower case, as far as the result has a part in a slug: besides the ASCII letters,
the Kelvin sign and the dotted capital I have ASCII letters for their lower case. -/
def slugLower (c : Char) : List Char :=
  if c == Char.ofNat 0x212A then ['k']
  else if c == Char.ofNat 0x130 then ['i', Char.ofNat 0x307]
  else [c.toLower]

/-- Whether a character may stand in a slug beside the hyphen. -/
def isSlugChar (c : Char) : Bool :=
  ('a' ≤ c && c ≤ 'z') || Text.isAsciiDigit c

/-- The characters with each run of those that a slug cannot hold made one hyphen; `inRun` tells
whether such a run came before. -/
def hyphenate (inRun : Bool) : List Char → List Char
  | [] => []
  | c :: cs =>
    if isSlugChar c then c :: hyphenate false cs
    else if inRun then hyphenate true cs
    else '-' :: hyphenate true cs

/-- The characters of the slug of an identifier. -/
def ofChars (cs : List Char) : List Char :=
  let name := Text.strip (dropAuthor (lastSegment cs))
  Text.stripBy (· == '-') (hyphenate false (name.flatMap slugLower))

/-- The name of a skill's documents; empty if the identifier has nothing that a name can hold. -/
def ofId (id : String) : String :=
  String.ofList (ofChars id.toList)

/-- A word with its first letter in upper case. -/
def capitalise (word : String) : String :=
  match word.toList with
  | [] => ""
  | c :: cs => String.ofList (c.toUpper :: cs)

/-- The name of a skill for readers: the words of its slug, each with a capital letter. -/
def displayName (id : String) : String :=
  Text.join " " (((Text.split '-' (ofId id)).filter fun w => !w.isEmpty).map capitalise)

/-- Whether a text is runs of lower-case letters and digits joined by single hyphens, of which the
first begins with a letter. -/
def isKebab (cs : List Char) : Bool :=
  match Text.fields '-' cs with
  | [] => false
  | first :: rest =>
    (match first with
      | [] => false
      | c :: cs => ('a' ≤ c && c ≤ 'z') && cs.all isSlugChar) &&
    rest.all fun f => !f.isEmpty && f.all isSlugChar

/-- Whether a text is a name in kebab case; a line feed may follow. -/
def isKebabName (s : String) : Bool :=
  isKebab (Text.dropFinalBreak s.toList)

end Slug

/-! ### Skills -/

/-- A skill of a catalog. -/
structure Skill where
  id : String
  slug : String
  name : String
  description : String
  category : String
  exclusive : Bool
  author : String
  tags : List String
  usageGuidance : Option String
  content : String
  resources : Table String
  deriving DecidableEq, Repr

/-- A text, or another one if it is missing or empty. -/
def orElse (s? : Option String) (fallback : String) : String :=
  match s? with
  | some s => if s.isEmpty then fallback else s
  | none => fallback

/-- The skill that a record describes; short names and descriptions win over those of the header. -/
def Skill.ofRecord (r : Record.Skill) : Skill where
  id := r.id
  slug := Slug.ofId r.id
  name := orElse r.metadata.shortName (Slug.displayName r.id)
  description := orElse r.metadata.shortDescription r.description
  category := r.metadata.category
  exclusive := r.metadata.exclusive
  author := r.metadata.author
  tags := r.metadata.tags
  usageGuidance := r.metadata.usageGuidance
  content := r.content
  resources := r.resources

end AgentBundles
