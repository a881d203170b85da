import AgentBundles.Record.Decode

/-!
# The skills matrix

The record of what holds between skills: categories, relations, suggested stacks, and short names.
-/

namespace AgentBundles.Record

/-- A category as the matrix defines it. -/
structure Category where
  id : String
  name : String
  description : String
  parent : Option String
  exclusive : Bool
  required : Bool
  order : Int
  icon : Option String
  deriving DecidableEq, Repr

/-- Skills of which no two go together. -/
structure Conflict where
  skills : List String
  reason : String
  deriving DecidableEq, Repr

/-- Skills that had better not be chosen together. -/
structure Discouragement where
  skills : List String
  reason : String
  deriving DecidableEq, Repr

/-- Skills that go well with one. -/
structure Recommendation where
  skill : String
  suggest : List String
  reason : String
  deriving DecidableEq, Repr

/-- Skills that one cannot do without. -/
structure Requirement where
  skill : String
  needs : List String
  needsAny : Bool
  reason : String
  deriving DecidableEq, Repr

/-- Skills that serve one purpose. -/
structure Alternatives where
  purpose : String
  skills : List String
  deriving DecidableEq, Repr

/-- All relations of a matrix. -/
structure Relations where
  conflicts : List Conflict
  discourages : List Discouragement
  recommends : List Recommendation
  requires : List Requirement
  alternatives : List Alternatives
  deriving DecidableEq, Repr

/-- A choice of skills that the matrix suggests, by category and part of it. -/
structure SuggestedStack where
  id : String
  name : String
  description : String
  audience : List String
  skills : Table (Table String)
  philosophy : String
  deriving DecidableEq, Repr

/-- The skills matrix. -/
structure Matrix where
  version : String
  categories : Table Category
  relations : Relations
  suggestedStacks : List SuggestedStack
  aliases : Table String
  deriving DecidableEq, Repr

/-- Reads a category. -/
def category : Decoder Category := fields fun es =>
  Category.mk <$> required es "id" string <*> required es "name" string
    <*> withDefault es "description" "" string <*> withDefault es "parent" none (optional string)
    <*> withDefault es "exclusive" true boolean <*> withDefault es "required" false boolean
    <*> withDefault es "order" 0 integer <*> withDefault es "icon" none (optional string)

/-- Reads a conflict. -/
def conflict : Decoder Conflict := fields fun es =>
  Conflict.mk <$> required es "skills" (listOfAtLeast 2 string)
    <*> withDefault es "reason" "" string

/-- Reads a discouragement. -/
def discouragement : Decoder Discouragement := fields fun es =>
  Discouragement.mk <$> required es "skills" (listOfAtLeast 2 string)
    <*> withDefault es "reason" "" string

/-- Reads a recommendation. -/
def recommendation : Decoder Recommendation := fields fun es =>
  Recommendation.mk <$> required es "when" string <*> required es "suggest" (listOfAtLeast 1 string)
    <*> withDefault es "reason" "" string

/-- Reads a requirement. -/
def requirement : Decoder Requirement := fields fun es =>
  Requirement.mk <$> required es "skill" string <*> required es "needs" (listOfAtLeast 1 string)
    <*> withDefault es "needs_any" false boolean <*> withDefault es "reason" "" string

/-- Reads a group of alternatives. -/
def alternatives : Decoder Alternatives := fields fun es =>
  Alternatives.mk <$> required es "purpose" string <*> required es "skills" (listOfAtLeast 1 string)

/-- No relations. -/
def Relations.empty : Relations := ⟨[], [], [], [], []⟩

/-- Reads the relations. -/
def relations : Decoder Relations := fields fun es =>
  Relations.mk <$> withDefault es "conflicts" [] (list conflict)
    <*> withDefault es "discourages" [] (list discouragement)
    <*> withDefault es "recommends" [] (list recommendation)
    <*> withDefault es "requires" [] (list requirement)
    <*> withDefault es "alternatives" [] (list alternatives)

/-- Reads a suggested stack. -/
def suggestedStack : Decoder SuggestedStack := fields fun es =>
  SuggestedStack.mk <$> required es "id" string <*> required es "name" string
    <*> withDefault es "description" "" string <*> withDefault es "audience" [] (list string)
    <*> withDefault es "skills" [] (table (table string)) <*> withDefault es "philosophy" "" string

/-- Reads a skills matrix. -/
def matrix : Decoder Matrix := fields fun es =>
  Matrix.mk <$> required es "version" string <*> withDefault es "categories" [] (table category)
    <*> withDefault es "relationships" Relations.empty relations
    <*> withDefault es "suggested_stacks" [] (list suggestedStack)
    <*> withDefault es "skill_aliases" [] (table string)

/-- The skills matrix that a value holds. -/
def Matrix.ofValue (v : Value) : Except Fault Matrix := (matrix v).toExcept "MatrixConfig"

end AgentBundles.Record
