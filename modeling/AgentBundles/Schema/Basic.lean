import AgentBundles.Data.Table
import AgentBundles.Data.Value

/-!
# Schemas

A schema says which values fit a place in a document: texts, numbers, lists, records, and choices
between these. A schema may carry a note for readers, or stand for a definition with a name; neither
has a bearing on which values fit. A schema is described by a document in the vocabulary of JSON
Schema.
-/

namespace AgentBundles

/-! ### Schemas -/

/-- What is asked of a text. -/
inductive TextRule where
  | notEmpty
  /-- The text begins with `./`. -/
  | relativePath
  | oneOf (choices : List String)
  deriving DecidableEq, Repr

/-- Whether a record may have fields that the schema does not name. -/
inductive OtherFields where
  | unmentioned
  | allowed
  | forbidden
  deriving DecidableEq, Repr

/-- A schema. -/
inductive Schema where
  | text (rules : List TextRule)
  /-- A number that is not negative. -/
  | quantity
  | list (notEmpty : Bool) (item : Schema)
  | record (needed : List String) (fields : List (String × Schema)) (others : OtherFields)
  /-- A mapping that is not empty, whose values all fit a schema. -/
  | dictionary (value : Schema)
  | anyOf (choices : List Schema)
  | exactlyOneOf (choices : List Schema)
  | noted (note : String) (s : Schema)
  | definition (name : String) (s : Schema)
  deriving Repr

/-- The schema of a kind of document. -/
structure DocumentSchema where
  name : String
  title : String
  description : String
  schema : Schema
  definitions : Table Schema
  deriving Repr

/-! ### Schemas as documents -/

/-- The fields that describe a rule for texts. -/
def TextRule.toFields : TextRule → List (String × Value)
  | .notEmpty => [("minLength", .int 1)]
  | .relativePath => [("pattern", .str "^\\./")]
  | .oneOf choices => [("enum", Value.ofStrings choices)]

/-- The field that says whether other fields are allowed. -/
def OtherFields.toFields : OtherFields → List (String × Value)
  | .unmentioned => []
  | .allowed => [("additionalProperties", .bool true)]
  | .forbidden => [("additionalProperties", .bool false)]

namespace Schema

mutual

/-- The fields that describe a schema. -/
def toFields : Schema → List (String × Value)
  | .text rules => ("type", .str "string") :: rules.flatMap TextRule.toFields
  | .quantity => [("type", .str "number"), ("minimum", .int 0)]
  | .list notEmpty item =>
    ("type", .str "array") :: (if notEmpty then [("minItems", .int 1)] else []) ++
      [("items", Value.ofFields (toFields item))]
  | .record needed fields others =>
    ("type", .str "object") ::
      (if needed.isEmpty then [] else [("required", Value.ofStrings needed)]) ++
      (if fields.isEmpty then [] else [("properties", Value.ofFields (describeFields fields))]) ++
      others.toFields
  | .dictionary value =>
    [("type", .str "object"), ("minProperties", .int 1),
     ("additionalProperties", Value.ofFields (toFields value))]
  | .anyOf choices => [("anyOf", .list (describeAll choices))]
  | .exactlyOneOf choices => [("oneOf", .list (describeAll choices))]
  | .noted note s => toFields s ++ [("description", .str note)]
  | .definition name _ => [("$ref", .str ("#/definitions/" ++ name))]

/-- Descriptions of the schemas of fields. -/
def describeFields : List (String × Schema) → List (String × Value)
  | [] => []
  | (name, s) :: rest => (name, Value.ofFields (toFields s)) :: describeFields rest

/-- Descriptions of schemas. -/
def describeAll : List Schema → List Value
  | [] => []
  | s :: rest => Value.ofFields (toFields s) :: describeAll rest

end

/-- The description of a schema. -/
def toValue (s : Schema) : Value := Value.ofFields s.toFields

end Schema

namespace DocumentSchema

/-- The name of the file that holds a schema. -/
def fileName (name : String) : String := name ++ ".schema.json"

/-- The document that describes a schema. -/
def toValue (d : DocumentSchema) : Value :=
  Value.ofFields
    ([("$schema", .str "http://json-schema.org/draft-07/schema#"),
      ("$id", .str ("https://skillbundle.dev/schemas/" ++ fileName d.name)),
      ("title", .str d.title), ("description", .str d.description)] ++
      d.schema.toFields ++
      (if d.definitions.isEmpty then []
       else [("definitions", Value.ofFields (Schema.describeFields d.definitions))]))

end DocumentSchema

end AgentBundles
