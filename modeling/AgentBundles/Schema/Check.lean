import AgentBundles.Data.Display
import AgentBundles.Schema.Basic

/-!
# Checking values by schemas

`Schema.violations` finds everything in a value that does not fit a schema, with the place in the
value. A value fits if there are no violations.
-/

namespace AgentBundles

/-- A part of a value that does not fit: where it is, what a message says of it, and whether the
message can be written; it cannot if it quotes an integer with too many digits. -/
structure Violation where
  place : List String
  message : String
  isWritable : Bool
  deriving DecidableEq, Repr

namespace Violation

/-- A violation of a value as a whole. -/
def here (v : Value) (message : String) : Violation := ⟨[], v.display ++ message, v.isShowable⟩

/-- The same under a name. -/
def under (name : String) (x : Violation) : Violation := { x with place := name :: x.place }

/-- The order of violations by place and then by message. -/
def le (x y : Violation) : Bool :=
  if x.place == y.place then Text.le x.message y.message else Text.listLe x.place y.place

end Violation

/-- A value that is not of the type that a schema asks for. -/
def wrongType (v : Value) (type : String) : Violation :=
  .here v (" is not of type " ++ Text.quoted type)

/-- A value that is empty. -/
def emptyValue (v : Value) : Violation := .here v " should be non-empty"

/-- A value that fits none of some schemas. -/
def noChoice (v : Value) : Violation := .here v " is not valid under any of the given schemas"

/-- A value that fits several of some schemas. -/
def manyChoices (v : Value) (choices : List Schema) : Violation :=
  .here v (" is valid under each of " ++ Text.join ", " (choices.map fun s => s.toValue.display))

/-- What in a value does not fit a rule for texts. A rule about the letters of a text does not
concern a value that is no text. -/
def TextRule.violations : TextRule → Value → List Violation
  | .notEmpty, .str s => if s.isEmpty then [emptyValue (.str s)] else []
  | .relativePath, .str s =>
    if Text.startsWith s "./" then []
    else [.here (.str s) (" does not match " ++ Text.quoted "^\\./")]
  | .oneOf choices, v =>
    let isChoice := match v with
      | .str s => choices.contains s
      | _ => false
    if isChoice then [] else [.here v (" is not one of " ++ displayStrings choices)]
  | _, _ => []

/-- Whether a number is negative. -/
def isNegative : Value → Bool
  | .int n => n < 0
  | .float x => x.isNegative && !x.isZero
  | _ => false

/-- The fields that a record needs and does not have. -/
def missingFields (entries : Entries) (needed : List String) : List Violation :=
  (needed.filter fun name => (entries.field? name).isNone).map fun name =>
    ⟨[], Text.quoted name ++ " is a required property", true⟩

/-- The keys of a record that are not among some names, in the order of their texts. -/
def otherKeys (entries : Entries) (names : List String) : List Value :=
  let others := (entries.map (·.1)).filter fun k => !names.any fun name => k.sameKey (.str name)
  others.mergeSort fun a b => Text.le a.plainText b.plainText

/-- The violation of a record with keys that it may not have. -/
def forbiddenKeys (others : OtherFields) (entries : Entries) (names : List String) :
    List Violation :=
  match others, otherKeys entries names with
  | .forbidden, [k] =>
    [⟨[], "Additional properties are not allowed (" ++ k.display ++ " was unexpected)",
      k.isShowable⟩]
  | .forbidden, k :: ks =>
    [⟨[], "Additional properties are not allowed (" ++
      Text.join ", " ((k :: ks).map Value.display) ++ " were unexpected)",
      Value.areShowable (k :: ks)⟩]
  | _, _ => []

namespace Schema

mutual

/-- What in a value does not fit a schema. -/
def violations : Schema → Value → List Violation
  | .text rules, v =>
    (match v with
      | .str _ => []
      | v => [wrongType v "string"]) ++ rules.flatMap (·.violations v)
  | .quantity, v =>
    match v with
    | .int n => if isNegative (.int n) then [.here v " is less than the minimum of 0"] else []
    | .float x => if isNegative (.float x) then [.here v " is less than the minimum of 0"] else []
    | v => [wrongType v "number"]
  | .list notEmpty item, v =>
    match v.items? with
    | some items =>
      (if notEmpty && items.isEmpty then [emptyValue v] else []) ++
        items.zipIdx.flatMap fun i => (violations item i.1).map (.under (natText i.2))
    | none => [wrongType v "array"]
  | .record needed fields others, v =>
    match v with
    | .map entries =>
      missingFields entries needed ++ fieldViolations fields v ++
        forbiddenKeys others entries (fields.map (·.1))
    | v => [wrongType v "object"]
  | .dictionary value, v =>
    match v.entries? with
    | some entries =>
      (if entries.isEmpty then [emptyValue v] else []) ++
        entries.flatMap fun e => (violations value e.2).map (.under e.1.plainText)
    | none => [wrongType v "object"]
  | .anyOf choices, v => if (fitting choices v).isEmpty then [noChoice v] else []
  | .exactlyOneOf choices, v =>
    match fitting choices v with
    | [] => [noChoice v]
    | [_] => []
    | s :: rest => [manyChoices v (rest ++ [s])]
  | .noted _ s, v => violations s v
  | .definition _ s, v => violations s v

/-- What in the fields of a record does not fit. -/
def fieldViolations : List (String × Schema) → Value → List Violation
  | [], _ => []
  | (name, s) :: rest, whole =>
    (match whole.field? name with
      | some v => (violations s v).map (.under name)
      | none => []) ++ fieldViolations rest whole

/-- The schemas that a value fits. -/
def fitting : List Schema → Value → List Schema
  | [], _ => []
  | s :: rest, v => if (violations s v).isEmpty then s :: fitting rest v else fitting rest v

end

/-- Whether a value fits a schema. -/
def fits (s : Schema) (v : Value) : Bool := (s.violations v).isEmpty

end Schema

/-- What in a document does not fit its schema, in the order of places and messages. -/
def DocumentSchema.violations (d : DocumentSchema) (v : Value) : List Violation :=
  (d.schema.violations v).mergeSort Violation.le

end AgentBundles
