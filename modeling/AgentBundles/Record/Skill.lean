import AgentBundles.Record.Decode

/-!
# Skill records

A skill as it stands in a source tree: its header, its text, the files beside it, and what its
metadata say of its place in the catalog.
-/

namespace AgentBundles.Record

/-- The version of a skill, as it is written. -/
inductive SkillVersion where
  | text (s : String)
  | number (n : Int)
  deriving DecidableEq, Repr

/-- What the metadata of a skill say. -/
structure Metadata where
  category : String
  exclusive : Bool
  author : String
  version : Option SkillVersion
  shortName : Option String
  shortDescription : Option String
  usageGuidance : Option String
  tags : List String
  compatibleWith : List String
  conflictsWith : List String
  requires : List String
  requiresSetup : List String
  providesSetupFor : List String
  deriving DecidableEq, Repr

/-- A skill before it becomes part of a catalog. -/
structure Skill where
  id : String
  description : String
  content : String
  metadata : Metadata
  resources : Table String
  path : String
  deriving DecidableEq, Repr

/-- Reads the version of a skill; a value that is neither text nor number has both defects. -/
def skillVersion : Decoder SkillVersion
  | .str s => .done (.text s)
  | v =>
    match string v, integer v with
    | .done s, _ => .done (.text s)
    | _, .done n => .done (.number n)
    | .defective cs, .defective ds =>
      .defective (((Decoded.defective cs : Decoded Unit).under "str").defects ++
        ((Decoded.defective ds : Decoded Unit).under "int").defects)

/-- Reads the metadata of a skill. -/
def metadata : Decoder Metadata := fields fun es =>
  Metadata.mk <$> required es "category" string <*> withDefault es "category_exclusive" true boolean
    <*> withDefault es "author" "" string <*> withDefault es "version" none (optional skillVersion)
    <*> withDefault es "cli_name" none (optional string)
    <*> withDefault es "cli_description" none (optional string)
    <*> withDefault es "usage_guidance" none (optional string)
    <*> withDefault es "tags" [] (list string) <*> withDefault es "compatible_with" [] (list string)
    <*> withDefault es "conflicts_with" [] (list string)
    <*> withDefault es "requires" [] (list string)
    <*> withDefault es "requires_setup" [] (list string)
    <*> withDefault es "provides_setup_for" [] (list string)

/-- Reads a skill. -/
def skill : Decoder Skill := fields fun es =>
  Skill.mk <$> required es "id" nonEmptyString <*> withDefault es "description" "" string
    <*> withDefault es "content" "" string <*> required es "metadata" metadata
    <*> withDefault es "resources" [] (table string) <*> withDefault es "path" "" string

/-- The metadata of a skill that a value holds. -/
def Metadata.ofValue (v : Value) : Except Fault Metadata :=
    (metadata v).toExcept "SkillMetadataConfig"

/-- The skill that a value holds. -/
def Skill.ofValue (v : Value) : Except Fault Skill := (skill v).toExcept "SkillRecord"

end AgentBundles.Record
