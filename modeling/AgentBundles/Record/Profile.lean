import AgentBundles.Record.Decode

/-!
# Agent profiles

What an agent is made of: a base template, partials before and after the skills, preloaded skills,
and the fields of its header.
-/

namespace AgentBundles

namespace Record

/-- An agent profile without its name. -/
structure Profile where
  description : String
  template : String
  partials : List String
  endingPartials : List String
  preloadedSkills : List String
  tools : List String
  disallowedTools : List String
  model : Option String
  permissionMode : Option String
  deriving DecidableEq, Repr

/-- Reads a profile. -/
def profile : Decoder Profile := fields fun es =>
  Profile.mk <$> withDefault es "description" "" string <*> withDefault es "template" "agent" string
    <*> withDefault es "partials" [] (list string)
    <*> withDefault es "ending_partials" [] (list string)
    <*> withDefault es "preloaded_skills" [] (list string)
    <*> withDefault es "tools" [] (list string)
    <*> withDefault es "disallowed_tools" [] (list string)
    <*> withDefault es "model" none (optional string)
    <*> withDefault es "permission_mode" none (optional string)

/-- Reads the profiles of all agents. -/
def profiles : Decoder (Table Profile) := fields fun es =>
  withDefault es "agents" [] (table profile)

/-- The profile that a value holds. -/
def Profile.ofValue (v : Value) : Except Fault Profile := (profile v).toExcept "AgentProfileConfig"

/-- The profiles that a value holds. -/
def profilesOfValue (v : Value) : Except Fault (Table Profile) :=
    (profiles v).toExcept "ProfilesConfig"

end Record

/-- A named agent profile. -/
structure AgentProfile where
  name : String
  settings : Record.Profile
  deriving DecidableEq, Repr

namespace AgentProfile

/-- The identifiers of the partials, those before the skills first. -/
def partialIds (p : AgentProfile) : List String :=
  p.settings.partials ++ p.settings.endingPartials

/-- The identifiers of all templates that a profile needs, each once, in the order of the
document. -/
def templateIds (p : AgentProfile) : List String :=
  Text.distinct (p.settings.template :: p.partialIds)

end AgentProfile

end AgentBundles
