import AgentBundles.Record.Decode

/-!
# Stacks

The definition of a bundle: its name and description, the selected skills, the agents, which
categories of skills concern which agent, and hooks.
-/

namespace AgentBundles.Record

/-- A stack. -/
structure Stack where
  name : String
  version : String
  author : Option String
  authorEmail : Option String
  description : Option String
  skills : List String
  agents : List String
  routing : Table (List String)
  hooks : Table (List Value)
  tags : List String
  philosophy : Option String
  principles : List String
  deriving Repr

/-- Reads a mapping with text keys, as it is. -/
def openTable (v : Value) : Decoded Value :=
  (table anything v).map Value.ofFields

/-- Reads a stack. -/
def stack : Decoder Stack := fields fun es =>
  Stack.mk <$> required es "name" string <*> withDefault es "version" "1.0.0" string
    <*> withDefault es "author" none (optional string)
    <*> withDefault es "author_email" none (optional string)
    <*> withDefault es "description" none (optional string)
    <*> withDefault es "skills" [] (list string) <*> withDefault es "agents" [] (list string)
    <*> withDefault es "routing" [] (table (list string))
    <*> withDefault es "hooks" [] (table (list openTable))
    <*> withDefault es "tags" [] (list string)
    <*> withDefault es "philosophy" none (optional string)
    <*> withDefault es "principles" [] (list string)

/-- The stack that a value holds. -/
def Stack.ofValue (v : Value) : Except Fault Stack := (stack v).toExcept "StackConfig"

end AgentBundles.Record
