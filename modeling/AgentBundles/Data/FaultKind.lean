/-!
# Kinds of faults

Every fault is of a kind. Most faults can be mended in the inputs, and a command reports them; the
others come from values that nothing provides for, and end the program.
-/

namespace AgentBundles

/-- A kind of faults. -/
inductive FaultKind where
  /-- A value is of the right type, but not one of those allowed. -/
  | value
  /-- A value is of the wrong type. -/
  | type
  /-- There is nothing under a key. -/
  | key
  /-- A value has no part of a name. -/
  | attribute
  /-- A list or text is too short. -/
  | index
  /-- A number is too large. -/
  | overflow
  /-- Something has no end. -/
  | recursion
  /-- Something is asked for that is not meant for it. -/
  | assertion
  /-- A text is not YAML. -/
  | yaml
  /-- A text is not JSON. -/
  | json
  /-- A value does not describe a record. -/
  | record
  /-- Bytes are no text. -/
  | decoding
  /-- A text has no bytes in a character set. -/
  | encoding
  /-- A text does not say in which order its bytes are. -/
  | byteOrder
  /-- A text is no web address. -/
  | address
  /-- A text is no domain name. -/
  | domain
  /-- A character may not stand in a domain name. -/
  | codePoint
  /-- A character may not stand in its place in a domain name. -/
  | codePointContext
  /-- The directions of the characters of a domain name do not fit together. -/
  | direction
  | missingFile
  | fileExists
  | notDirectory
  | isDirectory
  /-- A name is too long for a file. -/
  | fileName
  /-- A source of documents cannot give one. -/
  | source
  /-- A source has no such template. -/
  | template
  /-- A stack cannot be built. -/
  | build
  /-- Skills do not make a catalog. -/
  | catalog
  /-- An identifier occurs twice. -/
  | duplicate
  /-- Something refers to a skill that is not there. -/
  | reference
  /-- A profile refers to something that is not there. -/
  | profile
  /-- A bundle has not passed validation. -/
  | unvalidated
  deriving DecidableEq, Repr

/-- Whether faults of a kind are reported. -/
def FaultKind.isReported : FaultKind → Bool
  | .type => false
  | .key => false
  | .attribute => false
  | .index => false
  | .overflow => false
  | .recursion => false
  | .assertion => false
  | .yaml => false
  | .address => false
  | _ => true

end AgentBundles
