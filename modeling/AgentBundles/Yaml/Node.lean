import AgentBundles.Yaml.Token
import AgentBundles.Yaml.Tag

/-!
# Nodes

The nodes of a YAML document, made from its tokens. Every node has a tag. The parts of a collection
are known by their numbers, so that a node can be a part of several collections: an alias stands for
the number of the node that it names, and may stand inside that node.
-/

namespace AgentBundles.Yaml

/-- What is written for a node. -/
inductive Content where
  | scalar (text : String)
  | sequence (items : List Nat)
  | mapping (entries : List (Nat × Nat))
  deriving DecidableEq, Repr

/-- A node of a document. -/
structure Node where
  tag : Tag
  content : Content
  deriving DecidableEq, Repr

/-- The node that stands where nothing is written. -/
def Node.empty : Node := ⟨.null, .scalar ""⟩

/-- A document: its nodes, and the number of the node that holds the others. -/
structure Document where
  nodes : Array Node
  root : Nat
  deriving DecidableEq, Repr

/-- What is left of the tokens, the numbers of the nodes with a name, and the nodes so far; a
collection is among them before its parts are. -/
structure Supply where
  tokens : List Token
  anchors : List (String × Nat)
  nodes : Array Node

/-- The outcome of making a node: what was made, or the tokens from the fault on. -/
abbrev Made := Except (List Token)

namespace Supply

/-- The supply after the next token. -/
def next (s : Supply) : Supply := { s with tokens := s.tokens.tail }

/-- Whether the next token is `t`. -/
def sees (s : Supply) (t : Token) : Bool := s.tokens.head? == some t

/-- Whether the next token is one of `ts`. -/
def seesOneOf (s : Supply) (ts : List Token) : Bool :=
  ts.any fun t => s.sees t

/-- The failure at the next token. -/
def stop {α : Type} (s : Supply) : Made α := .error s.tokens

/-- The number of a new node that may have a name, and the supply with it. -/
def add (s : Supply) (anchor? : Option String) (node : Node) : Nat × Supply :=
  let n := s.nodes.size
  let anchors := match anchor? with
    | none => s.anchors
    | some name => (name, n) :: s.anchors
  (n, { s with anchors := anchors, nodes := s.nodes.push node })

/-- The supply with what is written for a node. -/
def complete (s : Supply) (n : Nat) (content : Content) : Supply :=
  { s with nodes := s.nodes.modify n fun node => { node with content := content } }

/-- The number of the node with a name. -/
def named? (s : Supply) (name : String) : Option Nat :=
  (s.anchors.find? fun a => a.1 == name).map (·.2)

/-- Whether a name is in use. -/
def isNamed (s : Supply) (name : String) : Bool :=
  s.anchors.any fun a => a.1 == name

end Supply

/-- What stands before a node: a name and a tag, in either order. -/
structure Properties where
  anchor : Option String
  tag : Option String

/-- The handles of tags and the names they stand for. -/
abbrev Handles := List (String × String)

/-- The handles that need no directive. -/
def defaultHandles : Handles := [("!", "!"), ("!!", standardStem)]

/-- The full name of a tag. -/
def tagName? (handles : Handles) : Option String → String → Option String
  | none, suffix => some suffix
  | some handle, suffix => (handles.find? fun h => h.1 == handle).map fun h => h.2 ++ suffix

/-- Reads the name and the tag before a node. -/
def readProperties (handles : Handles) (s : Supply) : Made (Properties × Supply) :=
  match s.tokens with
  | .anchor a :: .tag h t :: rest =>
    match tagName? handles h t with
    | some name => .ok (⟨some a, some name⟩, { s with tokens := rest })
    | none => s.stop
  | .tag h t :: .anchor a :: rest =>
    match tagName? handles h t with
    | some name => .ok (⟨some a, some name⟩, { s with tokens := rest })
    | none => s.stop
  | .anchor a :: rest => .ok (⟨some a, none⟩, { s with tokens := rest })
  | .tag h t :: rest =>
    match tagName? handles h t with
    | some name => .ok (⟨none, some name⟩, { s with tokens := rest })
    | none => s.stop
  | _ => .ok (⟨none, none⟩, s)

namespace Properties

/-- The tag of a scalar: by its form if it is plain and untagged, or tagged by `!` alone. -/
def scalarTag (p : Properties) (plain : Bool) (text : String) : Tag :=
  match p.tag with
  | none => if plain then implicitTag text else .str
  | some "!" => implicitTag text
  | some name => Tag.ofName name

/-- The tag of a collection, which is `fallback` unless another is given. -/
def collectionTag (p : Properties) (fallback : Tag) : Tag :=
  match p.tag with
  | none => fallback
  | some "!" => fallback
  | some name => Tag.ofName name

end Properties

mutual

/-- Makes a node. Block collections are allowed in a block; a sequence without indentation is
allowed as the key or value of a block mapping. -/
def makeNode (handles : Handles) (block flush : Bool) : Nat → Supply → Made (Nat × Supply)
  | 0, s => s.stop
  | fuel + 1, s =>
    match s.tokens with
    | .alias name :: _ =>
      match s.named? name with
      | some n => .ok (n, s.next)
      | none => s.stop
    | _ => do
      let (p, s) ← readProperties handles s
      if (p.anchor.map s.isNamed).getD false then s.stop
      else if flush && s.sees .blockEntry then do
        let (n, s) := s.add p.anchor ⟨p.collectionTag .seq, .sequence []⟩
        let (items, s) ← makeFlushItems handles fuel s
        return (n, s.complete n (.sequence items))
      else
        match s.tokens with
        | .scalar text plain :: _ =>
            return s.next.add p.anchor ⟨p.scalarTag plain text, .scalar text⟩
        | .flowSequenceStart :: _ => do
          let (n, s) := s.next.add p.anchor ⟨p.collectionTag .seq, .sequence []⟩
          let (items, s) ← makeFlowItems handles true fuel s
          return (n, s.complete n (.sequence items))
        | .flowMappingStart :: _ => do
          let (n, s) := s.next.add p.anchor ⟨p.collectionTag .map, .mapping []⟩
          let (entries, s) ← makeFlowEntries handles true fuel s
          return (n, s.complete n (.mapping entries))
        | .blockSequenceStart :: _ =>
          if block then do
            let (n, s) := s.next.add p.anchor ⟨p.collectionTag .seq, .sequence []⟩
            let (items, s) ← makeBlockItems handles fuel s
            return (n, s.complete n (.sequence items))
          else
            makeUntitled p s
        | .blockMappingStart :: _ =>
          if block then do
            let (n, s) := s.next.add p.anchor ⟨p.collectionTag .map, .mapping []⟩
            let (entries, s) ← makeBlockEntries handles fuel s
            return (n, s.complete n (.mapping entries))
          else
            makeUntitled p s
        | _ => makeUntitled p s

/-- Makes the empty scalar that a name or a tag may have. -/
def makeUntitled (p : Properties) (s : Supply) : Made (Nat × Supply) :=
  if p.anchor.isSome || p.tag.isSome then
    .ok (s.add p.anchor ⟨p.scalarTag p.tag.isNone "", .scalar ""⟩)
  else
    s.stop

/-- Makes a node, or the empty one before a token of `enders`. -/
def makeOptional (handles : Handles) (block flush : Bool) (enders : List Token) :
    Nat → Supply → Made (Nat × Supply)
  | 0, s => s.stop
  | fuel + 1, s =>
      if s.seesOneOf enders then .ok (s.add none .empty) else makeNode handles block flush fuel s

/-- Makes the items of a block sequence up to its end. -/
def makeBlockItems (handles : Handles) : Nat → Supply → Made (List Nat × Supply)
  | 0, s => s.stop
  | fuel + 1, s =>
    if s.sees .blockEntry then do
      let (item, s) ← makeOptional handles true false [.blockEntry, .blockEnd] fuel s.next
      let (items, s) ← makeBlockItems handles fuel s
      return (item :: items, s)
    else if s.sees .blockEnd then
      .ok ([], s.next)
    else
      s.stop

/-- Makes the items of a sequence that is not indented beyond the mapping around it. -/
def makeFlushItems (handles : Handles) : Nat → Supply → Made (List Nat × Supply)
  | 0, s => s.stop
  | fuel + 1, s =>
    if s.sees .blockEntry then do
      let (item, s) ← makeOptional handles true false [.blockEntry, .key, .value,
        .blockEnd] fuel s.next
      let (items, s) ← makeFlushItems handles fuel s
      return (item :: items, s)
    else
      .ok ([], s)

/-- Makes the value after a key, which is empty without a colon. -/
def makeValue (handles : Handles) (block : Bool) (enders : List Token) : Nat → Supply →
    Made (Nat × Supply)
  | 0, s => s.stop
  | fuel + 1, s =>
    if s.sees .value then makeOptional handles block block enders fuel s.next
      else .ok (s.add none .empty)

/-- Makes the entries of a block mapping up to its end. -/
def makeBlockEntries (handles : Handles) : Nat → Supply → Made (List (Nat × Nat) × Supply)
  | 0, s => s.stop
  | fuel + 1, s =>
    if s.sees .key then do
      let (key, s) ← makeOptional handles true true [.key, .value, .blockEnd] fuel s.next
      let (value, s) ← makeValue handles true [.key, .value, .blockEnd] fuel s
      let (entries, s) ← makeBlockEntries handles fuel s
      return ((key, value) :: entries, s)
    else if s.sees .blockEnd then
      .ok ([], s.next)
    else
      s.stop

/-- Makes the items of a flow sequence up to its closing mark; commas stand before all but the
first. A key in the sequence is an item that is a mapping with one entry. -/
def makeFlowItems (handles : Handles) (first : Bool) : Nat → Supply → Made (List Nat × Supply)
  | 0, s => s.stop
  | fuel + 1, s =>
    if s.sees .flowSequenceEnd then
      .ok ([], s.next)
    else if !first && !s.sees .flowEntry then
      s.stop
    else
      let s := if first then s else s.next
      if s.sees .key then do
        let (key, s) ← makeOptional handles false false [.value, .flowEntry,
          .flowSequenceEnd] fuel s.next
        let (value, s) ← makeValue handles false [.flowEntry, .flowSequenceEnd] fuel s
        let (n, s) := s.add none ⟨.map, .mapping [(key, value)]⟩
        let (items, s) ← makeFlowItems handles false fuel s
        return (n :: items, s)
      else if s.sees .flowSequenceEnd then
        .ok ([], s.next)
      else do
        let (item, s) ← makeNode handles false false fuel s
        let (items, s) ← makeFlowItems handles false fuel s
        return (item :: items, s)

/-- Makes the entries of a flow mapping up to its closing mark; commas stand before all but the
first, and a key may stand alone. -/
def makeFlowEntries (handles : Handles) (first : Bool) : Nat → Supply →
    Made (List (Nat × Nat) × Supply)
  | 0, s => s.stop
  | fuel + 1, s =>
    if s.sees .flowMappingEnd then
      .ok ([], s.next)
    else if !first && !s.sees .flowEntry then
      s.stop
    else
      let s := if first then s else s.next
      if s.sees .key then do
        let (key, s) ← makeOptional handles false false [.value, .flowEntry,
          .flowMappingEnd] fuel s.next
        let (value, s) ← makeValue handles false [.flowEntry, .flowMappingEnd] fuel s
        let (entries, s) ← makeFlowEntries handles false fuel s
        return ((key, value) :: entries, s)
      else if s.sees .flowMappingEnd then
        .ok ([], s.next)
      else do
        let (key, s) ← makeNode handles false false fuel s
        let (value, s) := s.add none .empty
        let (entries, s) ← makeFlowEntries handles false fuel s
        return ((key, value) :: entries, s)

end

/-- Reads the directives before a document: at most one version, which has to be 1, and a handle at
most once. -/
def readDirectives (versionSeen : Bool) (handles : Handles) :
    List Token → Made (Handles × List Token)
  | .version major :: rest =>
    if versionSeen || major ≠ 1 then .error (.version major :: rest)
    else readDirectives true handles rest
  | .tagHandle handle name :: rest =>
    if handles.any fun h => h.1 == handle then .error (.tagHandle handle name :: rest)
    else readDirectives versionSeen ((handle, name) :: handles) rest
  | .otherDirective :: rest => readDirectives versionSeen handles rest
  | rest => .ok (handles, rest)

/-- The fuel that suffices for making the nodes of so many tokens. -/
def nodeFuel (ts : List Token) : Nat := 4 * ts.length + 4

/-- Whether tokens start with directives or the start of a document. -/
def startsDocument : List Token → Bool
  | .version _ :: _ => true
  | .tagHandle _ _ :: _ => true
  | .otherDirective :: _ => true
  | .documentStart :: _ => true
  | _ => false

/-- The content of a document after its start; nothing may stand for the empty node. -/
def makeContent (handles : Handles) (ts : List Token) : Made (Nat × Supply) :=
  if ts.isEmpty || startsDocument ts || ts.head? == some .documentEnd then
    .ok (Supply.add ⟨ts, [], #[]⟩ none .empty)
  else
    makeNode handles true false (nodeFuel ts) ⟨ts, [], #[]⟩

/-- The only document that tokens describe, if there is one. -/
def makeDocument (ts : List Token) : Made (Option Document) := do
  if ts.isEmpty then
    return none
  let (root, s) ←
    if startsDocument ts then do
      let (handles, ts) ← readDirectives false [] ts
      match ts with
      | .documentStart :: ts => makeContent (handles ++ defaultHandles) ts
      | _ => .error ts
    else
      makeNode defaultHandles true false (nodeFuel ts) ⟨ts, [], #[]⟩
  match s.tokens.dropWhile (· == .documentEnd) with
  | [] => return some ⟨s.nodes, root⟩
  | rest => .error rest

/-- Whether a character may stand in a text. -/
def isAllowed (c : Char) : Bool :=
  let n := c.toNat
  n == 0x09 || n == 0x0A || n == 0x0D || (0x20 ≤ n && n ≤ 0x7E) || n == 0x85 ||
    (0xA0 ≤ n && n ≤ 0xD7FF) || (0xE000 ≤ n && n ≤ 0xFFFD) || 0x10000 ≤ n

/-- The only document that a text describes, if there is one. -/
def document (text : String) : Result (Option Document) :=
  let cs := text.toList
  if !cs.all isAllowed then
    .error .malformed
  else
    let (ts, fault?) := tokens cs
    match makeDocument ts, fault? with
    | .ok document?, none => .ok document?
    | .ok _, some e => .error e
    | .error [], some e => .error e
    | .error _, _ => .error .malformed

end AgentBundles.Yaml
