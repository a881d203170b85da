import AgentBundles.Yaml.Node
import AgentBundles.Yaml.ScalarValue

/-!
# Reading YAML

`Yaml.read` turns YAML text into a value. Nodes are visited level by level: what a scalar stands for
is found when it is met, and the parts of a collection only after everything on the level above it.
So of several faults the one at the least depth counts, and of those the first. A node is read once,
however many aliases name it.

Under the merge key a mapping names other mappings, one or a list of them, whose entries come before
its own. `absorb` puts those entries into a mapping, and into the mappings that it names. Afterwards
no key of the mapping is a merge key, and a key that stands for the default value of a mapping is a
text.
-/

namespace AgentBundles.Yaml

/-! ### Merge keys -/

/-- The tag of a node. -/
def tagOf (nodes : Array Node) (n : Nat) : Tag :=
  ((nodes[n]?).map (·.tag)).getD .null

/-- What is written for a node. -/
def contentOf (nodes : Array Node) (n : Nat) : Content :=
  ((nodes[n]?).map (·.content)).getD (.scalar "")

/-- The entries of a mapping. -/
def entriesOf (nodes : Array Node) (n : Nat) : List (Nat × Nat) :=
  match contentOf nodes n with
  | .mapping entries => entries
  | _ => []

/-- The nodes with other entries for a mapping. -/
def withEntries (nodes : Array Node) (n : Nat) (entries : List (Nat × Nat)) : Array Node :=
  nodes.modify n fun node => { node with content := .mapping entries }

/-- The nodes with a text for a node that stands for the default value of a mapping. -/
def settleKey (nodes : Array Node) (n : Nat) : Array Node :=
  if tagOf nodes n = .value then nodes.modify n fun node => { node with tag := .str } else nodes

/-- The value of the first merge key of some entries, and the entries without it. -/
def takeMerge? (nodes : Array Node) : List (Nat × Nat) → Option (Nat × List (Nat × Nat))
  | [] => none
  | e :: rest =>
    if tagOf nodes e.1 = .merge then some (e.2, rest)
    else (takeMerge? nodes rest).map fun r => (r.1, e :: r.2)

/-- Absorbs into a mapping the entries that its merge keys name, after those in `added`. Every step
takes a merge key away, so there are no more steps than merge keys. -/
def absorb : Nat → List (Nat × Nat) → Array Node → Nat → Result (Array Node)
  | 0, _, _, _ => .error .malformed
  | fuel + 1, added, nodes, n =>
    match takeMerge? nodes (entriesOf nodes n) with
    | none =>
      let entries := entriesOf nodes n
      .ok (withEntries (entries.foldl (fun nodes e => settleKey nodes e.1) nodes) n
        (added ++ entries))
    | some (named, rest) =>
      let nodes := withEntries nodes n rest
      match contentOf nodes named with
      | .mapping _ => do
        let nodes ← absorb fuel [] nodes named
        absorb fuel (added ++ entriesOf nodes named) nodes n
      | .sequence items => do
        let (lists, nodes) ← items.foldlM (fun (lists, nodes) item =>
          match contentOf nodes item with
          | .mapping _ => do
            let nodes ← absorb fuel [] nodes item
            return (entriesOf nodes item :: lists, nodes)
          | _ => throw .malformed) ([], nodes)
        absorb fuel (added ++ lists.flatten) nodes n
      | .scalar _ => .error .malformed

/-- More than the count of merge keys. -/
def mergeFuel (nodes : Array Node) : Nat :=
  nodes.foldl (fun count node =>
    match node.content with
    | .mapping entries => count + entries.length
    | _ => count) 1

/-- The nodes with a mapping that has no merge keys. -/
def mergeNode (nodes : Array Node) (n : Nat) : Result (Array Node) :=
  absorb (mergeFuel nodes) [] nodes n

/-! ### Visiting nodes -/

/-- What a node stands for; the parts of a collection that may be collections are given by their
numbers. -/
inductive Part where
  | scalar (v : Value)
  | list (items : List Nat)
  | map (entries : Entries Nat)
  | set (members : List Value)
  | pairs (pairs : List (Nat × Nat))
  deriving Repr

/-- What is known of the nodes of a document on the way through it: the nodes, what those that have
been met stand for, and the collections whose parts have not been visited, the first one first. -/
structure Visit where
  nodes : Array Node
  parts : Array (Option Part)
  waiting : List Nat

/-- The collection that a tag stands for, before it is filled. -/
def Tag.collection? : Tag → Option Part
  | .seq => some (.list [])
  | .map => some (.map [])
  | .set => some (.set [])
  | .orderedMap => some (.pairs [])
  | .pairs => some (.pairs [])
  | _ => none

/-- The text of a scalar, or of a mapping that has a default value. A chain of default values that
is longer than the document has no end. -/
def textOf (nodes : Array Node) : Nat → Nat → Result String
  | 0, _ => .error .endless
  | fuel + 1, n =>
    match contentOf nodes n with
    | .scalar text => .ok text
    | .sequence _ => .error .malformed
    | .mapping entries =>
      match entries.find? fun e => tagOf nodes e.1 = .value with
      | some e => textOf nodes fuel e.2
      | none => .error .malformed

/-- Whether a tag says nothing about the value of a node. -/
def Tag.isUnknown : Tag → Bool
  | .merge => true
  | .value => true
  | .other _ => true
  | _ => false

/-- What a node that is no collection stands for. -/
def scalarOf (nodes : Array Node) (n : Nat) : Result Value :=
  if (tagOf nodes n).isUnknown then
    .error .malformed
  else do
    let text ← textOf nodes (nodes.size + 1) n
    match tagOf nodes n, contentOf nodes n with
    | .timestamp, .mapping _ => throw .timestampOfMapping
    | tag, _ => scalarValue tag (n + 1) text

namespace Visit

/-- What a node stands for, if it has been met. -/
def part? (s : Visit) (n : Nat) : Option Part := (s.parts[n]?).join

/-- The visit with what a node stands for. -/
def setPart (s : Visit) (n : Nat) (part : Part) : Visit :=
  { s with parts := s.parts.modify n fun _ => some part }

/-- Meets a node, unless it has been met. -/
def meet (s : Visit) (n : Nat) : Result Visit :=
  match s.part? n, (tagOf s.nodes n).collection? with
  | some _, _ => .ok s
  | none, some part => .ok { s.setPart n part with waiting := s.waiting ++ [n] }
  | none, none => do
    let v ← scalarOf s.nodes n
    return s.setPart n (.scalar v)

/-- Meets the entries of a mapping; each key has to be a scalar. -/
def meetEntries (s : Visit) : List (Nat × Nat) → Result (Entries Nat × Visit)
  | [] => .ok ([], s)
  | (k, v) :: rest => do
    let s ← s.meet k
    match s.part? k with
    | some (.scalar key) => do
      let s ← s.meet v
      let (entries, s) ← s.meetEntries rest
      return ((key, v) :: entries, s)
    | _ => throw .malformed

/-- Meets the keys and values of mappings with one entry each. -/
def meetPairs (s : Visit) : List Nat → Result (List (Nat × Nat) × Visit)
  | [] => .ok ([], s)
  | n :: ns =>
    match contentOf s.nodes n with
    | .mapping [(k, v)] => do
      let s ← s.meet k
      let s ← s.meet v
      let (pairs, s) ← s.meetPairs ns
      return ((k, v) :: pairs, s)
    | _ => throw .malformed

/-- The entries of a mapping without merge keys, a key that is written again at its first place. -/
def mappingEntries (s : Visit) (n : Nat) : Result (Entries Nat × Visit) :=
  match contentOf s.nodes n with
  | .mapping _ => do
    let nodes ← mergeNode s.nodes n
    let (entries, s) ← { s with nodes := nodes }.meetEntries (entriesOf nodes n)
    return (Entries.ofList entries, s)
  | _ => throw .malformed

/-- Fills a collection that has been met. -/
def fill (s : Visit) (n : Nat) : Result Visit := do
  match tagOf s.nodes n, contentOf s.nodes n with
  | .seq, .sequence items =>
    let s ← items.foldlM meet s
    return s.setPart n (.list items)
  | .map, _ =>
    let (entries, s) ← s.mappingEntries n
    return s.setPart n (.map entries)
  | .set, _ =>
    let (entries, s) ← s.mappingEntries n
    return s.setPart n (.set (entries.map (·.1)))
  | .orderedMap, .sequence items =>
    let (pairs, s) ← s.meetPairs items
    return s.setPart n (.pairs pairs)
  | .pairs, .sequence items =>
    let (pairs, s) ← s.meetPairs items
    return s.setPart n (.pairs pairs)
  | _, _ => throw .malformed

/-- Fills all collections that have been met. Each node is met once, so there are no more steps than
nodes. -/
def fillAll : Nat → Visit → Result Visit
  | 0, s => .ok s
  | fuel + 1, s =>
    match s.waiting with
    | [] => .ok s
    | n :: waiting => do fillAll fuel (← { s with waiting := waiting }.fill n)

end Visit

/-! ### Values -/

/-- A value, and how many levels further out the collections that it refers to are at most; one
without such references stands alone. -/
structure Placed where
  value : Value
  reach : Nat

/-- The values found so far that stand alone. -/
abbrev Found := Array (Option Value)

/-- A value in a collection of its own. -/
def Placed.level (p : Placed) : Nat := p.reach - 1

/-- The value of a node inside some collections, of which the innermost one is the first; a pair
counts as a collection without number. -/
def place (parts : Array (Option Part)) : Nat → List (Option Nat) → Nat → StateM Found Placed
  | 0, _, _ => return ⟨.null, 0⟩
  | fuel + 1, outer, n => do
    match outer.findIdx? (· == some n), ((← get)[n]?).join, (parts[n]?).join with
    | some level, _, _ => return ⟨.enclosing level, level + 1⟩
    | none, some v, _ => return ⟨v, 0⟩
    | none, none, some (.scalar v) => return ⟨v, 0⟩
    | none, none, some (.set members) => return ⟨.set members, 0⟩
    | none, none, some (.list items) => do
      let items ← items.mapM (place parts fuel (some n :: outer))
      keep n (.list (items.map (·.value))) items
    | none, none, some (.map entries) => do
      let values ← entries.mapM fun e => place parts fuel (some n :: outer) e.2
      keep n (.map ((entries.map (·.1)).zip (values.map (·.value)))) values
    | none, none, some (.pairs pairs) => do
      let pairs ← pairs.mapM fun p => do
        let first ← place parts fuel (none :: some n :: outer) p.1
        let second ← place parts fuel (none :: some n :: outer) p.2
        return (⟨.pair first.value second.value, max first.level second.level⟩ : Placed)
      keep n (.list (pairs.map (·.value))) pairs
    | none, none, none => return ⟨.null, 0⟩
where
  /-- A collection with parts, which is remembered if it stands alone. -/
  keep (n : Nat) (v : Value) (inner : List Placed) : StateM Found Placed := do
    let reach := inner.foldl (fun reach p => max reach p.level) 0
    if reach = 0 then
      modify fun found => found.modify n fun _ => some v
    return ⟨v, reach⟩

/-- The value of a document. -/
def Document.value (d : Document) : Result Value := do
  let s ← Visit.meet ⟨d.nodes, d.nodes.map fun _ => none, []⟩ d.root
  let s ← Visit.fillAll (d.nodes.size + 1) s
  return ((place s.parts (d.nodes.size + 1) [] d.root).run (d.nodes.map fun _ => none)).1.value

/-- The value that a text describes; a text without a document describes nothing. -/
def read (text : String) : Result Value := do
  match ← document text with
  | some d => d.value
  | none => return .null

end AgentBundles.Yaml
