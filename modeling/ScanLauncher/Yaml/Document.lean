import ScanLauncher.Yaml.Node

/-!
The value of a YAML document. Nodes are made into values level by level: a collection is filled only
after the collections that were met before it, so the first fault is the one nearest to the root. A
mapping may merge other mappings, whose entries then come first; keys must be values that can be
keys. A node that has been made is never made again, so all its aliases have one value.
-/
namespace ScanLauncher.Yaml

/-- What a node's tag makes of it. -/
inductive Construction where
  | null
  | bool
  | int
  | float
  | timestamp
  | text
  | binary
  | sequence
  | mapping
  | set
  | pairs
deriving DecidableEq, Repr

namespace Construction

/-- The tags that have a meaning, by their names. -/
def names : List (String × Construction) := [
  ("null", null), ("bool", bool), ("int", int), ("float", float), ("timestamp", timestamp),
  ("str", text), ("binary", binary), ("seq", sequence), ("map", mapping), ("set", set),
  ("omap", pairs), ("pairs", pairs)]

/-- The construction that a tag asks for. -/
def ofTag? (tag : String) : Option Construction :=
  (names.find? fun (name, _) => tag == standardTag ++ name).map (·.2)

/-- Whether the result is filled in after its siblings were made. -/
def isCollection : Construction → Bool
  | sequence | mapping | set | pairs => true
  | _ => false

end Construction

/-- A node that has been made: a value of its own, or a collection with its members. -/
inductive Made where
  | leaf (value : Value)
  /-- A collection that is not filled yet. -/
  | waiting (construction : Construction)
  | list (items : List NodeId)
  | map (entries : List (NodeId × NodeId))
  | set (entries : List (NodeId × NodeId))
  | pairs (entries : List (NodeId × NodeId))
deriving Repr

/-- The nodes, what was made of them, and the collections met since the last level, the latest
first. -/
structure Making where
  nodes : Nodes
  made : Array (Option Made)
  met : List NodeId

/-- A step of making values. -/
abbrev Maker := StateT Making (Except Fault)

namespace Maker

/-- Gives up. -/
def fail {α : Type} (fault : Fault) : Maker α := fun _ => .error fault

/-- A node by its number. -/
def node (id : NodeId) : Maker Node := do return ((← get).nodes[id]?).getD Node.empty

/-- Changes a node. -/
def modifyNode (id : NodeId) (f : Node → Node) : Maker Unit :=
  modify fun m => { m with nodes := m.nodes.modify id f }

/-- The entries of a node, if it is a mapping. -/
def entries (id : NodeId) : Maker (List (NodeId × NodeId)) := do
  match (← node id).content with
  | .mapping entries => return entries
  | _ => return []

/-- Replaces the entries of a mapping. -/
def setEntries (id : NodeId) (entries : List (NodeId × NodeId)) : Maker Unit :=
  modifyNode id fun n => { n with content := .mapping entries }

/-- Goes through the entries of a mapping from place `index` on. An entry whose key is the merge
mark is taken out, and what `merge` gives for its value is collected; a default mark becomes a text.
In the end the collected entries are put in front. -/
def mergeFrom (merge : NodeId → Maker (List (NodeId × NodeId))) (id : NodeId) :
    (steps index : Nat) → (merged : List (NodeId × NodeId)) → Maker Unit
  | 0, _, merged => do setEntries id (merged ++ (← entries id))
  | steps + 1, index, merged => do
    match (← entries id)[index]? with
    | none => setEntries id (merged ++ (← entries id))
    | some (key, value) =>
      let tag := (← node key).tag
      if tag == ScalarKind.merge.tag then
        setEntries id ((← entries id).eraseIdx index)
        mergeFrom merge id steps index (merged ++ (← merge value))
      else
        if tag == ScalarKind.default.tag then
          modifyNode key fun n => { n with tag := ScalarKind.text.tag }
        mergeFrom merge id steps (index + 1) merged

/-- Carries out the merges of a mapping. A list of mappings is merged from last to first. -/
def flatten : (depth : Nat) → NodeId → Maker Unit
  | 0, _ => fail .tooDeep
  | depth + 1, id => do
    let mapping (id : NodeId) : Maker (List (NodeId × NodeId)) := do
      match (← node id).content with
      | .mapping _ =>
        flatten depth id
        entries id
      | _ => fail .malformed
    let merge (value : NodeId) : Maker (List (NodeId × NodeId)) := do
      match (← node value).content with
      | .sequence items => return (← items.mapM mapping).reverse.flatten
      | _ => mapping value
    mergeFrom merge id (← entries id).length 0 []

/-- The text of a node that is made as a scalar; a mapping gives its default value. -/
def scalarText : (depth : Nat) → NodeId → Maker Text
  | 0, _ => fail .tooDeep
  | depth + 1, id => do
    match (← node id).content with
    | .scalar text => return text
    | .sequence _ => fail .malformed
    | .mapping entries =>
      let isDefault (entry : NodeId × NodeId) : Maker Bool := do
        return (← node entry.1).tag == ScalarKind.default.tag
      match ← entries.findM? isDefault with
      | some entry => scalarText depth entry.2
      | none => fail .malformed

/-- More levels than nodes can be nested without a cycle. -/
def depthBound : Maker Nat := do return (← get).nodes.size + 1

/-- The value of a node that is no collection. -/
def leafValue (construction : Construction) (id : NodeId) : Maker Value := do
  let text ← scalarText (← depthBound) id
  let reading : Except Fault Value :=
    match construction with
    | .null => .ok .null
    | .bool => (readBool text).map .bool
    | .int => (readInt text).map .int
    | .float => readFloat text (id + Value.nanLabel + 1)
    | .timestamp => readTimestamp text
    | .binary => (readBinary text).map .bytes
    | _ => .ok (.text text)
  match construction, (← node id).content, reading with
  | .timestamp, .mapping _, _ => fail .wrongKind
  | _, _, .ok value => return value
  | _, _, .error fault => fail fault

/-- Notes what was made of a node. -/
def record (id : NodeId) (made : Made) : Maker Unit :=
  modify fun m => { m with made := m.made.setIfInBounds id (some made) }

/-- What was made of a node. -/
def made? (id : NodeId) : Maker (Option Made) := do return ((← get).made[id]?).join

/-- Makes a node, unless that was done before. A collection is left to be filled. -/
def make (id : NodeId) : Maker Unit := do
  if (← made? id).isNone then
    match Construction.ofTag? (← node id).tag with
    | none => fail .malformed
    | some construction =>
      if construction.isCollection then
        record id (.waiting construction)
        modify fun m => { m with met := id :: m.met }
      else record id (.leaf (← leafValue construction id))

/-- Makes the entries of a mapping; a key must not be a collection. -/
def makeEntries (id : NodeId) : Maker (List (NodeId × NodeId)) := do
  match (← node id).content with
  | .mapping _ =>
    flatten (← depthBound) id
    let all ← entries id
    all.forM fun (key, value) => do
      make key
      match ← made? key with
      | some (.leaf _) => make value
      | _ => fail .malformed
    return all
  | _ => fail .malformed

/-- Makes the only entry of a mapping, which may have any key. -/
def makePair (id : NodeId) : Maker (NodeId × NodeId) := do
  match (← node id).content with
  | .mapping [(key, value)] =>
    make key
    make value
    return (key, value)
  | _ => fail .malformed

/-- Fills a collection. -/
def fillCollection (id : NodeId) : Maker Unit := do
  match ← made? id, (← node id).content with
  | some (.waiting .sequence), .sequence items =>
    items.forM make
    record id (.list items)
  | some (.waiting .pairs), .sequence items => record id (.pairs (← items.mapM makePair))
  | some (.waiting .mapping), _ => record id (.map (← makeEntries id))
  | some (.waiting .set), _ => record id (.set (← makeEntries id))
  | _, _ => fail .malformed

/-- Fills the collections that were met, level by level. -/
def fillLevels : (fuel : Nat) → Maker Unit
  | 0 => pure ()
  | fuel + 1 => do
    let level := (← get).met.reverse
    unless level.isEmpty do
      modify fun m => { m with met := [] }
      level.forM fillCollection
      fillLevels fuel

end Maker

/-- The values that are known of nodes, whatever stands around them. -/
abbrev Known := Array (Option Value)

/-- How often a collection that holds itself is written out inside itself. -/
def cycleLimit : Nat := 2

/-- The value of a node below the collections in `path`, and those of them that it depends on
because it holds them in turn. A value that depends on none is kept. -/
def valueOf (made : Array (Option Made)) :
    (fuel : Nat) → (path : List NodeId) → NodeId → StateM Known (Value × List NodeId)
  | 0, _, _ => return (.null, [])
  | fuel + 1, path, id => do
    let inside (item : NodeId) := valueOf made fuel (id :: path) item
    let collection (isMap : Bool) (fill : StateM Known (Value × List NodeId)) :
        StateM Known (Value × List NodeId) := do
      if path.count id ≥ cycleLimit then return (.cycle isMap, [id])
      let (value, needed) ← fill
      if path.contains id then return (value, id :: needed)
      let needed := needed.filter (· != id)
      if needed.isEmpty then modify fun known => known.setIfInBounds id (some value)
      return (value, needed)
    let filled (entries : List (NodeId × NodeId)) (assemble : List (Value × Value) → Value) :
        StateM Known (Value × List NodeId) := do
      let parts ← entries.mapM fun (key, value) => do
        let (key, first) ← inside key
        let (value, second) ← inside value
        return ((key, value), first ++ second)
      return (assemble (parts.map (·.1)), parts.flatMap (·.2))
    match ((← get)[id]?).join, (made[id]?).join with
    | some value, _ => return (value, [])
    | _, some (.leaf value) => return (value, [])
    | _, some (.list items) =>
      collection false do
        let parts ← items.mapM inside
        return (.list (parts.map (·.1)), parts.flatMap (·.2))
    | _, some (.map entries) => collection true (filled entries fun ps => .map (Entries.ofPairs ps))
    | _, some (.set entries) =>
      collection true (filled entries fun ps => .set ((Entries.ofPairs ps).map (·.1)))
    | _, some (.pairs entries) =>
      collection false (filled entries fun ps => .list (ps.map fun p => .pair p.1 p.2))
    | _, _ => return (.null, [])

/-- The value of a document. -/
def Document.toValue (document : Document) : Except Fault Value := do
  let size := document.nodes.size
  let first : Making := ⟨document.nodes, Array.replicate size none, []⟩
  let work : Maker Unit := do
    Maker.make document.root
    Maker.fillLevels (size + 1)
  let (_, last) ← work.run first
  let known : Known := Array.replicate size none
  return ((valueOf last.made (cycleLimit * size + 2) [] document.root).run known).1.1

/-- The value of a text, which holds at most one document; an empty text holds null. -/
def load (source : Source) : Except Fault Value := do
  match ← Document.ofTokens? (.ofSource source) with
  | some document => document.toValue
  | none => return .null

end ScanLauncher.Yaml
