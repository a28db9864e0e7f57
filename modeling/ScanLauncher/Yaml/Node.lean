import ScanLauncher.Yaml.Scalar
import ScanLauncher.Yaml.Token.Stream

/-!
The nodes of a YAML document: scalars, sequences and mappings, each with its tag. The nodes are kept
in a table and refer to each other by number, because an alias stands for the very node its anchor
names: a collection may be in several places, and even inside itself.
-/
namespace ScanLauncher.Yaml

/-- The number of a node. -/
abbrev NodeId := Nat

/-- What a node holds. -/
inductive Content where
  | scalar (text : Text)
  | sequence (items : List NodeId)
  | mapping (entries : List (NodeId × NodeId))
deriving DecidableEq, Repr

/-- A node. -/
structure Node where
  tag : String
  content : Content
deriving DecidableEq, Repr

/-- All nodes of a document. -/
abbrev Nodes := Array Node

namespace Node

/-- The node that stands where nothing is written. -/
def empty : Node := ⟨ScalarKind.null.tag, .scalar ""⟩

/-- The tag that a node was given, if it is a real one: the lone exclamation mark is not. -/
def realTag (tag : Option String) : Option String := if tag == some "!" then none else tag

/-- A scalar. Without a tag it takes its kind from its text if it is plain, and is a text otherwise;
the lone exclamation mark makes it plain. -/
def ofScalar (tag : Option String) (text : Text) (plain : Bool) : Node :=
  let implied := if plain || tag == some "!" then ScalarKind.ofText text else .text
  ⟨(realTag tag).getD implied.tag, .scalar text⟩

/-- A sequence. -/
def ofItems (tag : Option String) (items : List NodeId) : Node :=
  ⟨(realTag tag).getD sequenceTag, .sequence items⟩

/-- A mapping. -/
def ofEntries (tag : Option String) (entries : List (NodeId × NodeId)) : Node :=
  ⟨(realTag tag).getD mappingTag, .mapping entries⟩

end Node

/-- The state of a parse: the tokens left, the fault behind them, the tag handles of the document,
the anchors so far and the nodes so far. -/
structure Parse where
  tokens : List Token
  fault : Option Fault
  handles : List (String × String)
  anchors : List (String × NodeId)
  nodes : Nodes

/-- The tag handles that every document knows. -/
def standardHandles : List (String × String) := [("!", "!"), ("!!", standardTag)]

/-- A parser step. -/
abbrev Parser := StateT Parse (Except Fault)

namespace Parser

/-- Collections inside collections are read down to this depth. -/
def depthLimit : Nat := 488

/-- Gives up. -/
def fail {α : Type} (fault : Fault) : Parser α := fun _ => .error fault

/-- The next token; at the end, the fault of the stream or the end token again. -/
def peek : Parser Token := do
  let p ← get
  match p.tokens, p.fault with
  | t :: _, _ => return t
  | [], some fault => fail fault
  | [], none => return .streamEnd

/-- Moves past the next token. -/
def drop : Parser Unit := modify fun p => { p with tokens := p.tokens.tail }

/-- Moves past the next token if it is `t`, and says whether it was. -/
def accept (t : Token) : Parser Bool := do
  if (← peek) == t then
    drop
    return true
  else return false

/-- Moves past `t`, which must come next. -/
def expect (t : Token) : Parser Unit := do
  unless ← accept t do fail .malformed

/-- Adds a node, under a name if it has one. -/
def add (anchor : Option String) (node : Node) : Parser NodeId := do
  let id := (← get).nodes.size
  modify fun p =>
    { p with
      nodes := p.nodes.push node
      anchors := (anchor.map (·, id)).toList ++ p.anchors }
  return id

/-- Adds the node that stands where nothing is written. -/
def addEmpty : Parser NodeId := add none Node.empty

/-- Fills a node that was added before. -/
def fill (id : NodeId) (node : Node) : Parser NodeId := do
  modify fun p => { p with nodes := p.nodes.setIfInBounds id node }
  return id

/-- Refuses a name that is taken. -/
def checkFresh (anchor : Option String) : Parser Unit := do
  if let some name := anchor then
    if (← get).anchors.any (·.1 == name) then fail .malformed

/-- The node that an alias stands for. -/
def resolveAlias (name : String) : Parser NodeId := do
  match (← get).anchors.lookup name with
  | some id => return id
  | none => fail .malformed

/-- The tag that a handle and a suffix spell. -/
def expandTag (handle : Option String) (suffix : String) : Parser String := do
  match handle with
  | none => return suffix
  | some handle =>
    match (← get).handles.lookup handle with
    | some expansion => return expansion ++ suffix
    | none => fail .malformed

/-- Reads the properties of a node: an anchor and a tag, in either order. -/
def properties : Parser (Option String × Option String) := do
  match ← peek with
  | .anchor name =>
    drop
    match ← peek with
    | .tag handle suffix =>
      drop
      return (some name, some (← expandTag handle suffix))
    | _ => return (some name, none)
  | .tag handle suffix =>
    drop
    let anchor ←
      match ← peek with
      | .anchor name =>
        drop
        pure (some name)
      | _ => pure none
    return (anchor, some (← expandTag handle suffix))
  | _ => return (none, none)

/-- Whether one of some tokens comes next. -/
def atAny (ts : List Token) : Parser Bool := do return ts.contains (← peek)

/-- Adds a leaf with its properties. -/
def leaf (anchor : Option String) (node : Node) : Parser NodeId := do
  checkFresh anchor
  add anchor node

/-- Adds a sequence, then reads its items. -/
def sequence (anchor tag : Option String) (items : Parser (List NodeId)) : Parser NodeId := do
  checkFresh anchor
  let id ← add anchor (.ofItems tag [])
  fill id (.ofItems tag (← items))

/-- Adds a mapping, then reads its entries. -/
def mapping (anchor tag : Option String) (entries : Parser (List (NodeId × NodeId))) :
    Parser NodeId := do
  checkFresh anchor
  let id ← add anchor (.ofEntries tag [])
  fill id (.ofEntries tag (← entries))

mutual

/-- Reads a node, `depth` levels below which there may be others. Block collections are read where
`block` holds, and a sequence whose dashes stand at the column of the key before it where
`indentless` holds. -/
def node (block indentless : Bool) : (fuel depth : Nat) → Parser NodeId
  | 0, _ => fail .malformed
  | _, 0 => do
    let _ ← peek
    fail .tooDeep
  | fuel + 1, depth + 1 => do
    if let .alias name ← peek then
      drop
      resolveAlias name
    else
      let (anchor, tag) ← properties
      match ← peek with
      | .blockEntry =>
        if indentless then sequence anchor tag (indentlessItems fuel depth)
        else if anchor.isSome || tag.isSome then leaf anchor (.ofScalar tag "" true)
        else fail .malformed
      | .scalar text isPlain =>
        drop
        leaf anchor (.ofScalar tag text isPlain)
      | .flowSequenceStart =>
        sequence anchor tag do
          drop
          flowItems true fuel depth
      | .flowMappingStart =>
        mapping anchor tag do
          drop
          flowEntries true fuel depth
      | t =>
        if block && t == .blockSequenceStart then
          sequence anchor tag do
            drop
            blockItems fuel depth
        else if block && t == .blockMappingStart then
          mapping anchor tag do
            drop
            blockEntries fuel depth
        else if anchor.isSome || tag.isSome then leaf anchor (.ofScalar tag "" true)
        else fail .malformed
termination_by structural fuel => fuel

/-- Reads the entries of a block sequence. -/
def blockItems : (fuel depth : Nat) → Parser (List NodeId)
  | 0, _ => fail .malformed
  | fuel + 1, depth => do
    if ← accept .blockEntry then
      let item ← if ← atAny [.blockEntry, .blockEnd] then addEmpty else node true false fuel depth
      return item :: (← blockItems fuel depth)
    else
      expect .blockEnd
      return []
termination_by structural fuel => fuel

/-- Reads the entries of a sequence that is not indented. -/
def indentlessItems : (fuel depth : Nat) → Parser (List NodeId)
  | 0, _ => fail .malformed
  | fuel + 1, depth => do
    if ← accept .blockEntry then
      let item ←
        if ← atAny [.blockEntry, .key, .value, .blockEnd] then addEmpty
        else node true false fuel depth
      return item :: (← indentlessItems fuel depth)
    else return []
termination_by structural fuel => fuel

/-- Reads the entries of a block mapping. -/
def blockEntries : (fuel depth : Nat) → Parser (List (NodeId × NodeId))
  | 0, _ => fail .malformed
  | fuel + 1, depth => do
    let part : Parser NodeId := do
      if ← atAny [.key, .value, .blockEnd] then addEmpty else node true true fuel depth
    if ← accept .key then
      let key ← part
      let value ← if ← accept .value then part else addEmpty
      return (key, value) :: (← blockEntries fuel depth)
    else
      expect .blockEnd
      return []
termination_by structural fuel => fuel

/-- Reads the entries of a bracketed sequence; an entry with a colon is a mapping of one entry. -/
def flowItems (first : Bool) : (fuel depth : Nat) → Parser (List NodeId)
  | 0, _ => fail .malformed
  | fuel + 1, depth => do
    if ← accept .flowSequenceEnd then return []
    else
      unless first do expect .flowEntry
      if (← peek) == .key then
        let item ← mapping none none (flowPair fuel depth)
        return item :: (← flowItems false fuel depth)
      else if ← accept .flowSequenceEnd then return []
      else
        let item ← node false false fuel depth
        return item :: (← flowItems false fuel depth)
termination_by structural fuel => fuel

/-- Reads the only entry of a mapping inside a bracketed sequence, from its key mark on. -/
def flowPair : (fuel depth : Nat) → Parser (List (NodeId × NodeId))
  | 0, _ => fail .malformed
  | fuel + 1, depth => do
    drop
    let key ←
      if ← atAny [.value, .flowEntry, .flowSequenceEnd] then addEmpty
      else node false false fuel (depth - 1)
    let value ←
      if ← accept .value then
        if ← atAny [.flowEntry, .flowSequenceEnd] then addEmpty
        else node false false fuel (depth - 1)
      else addEmpty
    return [(key, value)]
termination_by structural fuel => fuel

/-- Reads the entries of a braced mapping; an entry without a colon has the empty value. -/
def flowEntries (first : Bool) : (fuel depth : Nat) → Parser (List (NodeId × NodeId))
  | 0, _ => fail .malformed
  | fuel + 1, depth => do
    if ← accept .flowMappingEnd then return []
    else
      unless first do expect .flowEntry
      if ← accept .key then
        let key ←
          if ← atAny [.value, .flowEntry, .flowMappingEnd] then addEmpty
          else node false false fuel depth
        let value ←
          if ← accept .value then
            if ← atAny [.flowEntry, .flowMappingEnd] then addEmpty
            else node false false fuel depth
          else addEmpty
        return (key, value) :: (← flowEntries false fuel depth)
      else if ← accept .flowMappingEnd then return []
      else
        let key ← node false false fuel depth
        return (key, ← addEmpty) :: (← flowEntries false fuel depth)
termination_by structural fuel => fuel

end

/-- Reads the directives at the head of a document: the version at most once, and each tag handle at
most once. -/
def directives : (fuel : Nat) → (versioned : Bool) → (handles : List (String × String)) →
    Parser (List (String × String))
  | 0, _, _ => fail .malformed
  | fuel + 1, versioned, handles => do
    match ← peek with
    | .directive (.version major _) =>
      drop
      if versioned || major != 1 then fail .malformed else directives fuel true handles
    | .directive (.tagHandle handle expansion) =>
      drop
      if handles.any (·.1 == handle) then fail .malformed
      else directives fuel versioned ((handle, expansion) :: handles)
    | .directive .other =>
      drop
      directives fuel versioned handles
    | _ => return handles ++ standardHandles

/-- Moves past tokens that end a document. -/
def dropEnds : (fuel : Nat) → Parser Unit
  | 0 => pure ()
  | fuel + 1 => do
    if ← accept .documentEnd then dropEnds fuel

/-- Reads the head of a document, up to its explicit start. -/
def documentHead (fuel : Nat) : Parser Unit := do
  let handles ← directives fuel false []
  modify fun p => { p with handles }
  expect .documentStart

/-- Reads a document after an explicit start. -/
def explicitDocument (fuel : Nat) : Parser NodeId := do
  documentHead fuel
  match ← peek with
  | .directive _ | .documentStart | .documentEnd | .streamEnd => addEmpty
  | _ => node true false fuel depthLimit

/-- Reads the only document of a stream, if it has one. -/
def document (fuel : Nat) : Parser (Option NodeId) := do
  match ← peek with
  | .streamEnd => return none
  | first =>
    let root ←
      match first with
      | .directive _ | .documentStart => explicitDocument fuel
      | _ => node true false fuel depthLimit
    dropEnds fuel
    if ← accept .streamEnd then return some root
    else
      documentHead fuel
      fail .malformed

end Parser

/-- The nodes of a document, and its root among them. -/
structure Document where
  nodes : Nodes
  root : NodeId
deriving Repr

/-- The document of a stream of tokens; none if the stream is empty. -/
def Document.ofTokens? (stream : TokenStream) : Except Fault (Option Document) := do
  let first : Parse := ⟨stream.tokens.toList, stream.fault, standardHandles, [], #[]⟩
  let (root, last) ← (Parser.document (2 * stream.tokens.size + 4)).run first
  return root.map fun root => ⟨last.nodes, root⟩

end ScanLauncher.Yaml
