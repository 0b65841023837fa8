import TagIndex.Yaml.Meaning
import TagIndex.Yaml.Token

namespace TagIndex.Yaml

inductive Content where
  | scalar (text : Text)
  | sequence (items : List Nat)
  | mapping (pairs : List (Nat × Nat))
deriving DecidableEq, Repr

structure Node where
  tag : String
  content : Content
deriving DecidableEq, Repr

def standard (name : String) : String := "tag:yaml.org,2002:" ++ name

/-- The nodes of a document in the order of their numbers. A collection holds the numbers of its
parts, so it may hold itself. -/
abbrev Graph := Array Node

namespace Graph

def node (graph : Graph) (number : Nat) : Node :=
  (graph[number]?).getD ⟨standard "null", .scalar []⟩

def alter (graph : Graph) (number : Nat) (change : Node → Node) : Graph :=
  graph.modify number change

end Graph

/-- The tokens not yet used and the failure behind them, the nodes and their names so far, and the
meaning of tag handles. -/
structure Reading where
  tokens : List Token
  failure : Option Error := none
  graph : Graph := #[]
  anchors : List (String × Nat) := []
  handles : List (String × String) := [("!", "!"), ("!!", standard "")]

abbrev Read := StateT Reading (Except Error)

namespace Read

def fail {α : Type} : Read α := throw .malformed

/-- The next token. Where the tokens end in a failure, looking further fails. -/
def peek : Read (Option Token) := do
  let reading ← get
  match reading.tokens, reading.failure with
  | token :: _, _ => return some token
  | [], none => return none
  | [], some error => throw error

def drop : Read Unit := modify fun reading => { reading with tokens := reading.tokens.tail }

def accept (token : Token) : Read Bool := do
  if (← peek) = some token then drop; return true
  return false

def expect (token : Token) : Read Unit := do
  if !(← accept token) then fail

def nextIn (tokens : List Token) : Read Bool := do
  match ← peek with
  | some token => return tokens.contains token
  | none => return false

/-- The full tag of a handle and a suffix; a lone exclamation mark means no tag. -/
def fullTag (handle : Option String) (suffix : String) : Read String := do
  match handle with
  | none => return suffix
  | some handle =>
    match (← get).handles.lookup handle with
    | some expansion => return expansion ++ suffix
    | none => fail

def anchor? : Read (Option String) := do
  match ← peek with
  | some (.anchor name) => drop; return some name
  | _ => return none

def tag? : Read (Option String) := do
  match ← peek with
  | some (.tag handle suffix) => drop; return some (← fullTag handle suffix)
  | _ => return none

/-- An anchor and a tag, in either order. -/
def properties : Read (Option String × Option String) := do
  match ← anchor? with
  | some name => return (some name, ← tag?)
  | none =>
    match ← tag? with
    | some tag => return (← anchor?, some tag)
    | none => return (none, none)

/-- A name can be given to one node only. -/
def refuseKnown (anchor : Option String) : Read Unit := do
  let known := (← get).anchors
  if anchor.any fun name => (known.lookup name).isSome then fail

/-- The tag of a node: a lone exclamation mark, like no tag, leaves it to the `preset` one. -/
def effective (tag : Option String) (preset : String) : String :=
  (tag.filter (· ≠ "!")).getD (standard preset)

def add (anchor : Option String) (node : Node) : Read Nat := do
  let reading ← get
  let number := reading.graph.size
  set { reading with
    graph := reading.graph.push node
    anchors := (anchor.map (·, number)).toList ++ reading.anchors }
  return number

/-- A scalar. One in quotes or in a block is a text, unless its tag leaves that open. -/
def addScalar (anchor tag : Option String) (text : Text) (plain : Bool) : Read Nat :=
  let preset := if plain || tag.isSome then (Meaning.of text).tag else "str"
  add anchor ⟨effective tag preset, .scalar text⟩

def addEmpty : Read Nat := addScalar none none [] true

/-- A sequence. It has its number before its items are read, so these may refer to it. -/
def addSequence (anchor tag : Option String) (items : Read (List Nat)) : Read Nat := do
  let number ← add anchor ⟨effective tag "seq", .sequence []⟩
  let items ← items
  modify fun reading => { reading with
    graph := reading.graph.alter number fun node => { node with content := .sequence items } }
  return number

def addMapping (anchor tag : Option String) (pairs : Read (List (Nat × Nat))) : Read Nat := do
  let number ← add anchor ⟨effective tag "map", .mapping []⟩
  let pairs ← pairs
  modify fun reading => { reading with
    graph := reading.graph.alter number fun node => { node with content := .mapping pairs } }
  return number

mutual

/-- A node. Block collections need `block`; `entries` allows a sequence that is not indented. -/
def node (block entries : Bool) (fuel : Nat) : Read Nat :=
  match fuel with
  | 0 => fail
  | fuel + 1 => do
    match ← peek with
    | some (.reference name) =>
      drop
      match (← get).anchors.lookup name with
      | some number => return number
      | none => fail
    | _ =>
      let (anchor, tag) ← properties
      let content ← peek
      refuseKnown anchor
      if entries && content = some .blockEntry then
        addSequence anchor tag (blockEntries false fuel)
      else
        match content with
        | some (.scalar text plain) =>
          drop
          addScalar anchor tag text plain
        | some .flowSequenceStart =>
          drop
          addSequence anchor tag (flowItems true fuel)
        | some .flowMappingStart =>
          drop
          addMapping anchor tag (flowPairs true fuel)
        | some .blockSequenceStart =>
          if !block then fail
          drop
          addSequence anchor tag (blockEntries true fuel)
        | some .blockMappingStart =>
          if !block then fail
          drop
          addMapping anchor tag (blockPairs fuel)
        | _ =>
          if anchor.isNone && tag.isNone then fail
          addScalar anchor tag [] tag.isNone
termination_by structural fuel

def nodeUnless (stops : List Token) (block entries : Bool) (fuel : Nat) : Read Nat :=
  match fuel with
  | 0 => fail
  | fuel + 1 => do
    if ← nextIn stops then addEmpty
    else node block entries fuel
termination_by structural fuel

/-- The entries of a block sequence. One that is not indented ends without a mark, and its entries
may be omitted before the next key or value. -/
def blockEntries (indented : Bool) (fuel : Nat) : Read (List Nat) :=
  match fuel with
  | 0 => fail
  | fuel + 1 => do
    if ← accept .blockEntry then
      let stops : List Token :=
        if indented then [.blockEntry, .blockEnd] else [.blockEntry, .key, .value, .blockEnd]
      let item ← nodeUnless stops true false fuel
      return item :: (← blockEntries indented fuel)
    else
      if indented then expect .blockEnd
      return []
termination_by structural fuel

def blockPairs (fuel : Nat) : Read (List (Nat × Nat)) :=
  match fuel with
  | 0 => fail
  | fuel + 1 => do
    if ← accept .key then
      let key ← nodeUnless [.key, .value, .blockEnd] true true fuel
      let value ←
        if ← accept .value then nodeUnless [.key, .value, .blockEnd] true true fuel
        else addEmpty
      return (key, value) :: (← blockPairs fuel)
    else
      expect .blockEnd
      return []
termination_by structural fuel

/-- The pair behind a key mark of a flow collection that ends with `close`. -/
def flowPair (close : Token) (fuel : Nat) : Read (Nat × Nat) :=
  match fuel with
  | 0 => fail
  | fuel + 1 => do
    let key ← nodeUnless [.value, .flowEntry, close] false false fuel
    let value ←
      if ← accept .value then nodeUnless [.flowEntry, close] false false fuel
      else addEmpty
    return (key, value)
termination_by structural fuel

/-- The items of a flow sequence. A key inside it makes a mapping of one pair. -/
def flowItems (first : Bool) (fuel : Nat) : Read (List Nat) :=
  match fuel with
  | 0 => fail
  | fuel + 1 => do
    if ← accept .flowSequenceEnd then return []
    if !first then expect .flowEntry
    if ← accept .flowSequenceEnd then return []
    let item ←
      if ← accept .key then
        addMapping none none (return [← flowPair .flowSequenceEnd fuel])
      else node false false fuel
    return item :: (← flowItems false fuel)
termination_by structural fuel

/-- The pairs of a flow mapping. An item without a colon is a key without a value. -/
def flowPairs (first : Bool) (fuel : Nat) : Read (List (Nat × Nat)) :=
  match fuel with
  | 0 => fail
  | fuel + 1 => do
    if ← accept .flowMappingEnd then return []
    if !first then expect .flowEntry
    if ← accept .flowMappingEnd then return []
    let pair ←
      if ← accept .key then flowPair .flowMappingEnd fuel
      else pure (← node false false fuel, ← addEmpty)
    return pair :: (← flowPairs false fuel)
termination_by structural fuel

end

/-- Directives before a document. The version is given once and must be the first; so is the meaning
of each handle. -/
def directives (version : Bool) (own : List String) : Nat → Read Bool
  | 0 => fail
  | fuel + 1 => do
    match ← peek with
    | some (.versionDirective major) =>
      if version || major ≠ 1 then fail
      drop
      directives true own fuel
    | some (.tagDirective handle expansion) =>
      if own.contains handle then fail
      drop
      modify fun reading => { reading with handles := (handle, expansion) :: reading.handles }
      directives version (handle :: own) fuel
    | some .otherDirective =>
      drop
      discard (directives version own fuel)
      return true
    | _ => return version || !own.isEmpty

def documentEnds : Nat → Read Unit
  | 0 => return ()
  | fuel + 1 => do
    if ← accept .documentEnd then documentEnds fuel

def document (fuel : Nat) : Read (Option Nat) := do
  if (← peek).isNone then return none
  let directed ← directives false [] fuel
  let root ←
    if ← accept .documentStart then
      match ← peek with
      | none | some .documentStart | some .documentEnd | some .otherDirective
      | some (.versionDirective _) | some (.tagDirective _ _) => addEmpty
      | some _ => node true false fuel
    else if directed then fail
    else node true false fuel
  documentEnds fuel
  if (← peek).isSome then fail
  return some root

end Read

/-- A document: its nodes and the number of its root. -/
structure Document where
  graph : Graph
  root : Nat

/-- The document that tokens make, if the text holds one. Every step of reading uses up a token or
goes one level deeper towards one. -/
def Document.ofTokens? (scanned : Scanned) : Except Error (Option Document) := do
  let (root, reading) ← (Read.document (4 * scanned.tokens.length + 4)).run
    { tokens := scanned.tokens, failure := scanned.failure }
  return root.map (⟨reading.graph, ·⟩)

end TagIndex.Yaml
