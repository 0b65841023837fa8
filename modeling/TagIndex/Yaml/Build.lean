import TagIndex.Yaml.Node
import TagIndex.Yaml.Scalar

namespace TagIndex.Yaml

/-- What a node stands for. The parts of a collection are numbers of nodes, except for keys. -/
inductive Cell where
  | value (value : Value)
  | list (items : List Nat)
  | map (pairs : List (Value × Nat))
  | set (items : List Value)
  | pairs (items : List (Nat × Nat))
deriving Repr

/-- The work on a document: its nodes, what is known of them, and the collections still to be
filled. -/
structure Building where
  graph : Graph
  cells : Array (Option Cell)
  pending : List Nat := []

abbrev Build := StateT Building (Except Error)

namespace Build

def fail {α : Type} : Build α := throw .malformed

def node (number : Nat) : Build Node := return (← get).graph.node number

def alter (number : Nat) (change : Node → Node) : Build Unit :=
  modify fun building => { building with graph := building.graph.alter number change }

def put (number : Nat) (cell : Cell) : Build Unit :=
  modify fun building => { building with cells := building.cells.set! number (some cell) }

def pairsOf (node : Node) : List (Nat × Nat) :=
  match node.content with
  | .mapping pairs => pairs
  | _ => []

def isMapping (node : Node) : Bool :=
  match node.content with
  | .mapping _ => true
  | _ => false

/-- The text of a node: that of a scalar, or of the default value of a mapping. -/
def textOf (graph : Graph) (number : Nat) : Nat → Except Error Text
  | 0 => .error .malformed
  | fuel + 1 =>
    match (graph.node number).content with
    | .scalar text => .ok text
    | .sequence _ => .error .malformed
    | .mapping pairs =>
      match pairs.find? fun (key, _) => (graph.node key).tag = standard "value" with
      | some (_, value) => textOf graph value fuel
      | none => .error .malformed

/-- The reader of a tag that stands for single values. The time of a mapping is never found, not
even where it has a text. -/
def scalarReader? (number : Nat) (node : Node) : Option (Text → Except Error Value) :=
  if node.tag = standard "null" then some fun _ => .ok .null
  else if node.tag = standard "bool" then some Scalar.bool
  else if node.tag = standard "int" then some Scalar.int
  else if node.tag = standard "float" then some (Scalar.float number)
  else if node.tag = standard "binary" then some Scalar.bytes
  else if node.tag = standard "timestamp" then
    some (if isMapping node then fun _ => .error .timeOfMapping else Scalar.time)
  else if node.tag = standard "str" then some fun text => .ok (.text text)
  else none

def emptyCell? (tag : String) : Option Cell :=
  if tag = standard "seq" then some (.list [])
  else if tag = standard "map" then some (.map [])
  else if tag = standard "set" then some (.set [])
  else if tag = standard "omap" || tag = standard "pairs" then some (.pairs [])
  else none

/-- What a node stands for. A collection is empty at first and is filled later. -/
def visit (number : Nat) : Build Cell := do
  let building ← get
  match (building.cells[number]?).join with
  | some cell => return cell
  | none =>
    let node := building.graph.node number
    match scalarReader? number node, emptyCell? node.tag with
    | some read, _ =>
      let cell := Cell.value (← read (← textOf building.graph number (building.graph.size + 1)))
      put number cell
      return cell
    | none, some cell =>
      put number cell
      modify fun building => { building with pending := building.pending ++ [number] }
      return cell
    | none, none => fail

def settleKeys (pairs : List (Nat × Nat)) : Build Unit :=
  pairs.forM fun (key, _) => alter key fun node =>
    if node.tag = standard "value" then { node with tag := standard "str" } else node

/-- Brings the pairs of merged mappings to the front of a mapping. `passed` of its pairs have been
looked at, and `merged` are the pairs found so far. A merge is taken out before what it brings in is
flattened itself, so every round leaves one merge less and their number bounds `fuel`. -/
def flattenFrom (number passed : Nat) (merged : List (Nat × Nat)) (fuel : Nat) : Build Unit :=
  match fuel with
  | 0 => fail
  | fuel + 1 => do
    let graph := (← get).graph
    let isMerge (pair : Nat × Nat) : Bool := (graph.node pair.1).tag = standard "merge"
    let pairs := pairsOf (graph.node number)
    let plain := (pairs.drop passed).takeWhile (!isMerge ·)
    settleKeys plain
    let passed := passed + plain.length
    match pairs.drop passed with
    | [] =>
      alter number fun node => { node with content := .mapping (merged ++ pairsOf node) }
    | (_, source) :: rest =>
      alter number fun node => { node with content := .mapping (pairs.take passed ++ rest) }
      let brought ← match (graph.node source).content with
        | .mapping _ =>
          flattenFrom source 0 [] fuel
          pure (pairsOf (← node source))
        | .sequence items =>
          let parts ← items.mapM fun item => do
            if !isMapping (← node item) then fail
            flattenFrom item 0 [] fuel
            return pairsOf (← node item)
          pure parts.reverse.flatten
        | .scalar _ => fail
      flattenFrom number passed (merged ++ brought) fuel
termination_by structural fuel

def pairCount (graph : Graph) : Nat := (graph.toList.flatMap pairsOf).length

def flatten (number : Nat) : Build Unit := do
  flattenFrom number 0 [] (pairCount (← get).graph + 1)

/-- The pairs of a mapping with its keys read. Collections cannot be keys. -/
def entries (number : Nat) : Build (List (Value × Nat)) := do
  if !isMapping (← node number) then fail
  flatten number
  (pairsOf (← node number)).foldlM (fun entries (key, value) => do
    match ← visit key with
    | .value key =>
      discard (visit value)
      return Mapping.set key value entries
    | _ => fail) []

def singlePair (number : Nat) : Build (Nat × Nat) := do
  match (← node number).content with
  | .mapping [(key, value)] =>
    discard (visit key)
    discard (visit value)
    return (key, value)
  | _ => fail

def items (number : Nat) : Build (List Nat) := do
  match (← node number).content with
  | .sequence items => return items
  | _ => fail

def fill (number : Nat) : Build Unit := do
  match ((← get).cells[number]?).join with
  | some (.list _) =>
    let items ← items number
    items.forM fun item => discard (visit item)
    put number (.list items)
  | some (.map _) => put number (.map (← entries number))
  | some (.set _) => put number (.set ((← entries number).map (·.1)))
  | some (.pairs _) => put number (.pairs (← (← items number).mapM singlePair))
  | _ => return ()

/-- Fills all collections. Each node is met for the first time once, so their number bounds
`fuel`. -/
def fillAll : Nat → Build Unit
  | 0 => return ()
  | fuel + 1 => do
    match (← get).pending with
    | [] => return ()
    | number :: rest =>
      modify fun building => { building with pending := rest }
      fill number
      fillAll fuel

end Build

/-- What the nodes of a document stand for, as far as they can be reached from its root. -/
def Document.cells (document : Document) : Except Error (Array (Option Cell)) := do
  let size := document.graph.size
  let start : Building := { graph := document.graph, cells := Array.replicate size none }
  let work : Build Unit := do
    discard (Build.visit document.root)
    Build.fillAll (size + 1)
  return (← work.run start).2.cells

end TagIndex.Yaml
