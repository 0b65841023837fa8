import TagIndex.Yaml.Build

namespace TagIndex.Yaml

abbrev Known := Array (Option Value)

/-- A tree, and whether it is the same everywhere. -/
structure Unfolded where
  value : Value
  everywhere : Bool := true

abbrev Unfold := StateM Known

namespace Unfold

def remember (number : Nat) (tree : Unfolded) : Unfold Unfolded := do
  if tree.everywhere then modify fun known => known.set! number (some tree.value)
  return tree

/-- The tree of a node inside the collections `around`. Every step goes into one more of them, so
the number of nodes bounds `fuel`. -/
def tree (cells : Array (Option Cell)) (around : List Nat) (number : Nat) (fuel : Nat) :
    Unfold Unfolded :=
  match fuel with
  | 0 => return ⟨.null, true⟩
  | fuel + 1 => do
    match ((← get)[number]?).join, (cells[number]?).join with
    | some value, _ => return ⟨value, true⟩
    | none, none => return ⟨.null, true⟩
    | none, some (.value value) => return ⟨value, true⟩
    | none, some (.set items) => return ⟨.set items, true⟩
    | none, some (.list items) =>
      if around.contains number then return ⟨.again false, false⟩
      let parts ← items.mapM fun item => tree cells (number :: around) item fuel
      remember number ⟨.list (parts.map (·.value)), parts.all (·.everywhere)⟩
    | none, some (.map pairs) =>
      if around.contains number then return ⟨.again true, false⟩
      let parts ← pairs.mapM fun (key, value) => do
        return (key, ← tree cells (number :: around) value fuel)
      remember number
        ⟨.map (parts.map fun (key, part) => (key, part.value)), parts.all (·.2.everywhere)⟩
    | none, some (.pairs items) =>
      if around.contains number then return ⟨.again false, false⟩
      let parts ← items.mapM fun (first, second) => do
        let first ← tree cells (number :: around) first fuel
        let second ← tree cells (number :: around) second fuel
        return Unfolded.mk (.pair first.value second.value) (first.everywhere && second.everywhere)
      remember number ⟨.list (parts.map (·.value)), parts.all (·.everywhere)⟩
termination_by structural fuel

/-- The values of the entries of the root are seen from themselves, not from the root. -/
def root (cells : Array (Option Cell)) (number : Nat) : Unfold Value := do
  let fuel := cells.size + 1
  match (cells[number]?).join with
  | some (.map pairs) =>
    return .map (← pairs.mapM fun (key, value) => return (key, (← tree cells [] value fuel).value))
  | _ => return (← tree cells [] number fuel).value

end Unfold

def Document.value (document : Document) : Except Error Value := do
  let cells ← document.cells
  return ((Unfold.root cells document.root).run (Array.replicate cells.size none)).1

end TagIndex.Yaml
