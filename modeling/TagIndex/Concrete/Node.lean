import TagIndex.Syntax.Node

namespace TagIndex

/-- A node of the concrete tree. `extra` marks nodes that may stand anywhere, such as comments;
`field` is the role that the parent's rule gives the node. -/
structure Concrete where
  kind : String
  named : Bool := true
  extra : Bool := false
  error : Bool := false
  missing : Bool := false
  span : Span
  field : Option String := none
  children : List Concrete := []
deriving Repr, Inhabited

namespace Concrete

/-- The first child in the given role. -/
def inField? (role : String) (children : List Concrete) : Option Concrete :=
  children.find? fun child => child.field = some role

/-- The first named child of the given kind. -/
def named? (kind : String) (children : List Concrete) : Option Concrete :=
  children.find? fun child => child.named && child.kind = kind

mutual

def size (node : Concrete) : Nat :=
  match node with
  | ⟨_, _, _, _, _, _, _, children⟩ => 1 + sizeAll children
termination_by structural node

def sizeAll (nodes : List Concrete) : Nat :=
  match nodes with
  | [] => 0
  | node :: rest => node.size + sizeAll rest
termination_by structural nodes

end

theorem sizeAll_append (a b : List Concrete) : sizeAll (a ++ b) = sizeAll a + sizeAll b := by
  induction a with
  | nil => simp [sizeAll]
  | cons node rest ih => simp [sizeAll, ih, Nat.add_assoc]

theorem size_eq (node : Concrete) : node.size = 1 + sizeAll node.children := by
  cases node; rfl

def isFaulty (node : Concrete) : Bool := node.error || node.missing

/-- Counts the faulty nodes below a stack of nodes still to be seen, on top of `count`. Each round
sees one node, so the number of unseen nodes falls. -/
def countFaultsFrom (stack : List Concrete) (count : Nat) : Nat :=
  match stack with
  | [] => count
  | node :: rest =>
    countFaultsFrom (node.children ++ rest) (if node.isFaulty then count + 1 else count)
termination_by sizeAll stack
decreasing_by
  simp only [sizeAll_append, sizeAll, size_eq]
  omega

def countFaults (root : Concrete) : Nat := countFaultsFrom [root] 0

end Concrete

end TagIndex
