import TagIndex.Scope
import TagIndex.Syntax.Kind
import TagIndex.Text.Line
import TagIndex.Text.Pattern

namespace TagIndex.Syntax

/-- Where a node stands: the file, and the keyword and scope path of the container around it. An
empty or absent label and an empty scope both mean top level. -/
structure Surroundings where
  path : Bytes
  label : Option Bytes := some []
  scope : Bytes := []
deriving DecidableEq, Repr

/-- The surroundings of a child. Without a scope the child stands where its parent does. -/
def Surroundings.descend (around : Surroundings) (label scope : Option Bytes) : Surroundings :=
  match scope with
  | none => around
  | some scope => { around with label := label, scope := scope }

/-- One thing that the walk asks for. -/
inductive Step where
  /-- The members of a container with an unsupported keyword are passed over; the offset is that of
  the container's name. -/
  | skip (offset : Int)
  | tag (draft : Draft)
deriving DecidableEq, Repr

def nonEmpty? (bytes : Bytes) : Option Bytes := if bytes = [] then none else some bytes

/-- The tag of the node itself, if it has a name and a kind. -/
def draft? (source : Bytes) (around : Surroundings) (node : Node) : Option Draft :=
  match node.nameSpan?, node.kind? source with
  | some span, some kind => some
    { name := span.text source
      path := around.path
      pattern := Text.escape (Text.lineAt source span.start)
      kind := kind.letter
      label := around.label.bind nonEmpty?
      scope := nonEmpty? around.scope }
  | _, _ => none

def ownSteps (source : Bytes) (around : Surroundings) (node : Node) : List Step :=
  (draft? source around node).toList.map .tag

/-- The surroundings of the members of the container named `name`. -/
def memberSurroundings (source : Bytes) (around : Surroundings) (name : Span)
    (keyword : Option Span) : Surroundings :=
  around.descend (keyword.map (·.text source)) (some (Scope.enter around.scope (name.text source)))

mutual

/-- The steps of a node: those of its members, then its own. -/
def steps (source : Bytes) (around : Surroundings) (node : Node) : List Step :=
  (match node with
    | ⟨.binding, some name, some ⟨.container, _, _, keyword, _, members⟩, _, _, _⟩ =>
      if (keyword.bind fun span => containerKindOf? (span.text source)).isSome then
        memberSteps source (memberSurroundings source around name keyword) members
      else [.skip name.start]
    | _ => []) ++ ownSteps source around node
termination_by structural node

def memberSteps (source : Bytes) (around : Surroundings) (members : List Node) : List Step :=
  match members with
  | [] => []
  | node :: rest => steps source around node ++ memberSteps source around rest
termination_by structural members

end

theorem memberSteps_append (source : Bytes) (around : Surroundings) (a b : List Node) :
    memberSteps source around (a ++ b) =
      memberSteps source around a ++ memberSteps source around b := by
  induction a with
  | nil => simp [memberSteps]
  | cons node rest ih => simp [memberSteps, ih]

def Tree.steps (tree : Tree) (path : Bytes) : List Step :=
  memberSteps tree.source { path := path } tree.declarations

end TagIndex.Syntax
