import TagIndex.Concrete.Node

namespace TagIndex.Concrete

open Syntax (Node)

def functionKind : String := "function_declaration"

def bindingKind : String := "variable_declaration"

def fieldKind : String := "container_field"

def isContainerKind (kind : String) : Bool :=
  kind = "struct_declaration" || kind = "union_declaration" || kind = "enum_declaration" ||
    kind = "opaque_declaration"

def isContainerKeyword (kind : String) : Bool :=
  kind = "struct" || kind = "union" || kind = "enum" || kind = "opaque"

def isMemberKind (kind : String) : Bool :=
  kind = functionKind || kind = bindingKind || kind = fieldKind

/-- The first identifier among the named children. -/
def identifier? (children : List Concrete) : Option Span :=
  (named? "identifier" children).map (·.span)

/-- A function is named by the child in the name role, or else by its first identifier. -/
def functionName? (children : List Concrete) : Option Span :=
  match inField? "name" children with
  | some name => some name.span
  | none => identifier? children

/-- The keyword token that opens a container. -/
def keyword? (children : List Concrete) : Option Span :=
  (children.find? fun child => !child.named && isContainerKeyword child.kind).map (·.span)

/-- A field without a name whose type is a bare identifier is an enumerant of that name. -/
def lowerField (children : List Concrete) : Node :=
  match inField? "name" children, inField? "type" children with
  | some name, type => { shape := .field, name := some name.span, typed := type.isSome }
  | none, some type =>
    if type.kind = "identifier" then { shape := .field, name := some type.span }
    else { shape := .field }
  | none, none => { shape := .field }

mutual

def lower (source : Bytes) (node : Concrete) : Node :=
  match node with
  | ⟨kind, _, _, _, _, span, _, children⟩ =>
    if kind = functionKind then { shape := .function, name := functionName? children }
    else if kind = bindingKind then
      { shape := .binding, name := identifier? children
        init := lowerInit source false children }
    else if isContainerKind kind then
      { shape := .container, keyword := keyword? children
        members := lowerMembers source children }
    else if kind = fieldKind then lowerField children
    else if kind = "error_set_declaration" then { shape := .errorSet }
    else if kind = "builtin_type" ∧ span.text source = Bytes.ofString "anyerror" then
      { shape := .errorType }
    else { shape := .other }
termination_by structural node

/-- The initializer is the first named child behind the first equals sign that is not an extra. -/
def lowerInit (source : Bytes) (behindEquals : Bool) (children : List Concrete) : Option Node :=
  match children with
  | [] => none
  | child :: rest =>
    if behindEquals && child.named && !child.extra then some (lower source child)
    else lowerInit source (behindEquals || (!child.named && child.kind = "=")) rest
termination_by structural children

def lowerMembers (source : Bytes) (children : List Concrete) : List Node :=
  match children with
  | [] => []
  | child :: rest =>
    if child.named && isMemberKind child.kind then
      lower source child :: lowerMembers source rest
    else lowerMembers source rest
termination_by structural children

end

/-- The declaration tree of a file: one node for each named child of the root. -/
def tree (source : Bytes) (root : Concrete) : Syntax.Tree :=
  { source := source
    declarations := (root.children.filter (·.named)).map (lower source)
    faults := root.countFaults }

end TagIndex.Concrete
