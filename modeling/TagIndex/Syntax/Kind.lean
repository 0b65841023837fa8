import TagIndex.Syntax.Node
import TagIndex.Tag

namespace TagIndex.Syntax

/-- The kind of a binding that names a container, by the container's keyword. -/
def containerKindOf? (word : Bytes) : Option Kind :=
  if word = Bytes.ofString "struct" then some .structType
  else if word = Bytes.ofString "union" then some .unionType
  else if word = Bytes.ofString "enum" then some .enumType
  else none

namespace Node

def containerKind? (source : Bytes) (node : Node) : Option Kind :=
  match node.keyword with
  | none => none
  | some span => containerKindOf? (span.text source)

/-- A binding is named for what it is bound to: a container, an error set, or any other value. -/
def bindingKind? (source : Bytes) : Option Node → Option Kind
  | none => some .binding
  | some init => match init.shape with
    | .container => init.containerKind? source
    | .errorSet | .errorType => some .errorSet
    | _ => some .binding

/-- Enumerants never carry a type, members of structs and unions do. -/
def kind? (source : Bytes) (node : Node) : Option Kind :=
  match node.shape with
  | .function => some .function
  | .binding => bindingKind? source node.init
  | .field => some (if node.typed then .member else .enumerant)
  | .container | .errorSet | .errorType | .other => none

def nameSpan? (node : Node) : Option Span :=
  match node.shape with
  | .function | .binding | .field => node.name
  | .container | .errorSet | .errorType | .other => none

end Node

end TagIndex.Syntax
