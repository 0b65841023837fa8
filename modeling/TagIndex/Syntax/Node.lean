import TagIndex.Bytes

namespace TagIndex

structure Span where
  start : Int
  stop : Int
deriving DecidableEq, Repr, Inhabited

def Span.text (source : Bytes) (span : Span) : Bytes := Bytes.slice source span.start span.stop

namespace Syntax

/-- What a node is. A binding is a `const` or `var` declaration. -/
inductive Shape where
  | function
  | binding
  | container
  | field
  | errorSet
  | errorType
  | other
deriving DecidableEq, Repr, Inhabited

/-- A node of the declaration tree. The initializer belongs to bindings, the keyword and the members
to containers, `typed` to fields. -/
structure Node where
  shape : Shape
  name : Option Span := none
  init : Option Node := none
  keyword : Option Span := none
  typed : Bool := false
  members : List Node := []
deriving Repr, Inhabited

/-- A source file with its declarations and the number of faulty places found in it. -/
structure Tree where
  source : Bytes
  declarations : List Node
  faults : Nat := 0

end Syntax

end TagIndex
