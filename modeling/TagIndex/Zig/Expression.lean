import TagIndex.Zig.Group

namespace TagIndex.Zig

/-- What follows the first piece that satisfies `stop`. -/
def dropThrough (stop : Piece → Bool) (pieces : List Piece) : List Piece :=
  (pieces.dropWhile (!stop ·)).tail

/-- What follows an expression, and whether the expression is a type on its own: one in parentheses,
an error set, a value with its fields and a sum of operands are not, unless something makes them
part of a type. -/
structure Extent where
  rest : List Piece
  isType : Bool

namespace Extent

def containerWords : List String := ["struct", "union", "enum", "opaque"]

/-- Marks and words in front of an operand. The marks of operators of several characters may come
here one by one. -/
def leadMarks : List String := ["?", "*", "!", "-", "~", "&", "+", "%", "|", "<", ">"]

def leadWords : List String :=
  ["const", "volatile", "allowzero", "comptime", "inline", "noinline", "nosuspend", "async",
    "await", "try", "resume"]

def joiningMarks : List String :=
  ["+", "-", "*", "/", "%", "&", "|", "^", "<", ">", "==", "!=", "<=", ">="]

def joiningWords : List String := ["and", "or", "orelse", "catch"]

def attributeWords : List String := ["align", "addrspace", "linksection", "callconv"]

def isMarkIn (marks : List String) (piece : Piece) : Bool := marks.any fun mark => piece.isMark mark

def dropAttributes : List Piece → List Piece
  | word :: argument :: rest =>
    if word.isOneOf attributeWords && argument.isParens then dropAttributes rest
    else word :: argument :: rest
  | rest => rest

def dropPayload : List Piece → List Piece
  | [] => []
  | bar :: rest => if bar.isMark "|" then dropThrough (·.isMark "|") rest else bar :: rest

def dropParens : List Piece → List Piece
  | [] => []
  | piece :: rest => if piece.isParens then rest else piece :: rest

def dropBlock : List Piece → List Piece
  | [] => []
  | piece :: rest => if piece.isBlock then rest else piece :: rest

/-- What follows a function's name, parameters and attributes, from behind the word `fn`. -/
def dropSignature (pieces : List Piece) : List Piece :=
  let unnamed := match pieces with
    | name :: rest => if name.isIdentifier then rest else name :: rest
    | [] => []
  dropAttributes (dropParens unnamed)

/-- What follows the head of a condition or a loop, up to the operand that it guards. -/
def dropCondition (pieces : List Piece) : List Piece :=
  match dropPayload (dropParens pieces) with
  | colon :: step :: rest =>
    if colon.isMark ":" && step.isParens then rest else colon :: step :: rest
  | rest => rest

/-- Whether a block can hold the fields of a value. Statements end in semicolons. -/
def holdsFields : Piece → Bool
  | .token _ => false
  | .group opening _ _ inner => opening = 123 && !inner.any (·.isMark ";")

/-- The state of reading: an operand is wanted, in front of which stands something or nothing, or
one has been read that is a type or not. -/
inductive State where
  | wanted (led : Bool)
  | read (isType : Bool)

def precedes (p : Piece → Bool) (rest : List Piece) : Bool := rest.head?.any p

/-- One piece, or a few that belong together, of an operand that is wanted. Without an operand none
is missed: it is empty. -/
def operand (led : Bool) (piece : Piece) (rest : List Piece) : Option (State × List Piece) :=
  if isMarkIn leadMarks piece || piece.isOneOf leadWords then some (.wanted true, rest)
  else if piece.isOneOf attributeWords then some (.wanted true, dropParens rest)
  else if piece.isBrackets then some (.wanted true, rest)
  else if piece.isWord "fn" then some (.wanted true, dropSignature rest)
  else if piece.isOneOf ["if", "while", "for"] then some (.wanted true, dropCondition rest)
  else if piece.isWord "switch" then some (.read true, dropBlock (dropParens rest))
  else if piece.isWord "anyframe" && precedes (·.isMark "->") rest then
    some (.wanted true, rest.tail)
  else if piece.isOneOf ["extern", "packed"] then some (.wanted led, rest)
  else if piece.isOneOf containerWords then some (.read true, dropBlock (dropParens rest))
  else if piece.isWord "error" && precedes (·.isBlock) rest then some (.read led, rest.tail)
  else if piece.isMark "." then some (.read (led || !precedes (·.isBlock) rest), rest.tail)
  else if piece.isIdentifier && precedes (·.isMark ":") rest then some (.wanted true, rest.tail)
  else if piece.isParens then some (.read led, rest)
  else if piece.isBlock || !piece.isAnyMark then some (.read true, rest)
  else none

/-- What belongs to an operand that stands before it. With `values`, a block may hold the fields of
a value. -/
def suffix? (values : Bool) (piece : Piece) (rest : List Piece) : Option (State × List Piece) :=
  if piece.isParens || piece.isBrackets || isMarkIn [".*", ".?"] piece then some (.read true, rest)
  else if piece.isMark "." then some (.read true, rest.tail)
  else if piece.isMark "!" then some (.wanted true, rest)
  else if piece.isWord "else" then some (.wanted true, dropPayload rest)
  else if values && holdsFields piece then some (.read false, rest)
  else none

/-- Reads on in a state. Every round but the last uses up a piece. -/
def readOn (values : Bool) (fuel : Nat) (state : State) (pieces : List Piece) : Extent :=
  match fuel, state, pieces with
  | 0, _, _ => ⟨pieces, true⟩
  | _, .wanted _, [] => ⟨[], true⟩
  | _, .read isType, [] => ⟨[], isType⟩
  | fuel + 1, .wanted led, piece :: rest =>
    match operand led piece rest with
    | some (next, rest) => readOn values fuel next rest
    | none => ⟨piece :: rest, true⟩
  | fuel + 1, .read isType, piece :: rest =>
    match suffix? values piece rest with
    | some (next, rest) => readOn values fuel next rest
    | none =>
      if isMarkIn [".."] piece then
        { readOn values fuel (.wanted false) rest with isType := true }
      else if isMarkIn joiningMarks piece || piece.isOneOf joiningWords then
        { readOn values fuel (.wanted false) rest with isType := false }
      else ⟨piece :: rest, isType⟩

def of (values : Bool) (pieces : List Piece) : Extent :=
  readOn values (pieces.length + 1) (.wanted false) pieces

end Extent

end TagIndex.Zig
