import TagIndex.Syntax.Node
import TagIndex.Zig.Expression

namespace TagIndex.Zig

open Syntax (Node)

def Piece.span (piece : Piece) : Span := ⟨piece.start, piece.stop⟩

def code (pieces : List Piece) : List Piece := pieces.filter (!·.isComment)

def spanOf? (pieces : List Piece) : Option Span :=
  match pieces.head?, pieces.getLast? with
  | some first, some last => some ⟨first.start, last.stop⟩
  | _, _ => none

/-- Drops the words that may stand before a function or binding. `extern` before a container is not
one of them: it begins the type of a field. -/
def dropModifiers : List Piece → List Piece
  | [] => []
  | piece :: rest =>
    if piece.isOneOf ["pub", "export", "inline", "noinline", "threadlocal"] || piece.isComment then
      dropModifiers rest
    else if piece.isWord "extern" &&
        !((code rest).head?.any (·.isOneOf Extent.containerWords)) then
      dropModifiers rest
    else if piece.isString then dropModifiers rest
    else piece :: rest

/-- Whether a field may end where these pieces follow its name. -/
def endsName (rest : List Piece) : Bool :=
  match rest with
  | [] => true
  | piece :: _ => piece.isMark "," || piece.isMark "=" || piece.isWord "align"

/-- The piece that ends a function, from the pieces behind the word `fn`, without comments: its body
or a semicolon. A function without either is a type. So is one, unless it is `modified` by words in
front of it, whose block can be read as part of the type that it returns. -/
def functionEnd? (modified : Bool) (pieces : List Piece) : Option Piece :=
  let returned := Extent.dropSignature pieces
  match (Extent.of false returned).rest with
  | [] => none
  | piece :: _ =>
    let whole := Extent.of true returned
    if piece.isMark ";" then some piece
    else if piece.isBlock && (modified || !(whole.isType && endsName whole.rest)) then some piece
    else none

/-- The pieces of a field's name. It may be any type; the word `comptime` in front of an expression
that is no type on its own makes it one. -/
def fieldName (pieces : List Piece) : List Piece :=
  match pieces with
  | [] => []
  | first :: rest =>
    if first.isWord "comptime" then
      let extent := Extent.of true rest
      let name := rest.take (rest.length - extent.rest.length)
      if extent.isType then name else first :: name
    else pieces.take (pieces.length - (Extent.of true pieces).rest.length)

/-- The name of a field that is written before its type. A name before a block is a label. -/
def typedName? (pieces : List Piece) : Option Piece :=
  let pieces := if pieces.head?.any (·.isWord "comptime") then pieces.tail else pieces
  match pieces with
  | name :: colon :: rest =>
    if name.isIdentifier && colon.isMark ":" && !rest.head?.any (·.isBlock) then some name else none
  | _ => none

def emptySpan (place : Nat) : Span := ⟨place, place⟩

/-- A field, from its pieces without comments; `place` is where the text before it ends. -/
def field (place : Nat) (pieces : List Piece) : Node :=
  match typedName? pieces with
  | some name => { shape := .field, name := some name.span, typed := true }
  | none => { shape := .field, name := some ((spanOf? (fieldName pieces)).getD (emptySpan place)) }

/-- Where the comments at the head of some pieces end, or else the text before them. -/
def commentsEnd (place : Nat) (pieces : List Piece) : Nat :=
  ((pieces.takeWhile (·.isComment)).getLast?.map (·.stop)).getD place

/-- Expressions that stand for no value of their own, so that a binding counts as uninitialized. -/
def isValueless (piece : Piece) : Bool :=
  piece.isOneOf ["undefined", "null", "unreachable", "anyframe"]

/-- The keyword, the place of the opening brace and the inside of a container expression. -/
def container? (pieces : List Piece) : Option (Span × Nat × List Piece) :=
  let pieces := match pieces with
    | piece :: rest => if piece.isOneOf ["extern", "packed"] then rest else piece :: rest
    | [] => []
  match pieces with
  | [keyword, .group 123 opening _ inner] =>
    if keyword.isOneOf Extent.containerWords then some (keyword.span, opening, inner) else none
  | [keyword, .group 40 _ _ _, .group 123 opening _ inner] =>
    if keyword.isOneOf Extent.containerWords then some (keyword.span, opening, inner) else none
  | _ => none

def isMember (node : Node) : Bool :=
  match node.shape with
  | .function | .binding | .field => true
  | _ => false

abbrev Reading := Nat → List Piece → List Node

/-- The members of a container. One without any declaration has a field without a name behind its
last comment, or behind the opening brace. -/
def members (read : Reading) (opening : Nat) (inner : List Piece) : List Node :=
  if (code inner).isEmpty then [field (commentsEnd (opening + 1) inner) []]
  else (read (opening + 1) inner).filter isMember

def initializer? (read : Reading) (value : List Piece) : Option Node :=
  match value with
  | [single] =>
    if isValueless single then none
    else if single.isWord "anyerror" then some { shape := .errorType }
    else some { shape := .other }
  | [word, block] =>
    if word.isWord "error" && block.isBlock then some { shape := .errorSet }
    else some (containerOrOther value)
  | _ => some (containerOrOther value)
where
  containerOrOther (value : List Piece) : Node :=
    match container? value with
    | some (keyword, opening, inner) =>
      { shape := .container, keyword := some keyword, members := members read opening inner }
    | none => { shape := .other }

/-- A binding, from its pieces between `const` or `var` and the semicolon; `place` is where that
word ends. -/
def binding (read : Reading) (place : Nat) (pieces : List Piece) : Node :=
  let body := code pieces
  let name := (body.head?.filter (·.isIdentifier)).map (·.span)
  { shape := .binding
    name := some (name.getD (emptySpan (commentsEnd place pieces)))
    init :=
      if body.any (·.isMark "=") then initializer? read (dropThrough (·.isMark "=") body)
      else none }

/-- How a declaration begins, with the pieces behind its beginning or behind all of it. -/
inductive Opening where
  | comment (rest : List Piece)
  | block (rest : List Piece)
  | use (rest : List Piece)
  | function (name : Option Span) (rest : List Piece)
  | binding (word : Piece) (rest : List Piece)
  | field

/-- A function from the pieces behind the word `fn`. -/
def Opening.ofFunction (modified : Bool) (tail : List Piece) : Opening :=
  let name := ((code tail).head?.filter (·.isIdentifier)).map (·.span)
  match functionEnd? modified (code tail) with
  | some last => .function name (dropThrough (·.start = last.start) tail)
  | none => if modified then .function name [] else .field

def Opening.of (piece : Piece) (rest : List Piece) : Opening :=
  if piece.isComment then .comment rest
  else if piece.isWord "test" ||
      (piece.isWord "comptime" && (code rest).head?.any (·.isBlock)) then .block rest
  else match dropModifiers (piece :: rest) with
    | [] => .field
    | head :: tail =>
      if head.isWord "usingnamespace" then .use tail
      else if head.isOneOf ["const", "var"] then .binding head tail
      else if head.isWord "fn" then .ofFunction (head.start ≠ piece.start) tail
      else .field

/-- How far the head of a `for` loop has been read. The names that it binds stand between bars. -/
inductive LoopHead where
  | absent
  | word
  | operands
  | names
deriving DecidableEq, Repr

def LoopHead.next (head : LoopHead) (piece : Piece) : LoopHead :=
  if piece.isComment then head
  else match head with
    | .names => if piece.isMark "|" then .absent else .names
    | .operands => if piece.isMark "|" then .names else .absent
    | .word => if piece.isParens then .operands else .absent
    | .absent => if piece.isWord "for" then .word else .absent

/-- The pieces before the comma that ends a field. A comma between the names of a loop does not. -/
def fieldPieces (head : LoopHead) : List Piece → List Piece
  | [] => []
  | piece :: rest =>
    if piece.isMark "," && head ≠ .names then [] else piece :: fieldPieces (head.next piece) rest

/-- Where the text before the last `count` of some pieces ends. -/
def placeBefore (place : Nat) (pieces : List Piece) (count : Nat) : Nat :=
  ((pieces.take (pieces.length - count)).getLast?.map (·.stop)).getD place

/-- The declarations of one level, comments included; `place` is where the text before the level
ends. Each round reads one declaration or enters one container, so the number of pieces bounds
`fuel`. Comments behind a field are not part of it. -/
def declarations (fuel : Nat) (place : Nat) (pieces : List Piece) : List Node :=
  match fuel, pieces with
  | 0, _ => []
  | _, [] => []
  | fuel + 1, piece :: rest =>
    let next (left : List Piece) : List Node :=
      declarations fuel (placeBefore place pieces left.length) left
    match Opening.of piece rest with
    | .comment rest => { shape := .other } :: next rest
    | .block rest => { shape := .other } :: next (dropThrough (·.isBlock) rest)
    | .use rest => { shape := .other } :: next (dropThrough (·.isMark ";") rest)
    | .function name rest => { shape := .function, name := name } :: next rest
    | .binding word rest =>
      binding (declarations fuel) word.stop (rest.takeWhile (!·.isMark ";")) ::
        next (dropThrough (·.isMark ";") rest)
    | .field =>
      let body := fieldPieces .absent pieces
      let trailing := (body.reverse.takeWhile (·.isComment)).reverse
      field place (code body) :: next (trailing ++ (pieces.drop (body.length + 1)))

/-- The declaration tree of a source file. On text that is not Zig the answer means nothing. -/
def read (source : Bytes) : Syntax.Tree :=
  let tokens := Token.scan source
  { source := source, declarations := declarations (tokens.length + 1) 0 (Piece.ofTokens tokens) }

end TagIndex.Zig
