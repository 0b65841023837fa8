import TagIndex.Zig.Token

namespace TagIndex.Zig

/-- A token, or a bracketed run of pieces with the bytes from its opening to its closing bracket. -/
inductive Piece where
  | token (token : Token)
  | group (opening : UInt8) (start stop : Nat) (inner : List Piece)

/-- An open bracket with what was read before it and behind it, both latest first. -/
structure Pending where
  opening : UInt8
  start : Nat
  before : List Piece

namespace Piece

def isOpening (b : UInt8) : Bool := b == 40 || b == 91 || b == 123

def isClosing (b : UInt8) : Bool := b == 41 || b == 93 || b == 125

/-- Groups the tokens. `current` holds the pieces of the innermost open bracket, latest first. A
closing bracket without an opening one is dropped, and brackets still open at the end are closed
there. -/
def groupFrom (pending : List Pending) (current : List Piece) (stop : Nat) :
    List Token → List Piece
  | [] =>
    match pending with
    | [] => current.reverse
    | open_ :: outer =>
      groupFrom outer
        (.group open_.opening open_.start stop current.reverse :: open_.before) stop []
  | t :: rest =>
    let b := t.text.headD 0
    if t.sort = .mark && isOpening b then
      groupFrom (⟨b, t.start, current⟩ :: pending) [] t.stop rest
    else if t.sort = .mark && isClosing b then
      match pending with
      | [] => groupFrom [] current t.stop rest
      | open_ :: outer =>
        groupFrom outer
          (.group open_.opening open_.start t.stop current.reverse :: open_.before)
          t.stop rest
    else groupFrom pending (.token t :: current) t.stop rest
termination_by tokens => (tokens.length, pending.length)

def ofTokens (tokens : List Token) : List Piece := groupFrom [] [] 0 tokens

def start : Piece → Nat
  | token t => t.start
  | group _ start _ _ => start

def stop : Piece → Nat
  | token t => t.stop
  | group _ _ stop _ => stop

def isComment : Piece → Bool
  | token t => t.sort = .comment
  | group .. => false

def isIdentifier : Piece → Bool
  | token t => t.sort = .word
  | group .. => false

def isString : Piece → Bool
  | token t => t.sort = .string
  | group .. => false

def isWord (word : String) : Piece → Bool
  | token t => t.isWord word
  | group .. => false

def isOneOf (words : List String) (piece : Piece) : Bool := words.any fun word => piece.isWord word

def isMark (mark : String) : Piece → Bool
  | token t => t.isMark mark
  | group .. => false

def isBlock : Piece → Bool
  | token _ => false
  | group opening _ _ _ => opening = 123

def isParens : Piece → Bool
  | token _ => false
  | group opening _ _ _ => opening = 40

def isBrackets : Piece → Bool
  | token _ => false
  | group opening _ _ _ => opening = 91

def isAnyMark : Piece → Bool
  | token t => t.sort = .mark
  | group .. => false

end Piece

end TagIndex.Zig
