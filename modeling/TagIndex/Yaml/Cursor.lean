import TagIndex.Yaml.Error

namespace TagIndex.Yaml

/-- A place in a text. The end is seen as a zero character, which no document has. -/
structure Cursor where
  rest : List Char
  index : Nat := 0
  line : Nat := 0
  column : Nat := 0
deriving Repr

def nul : Char := '\x00'

def byteOrderMark : Char := Char.ofNat 0xFEFF

/-- Line feed, next line, line separator and paragraph separator. -/
def isBreak (c : Char) : Bool :=
  c = '\n' || c.toNat = 0x85 || c.toNat = 0x2028 || c.toNat = 0x2029

def isBreakOrEnd (c : Char) : Bool := c = nul || isBreak c

/-- What ends a token that is not quoted. -/
def isGap (c : Char) : Bool := c = ' ' || c = '\t' || isBreakOrEnd c

def isGapNoTab (c : Char) : Bool := c = ' ' || isBreakOrEnd c

def isWordChar (c : Char) : Bool := c.isAlphanum || c = '-' || c = '_'

def hexDigit? (c : Char) : Option Nat :=
  let n := c.toNat
  if 48 ≤ n && n ≤ 57 then some (n - 48)
  else if 65 ≤ n && n ≤ 70 then some (n - 55)
  else if 97 ≤ n && n ≤ 102 then some (n - 87)
  else none

namespace Cursor

def peek (cursor : Cursor) (ahead : Nat := 0) : Char := (cursor.rest[ahead]?).getD nul

/-- One character further. A byte order mark takes no column. -/
def next (cursor : Cursor) : Cursor :=
  match cursor.rest with
  | [] => cursor
  | c :: rest =>
    if isBreak c then { rest := rest, index := cursor.index + 1, line := cursor.line + 1 }
    else
      { cursor with
        rest := rest, index := cursor.index + 1
        column := if c = byteOrderMark then cursor.column else cursor.column + 1 }

def skip (cursor : Cursor) : Nat → Cursor
  | 0 => cursor
  | n + 1 => cursor.next.skip n

/-- The characters up to the first that fails `p`, and the place behind them. -/
def takeWhile (cursor : Cursor) (p : Char → Bool) : List Char × Cursor :=
  let taken := cursor.rest.takeWhile p
  (taken, cursor.skip taken.length)

def skipWhile (cursor : Cursor) (p : Char → Bool) : Cursor := (cursor.takeWhile p).2

def skipSpaces (cursor : Cursor) : Cursor := cursor.skipWhile (· = ' ')

def skipComment (cursor : Cursor) : Cursor :=
  if cursor.peek = '#' then cursor.skipWhile (!isBreak ·) else cursor

/-- A line break and the place behind it. The first two breaks read as a line feed. -/
def lineBreak (cursor : Cursor) : List Char × Cursor :=
  let c := cursor.peek
  if c = '\n' || c.toNat = 0x85 then (['\n'], cursor.next)
  else if isBreak c then ([c], cursor.next)
  else ([], cursor)

def endLine (cursor : Cursor) : Except Error Cursor :=
  let cursor := cursor.skipSpaces.skipComment
  if isBreakOrEnd cursor.peek then .ok cursor.lineBreak.2 else .error .malformed

/-- Whether three equal marks and a gap stand here. -/
def atMarker (cursor : Cursor) (mark : Char) : Bool :=
  cursor.peek = mark && cursor.peek 1 = mark && cursor.peek 2 = mark && isGap (cursor.peek 3)

def atSeparator (cursor : Cursor) : Bool := cursor.atMarker '-' || cursor.atMarker '.'

end Cursor

end TagIndex.Yaml
