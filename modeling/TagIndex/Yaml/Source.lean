import TagIndex.Text.Utf8
import TagIndex.Yaml.Error

namespace TagIndex.Yaml

/-- A text that ends early if there is a `cut`. -/
structure Source where
  chars : List Char
  cut : Option Error := none

namespace Source

def partSize : Nat := 4096

/-- The number of bytes that are decoded together. -/
def blockSize : Nat := 8192

def unifyBreaks : List Char → List Char
  | [] => []
  | '\r' :: '\n' :: rest => '\n' :: unifyBreaks rest
  | c :: rest => (if c = '\r' then '\n' else c) :: unifyBreaks rest

/-- Characters that a document may hold. -/
def isAllowed (c : Char) : Bool :=
  let n := c.toNat
  n = 9 || n = 10 || n = 13 || (0x20 ≤ n && n ≤ 0x7E) || n = 0x85 || (0xA0 ≤ n && n ≤ 0xFFFD) ||
    0x10000 ≤ n

def leadingChars : List Text.Utf8.Piece → List Char
  | .char c :: rest => c :: leadingChars rest
  | _ => []

def isBroken : Text.Utf8.Piece → Bool
  | .char _ => false
  | .broken _ => true

/-- Where the part begins that holds the character at `place`. -/
def partOf (place : Nat) : Nat :=
  if place < 2 * partSize then 0 else place / partSize * partSize

/-- Where the part begins whose bytes cannot all be decoded, if there is one. The bytes of a block
are decoded together, so all of the block that holds the first stray byte is missing. -/
def undecodablePart? (bytes : Bytes) (pieces : List Text.Utf8.Piece) (chars : List Char) :
    Option Nat :=
  if pieces.any isBroken then
    let size := (chars.flatMap String.utf8EncodeChar).length
    let block := bytes.take (size / blockSize * blockSize)
    some (partOf (unifyBreaks (leadingChars (Text.Utf8.pieces block))).length)
  else none

def ofBytes (bytes : Bytes) : Source :=
  let pieces := Text.Utf8.pieces bytes
  let leading := leadingChars pieces
  let chars := unifyBreaks leading
  let undecodable := undecodablePart? bytes pieces leading
  let refused := (chars.findIdx? (!isAllowed ·)).map partOf
  match undecodable, refused with
  | none, none => { chars := chars }
  | some start, none => { chars := chars.take start, cut := some .undecodable }
  | none, some start => { chars := chars.take start, cut := some .malformed }
  | some start, some other =>
    if start ≤ other then { chars := chars.take start, cut := some .undecodable }
    else { chars := chars.take other, cut := some .malformed }

end Source

end TagIndex.Yaml
