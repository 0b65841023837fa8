import TagIndex.Bytes

namespace TagIndex.Text.Utf8

/-- A character, or bytes that do not make one. -/
inductive Piece where
  | char (c : Char)
  | broken (bytes : Bytes)
deriving DecidableEq, Repr

/-- What must follow a leading byte: the range of the second byte, which rules out overlong forms,
surrogates and values past the last code point, and the number of bytes after that. -/
structure Tail where
  low : UInt8
  high : UInt8
  more : Nat

def tailOf? (b : UInt8) : Option Tail :=
  if 0xC2 ≤ b ∧ b ≤ 0xDF then some ⟨0x80, 0xBF, 0⟩
  else if b = 0xE0 then some ⟨0xA0, 0xBF, 1⟩
  else if b = 0xED then some ⟨0x80, 0x9F, 1⟩
  else if 0xE1 ≤ b ∧ b ≤ 0xEF then some ⟨0x80, 0xBF, 1⟩
  else if b = 0xF0 then some ⟨0x90, 0xBF, 2⟩
  else if 0xF1 ≤ b ∧ b ≤ 0xF3 then some ⟨0x80, 0xBF, 2⟩
  else if b = 0xF4 then some ⟨0x80, 0x8F, 2⟩
  else none

/-- The bytes that may continue a sequence: one in the tail's range, then plain ones. -/
def continuation (tail : Tail) : Bytes → Bytes
  | [] => []
  | b :: rest =>
    if tail.low ≤ b ∧ b ≤ tail.high then
      b :: (rest.take tail.more).takeWhile fun c => 0x80 ≤ c && c ≤ 0xBF
    else []

/-- The value of a leading byte without its length marker, by the number of bytes that follow. -/
def leadValue (b : UInt8) (following : Nat) : Nat :=
  b.toNat % (if following = 1 then 32 else if following = 2 then 16 else 8)

def first (b : UInt8) (rest : Bytes) : Piece × Nat :=
  if b < 0x80 then (.char (Char.ofNat b.toNat), 0)
  else match tailOf? b with
    | none => (.broken [b], 0)
    | some tail =>
      let following := continuation tail rest
      if following.length = tail.more + 1 then
        let value := following.foldl (fun v c => v * 64 + c.toNat % 64)
          (leadValue b following.length)
        (.char (Char.ofNat value), following.length)
      else (.broken (b :: following), following.length)

def pieces : Bytes → List Piece
  | [] => []
  | b :: rest =>
    let (piece, taken) := first b rest
    piece :: pieces (rest.drop taken)
termination_by bytes => bytes.length
decreasing_by simp only [List.length_drop, List.length_cons]; omega

def decode? (bytes : Bytes) : Option String :=
  (pieces bytes).foldr
    (fun piece rest => match piece, rest with
      | .char c, some cs => some (c :: cs)
      | _, _ => none)
    (some [])
  |>.map String.ofList

/-- The text with one replacement character for each broken run. -/
def decodeLossy (bytes : Bytes) : String :=
  String.ofList <| (pieces bytes).map fun
    | .char c => c
    | .broken _ => Char.ofNat 0xFFFD

end TagIndex.Text.Utf8
