import TagIndex.Text.Utf8

namespace TagIndex

/-- A character, or half of a surrogate pair. The halves are numbered from the first one. -/
inductive Text.CodePoint where
  | char (c : Char)
  | half (number : Fin 0x800)
deriving DecidableEq, Repr

abbrev Text := List Text.CodePoint

namespace Text

namespace CodePoint

def firstHalf : Nat := 0xD800

def value : CodePoint → Nat
  | char c => c.toNat
  | half number => firstHalf + number.val

def ofValue (n : Nat) : CodePoint :=
  if h : firstHalf ≤ n ∧ n < firstHalf + 0x800 then
    .half ⟨n - firstHalf, Nat.sub_lt_left_of_lt_add h.1 h.2⟩
  else .char (Char.ofNat n)

/-- The half that stands for a byte of a path. -/
def ofStray (b : UInt8) : CodePoint := .ofValue (0xDC00 + b.toNat)

/-- The character that is seen in its place: halves look like the replacement character. -/
def look : CodePoint → Char
  | char c => c
  | half _ => Char.ofNat 0xFFFD

theorem ofValue_value_half (number : Fin 0x800) : ofValue (half number).value = half number := by
  unfold ofValue value
  rw [dif_pos ⟨Nat.le_add_right _ _, Nat.add_lt_add_left number.isLt _⟩]
  simp

end CodePoint

def ofString (s : String) : Text := s.toList.map .char

def looks (text : Text) : List Char := text.map (·.look)

/-- The digits of `n` in base sixteen, with zeros in front up to `width`. -/
def hex (width n : Nat) : String :=
  let digits := Nat.toDigits 16 n
  String.ofList (List.replicate (width - digits.length) '0' ++ digits)

/-- A text in messages. Halves of pairs appear as escapes. -/
def display (text : Text) : String :=
  String.join <| text.map fun
    | .char c => c.toString
    | point => "\\u" ++ hex 4 point.value

/-- The text of a path, without loss. -/
def ofPath (path : Bytes) : Text :=
  (Utf8.pieces path).flatMap fun
    | .char c => [.char c]
    | .broken run => run.map .ofStray

def displayPath (path : Bytes) : String := display (ofPath path)

/-- The bytes that a code point stands for in a path, if it may stand in one. -/
def pathBytes? : CodePoint → Option Bytes
  | .char c => some (String.utf8EncodeChar c)
  | point => if 0xDC80 ≤ point.value ∧ point.value ≤ 0xDCFF then
      some [(point.value - 0xDC00).toUInt8]
    else none

def toPath? (text : Text) : Option Bytes := (text.mapM pathBytes?).map List.flatten

end Text

end TagIndex
