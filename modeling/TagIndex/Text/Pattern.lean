import TagIndex.Bytes

namespace TagIndex.Text

open Bytes

/-- The bytes that a pattern writes behind a backslash. -/
def isDelimiter (b : UInt8) : Bool := b == slash || b == backslash

def escape (line : Bytes) : Bytes :=
  line.flatMap fun b => if isDelimiter b then [backslash, b] else [b]

def unescape : Bytes → Bytes
  | [] => []
  | [b] => [b]
  | b :: c :: rest =>
    if b == backslash && isDelimiter c then c :: unescape rest else b :: unescape (c :: rest)

@[simp] theorem escape_nil : escape [] = [] := rfl

theorem escape_append (a b : Bytes) : escape (a ++ b) = escape a ++ escape b := by
  simp [escape]

theorem escape_eq_nil_iff (line : Bytes) : escape line = [] ↔ line = [] := by
  cases line with
  | nil => simp
  | cons b rest => by_cases h : isDelimiter b <;> simp [escape, h]

end TagIndex.Text
