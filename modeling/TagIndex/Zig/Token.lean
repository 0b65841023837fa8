import TagIndex.Bytes

namespace TagIndex.Zig

/-- The sorts of tokens. A word is a keyword or an identifier, quoted ones included. -/
inductive Lexeme where
  | word
  | builtin
  | number
  | string
  | comment
  | mark
deriving DecidableEq, Repr

structure Token where
  sort : Lexeme
  start : Nat
  stop : Nat
  text : Bytes
deriving DecidableEq, Repr

namespace Token

def isWordStart (b : UInt8) : Bool :=
  (65 ≤ b && b ≤ 90) || (97 ≤ b && b ≤ 122) || b == 95

def isDigit (b : UInt8) : Bool := 48 ≤ b && b ≤ 57

def isWordByte (b : UInt8) : Bool := isWordStart b || isDigit b

def isSpace (b : UInt8) : Bool := b == 32 || (9 ≤ b && b ≤ 13)

/-- The number of bytes up to and with the closing quote. A backslash takes the next byte with
it. -/
def quotedLength (quote : UInt8) : Bytes → Nat
  | [] => 0
  | [_] => 1
  | b :: c :: rest =>
    if b = quote then 1
    else if b = Bytes.backslash then 2 + quotedLength quote rest
    else 1 + quotedLength quote (c :: rest)

def lineLength (bytes : Bytes) : Nat := (bytes.takeWhile (· != Bytes.newline)).length

def wordLength (bytes : Bytes) : Nat := (bytes.takeWhile isWordByte).length

/-- The marks of more than one byte that must not be read as an equals sign, a star, a question mark
or a greater sign of their own; a longer mark stands before its beginnings. -/
def longMarks : List Bytes :=
  ["<<|=", "<<=", ">>=", "+%=", "-%=", "*%=", "+|=", "-|=", "*|=", "==", "=>", "!=", "<=", ">=",
   "->", "+=", "-=", "*=", "/=", "%=", "&=", "|=", "^=", ".*", ".?", "...", ".."].map Bytes.ofString

def markLength (bytes : Bytes) : Nat :=
  match longMarks.find? (·.isPrefixOf bytes) with
  | some mark => mark.length
  | none => 1

/-- The sort of the first token and the number of bytes it takes behind the first one. -/
def first (b : UInt8) (rest : Bytes) : Lexeme × Nat :=
  if isWordStart b then (.word, wordLength rest)
  else if isDigit b then (.number, wordLength rest)
  else if b = 34 then (.string, quotedLength 34 rest)
  else if b = 39 then (.string, quotedLength 39 rest)
  else match b, rest with
    | 64, 34 :: name => (.word, 1 + quotedLength 34 name)
    | 64, name => (.builtin, wordLength name)
    | 47, 47 :: _ => (.comment, lineLength rest)
    | 92, 92 :: _ => (.string, lineLength rest)
    | _, _ => (.mark, markLength (b :: rest) - 1)

/-- The tokens of a text that starts at `offset`. -/
def scanFrom (offset : Nat) : Bytes → List Token
  | [] => []
  | b :: rest =>
    if isSpace b then scanFrom (offset + 1) rest
    else
      let (sort, taken) := first b rest
      { sort := sort, start := offset, stop := offset + 1 + taken, text := b :: rest.take taken } ::
        scanFrom (offset + 1 + taken) (rest.drop taken)
termination_by bytes => bytes.length
decreasing_by all_goals simp only [List.length_drop, List.length_cons]; omega

/-- The tokens of a source file. A byte order mark in front is passed over. -/
def scan : Bytes → List Token
  | 0xEF :: 0xBB :: 0xBF :: rest => scanFrom 3 rest
  | source => scanFrom 0 source

def isWord (token : Token) (word : String) : Bool :=
  token.sort = .word && token.text = Bytes.ofString word

def isMark (token : Token) (mark : String) : Bool :=
  token.sort = .mark && token.text = Bytes.ofString mark

end Token

end TagIndex.Zig
