import TagIndex.Yaml.Cursor
import TagIndex.Yaml.Timestamp

namespace TagIndex.Yaml

inductive Meaning where
  | null
  | bool
  | int
  | float
  | time
  | merge
  | default
  | reserved
  | text
deriving DecidableEq, Repr

namespace Meaning

def isNonZeroDigit (c : Char) : Bool := c.isDigit && c ≠ '0'

def isDigitOrGap (c : Char) : Bool := c.isDigit || c = '_'

/-- The parts between the places of a separator. -/
def splitOn {α : Type} [DecidableEq α] (sep : α) : List α → List (List α)
  | [] => [[]]
  | c :: rest =>
    if c = sep then [] :: splitOn sep rest
    else match splitOn sep rest with
      | [] => [[c]]
      | part :: parts => (c :: part) :: parts

def withoutSign : List Char → List Char
  | '-' :: rest => rest
  | '+' :: rest => rest
  | rest => rest

def isNull (s : String) : Bool := ["~", "null", "Null", "NULL"].contains s

def isBool (s : String) : Bool :=
  ["yes", "Yes", "YES", "no", "No", "NO", "true", "True", "TRUE", "false", "False", "FALSE",
   "on", "On", "ON", "off", "Off", "OFF"].contains s

/-- A digit of base sixty: at most two decimal digits, below sixty. -/
def isSixtieth : List Char → Bool
  | [c] => c.isDigit
  | [c, d] => '0' ≤ c && c ≤ '5' && d.isDigit
  | _ => false

/-- An integer without its sign. Underscores group digits and mean nothing. -/
def isNatural (cs : List Char) : Bool :=
  match cs with
  | ['0'] => true
  | '0' :: 'b' :: digits => !digits.isEmpty && digits.all fun c => c = '0' || c = '1' || c = '_'
  | '0' :: 'x' :: digits =>
    !digits.isEmpty && digits.all fun c => (hexDigit? c).isSome || c = '_'
  | '0' :: digits => digits.all fun c => ('0' ≤ c && c ≤ '7') || c = '_'
  | _ =>
    match splitOn ':' cs with
    | first :: rest =>
      first.head?.any isNonZeroDigit && first.all isDigitOrGap && rest.all isSixtieth
    | [] => false

def isInt (cs : List Char) : Bool := isNatural (withoutSign cs)

/-- The digits behind a decimal point, with an exponent whose sign must be written. -/
def isFraction (cs : List Char) : Bool :=
  match cs.dropWhile isDigitOrGap with
  | [] => true
  | e :: s :: digits =>
    (e = 'e' || e = 'E') && (s = '-' || s = '+') && !digits.isEmpty && digits.all (·.isDigit)
  | _ => false

def isFloat (cs : List Char) : Bool :=
  let unsigned := withoutSign cs
  let whole := unsigned.takeWhile (· ≠ '.')
  let behind := unsigned.dropWhile (· ≠ '.')
  match behind with
  | [] => false
  | _ :: fraction =>
    if whole.isEmpty then
      ["inf", "Inf", "INF"].contains (String.ofList fraction) ||
        (unsigned = cs &&
          (["nan", "NaN", "NAN"].contains (String.ofList fraction) ||
            (fraction.head?.any (·.isDigit) && isFraction fraction)))
    else
      match splitOn ':' whole with
      | [first] => first.head?.any (·.isDigit) && first.all isDigitOrGap && isFraction fraction
      | first :: rest =>
        first.head?.any (·.isDigit) && first.all isDigitOrGap && rest.all isSixtieth &&
          fraction.all isDigitOrGap
      | [] => false

def isTime (cs : List Char) : Bool :=
  (Timestamp.read? cs).any fun stamp => stamp.exact || stamp.clock.isSome

def ofWord (cs : List Char) : Meaning :=
  let s := String.ofList cs
  if isNull s then .null
  else if isBool s then .bool
  else if isFloat cs then .float
  else if isInt cs then .int
  else if s = "<<" then .merge
  else if isTime cs then .time
  else if s = "=" then .default
  else if ["!", "&", "*"].contains s then .reserved
  else .text

/-- One line feed less, where the last character is one and not the only one. -/
def withoutLastBreak (cs : List Char) : List Char :=
  if 1 < cs.length && cs.getLast? = some '\n' then cs.dropLast else cs

/-- The meaning of a plain scalar. A line feed at its end does not count. -/
def of (text : Text) : Meaning :=
  match Text.looks text with
  | [] => .null
  | cs => ofWord (withoutLastBreak cs)

def tag : Meaning → String
  | null => "null"
  | bool => "bool"
  | int => "int"
  | float => "float"
  | time => "timestamp"
  | merge => "merge"
  | default => "value"
  | reserved => "yaml"
  | text => "str"

end Meaning

end TagIndex.Yaml
