import TagIndex.Calendar
import TagIndex.Settings.Value

namespace TagIndex.Yaml

inductive Error where
  /-- The bytes are no text. -/
  | undecodable
  /-- The text breaks the rules of the format. -/
  | malformed
  /-- The text ends inside quotes. -/
  | unfinished
  /-- An escape gives a number past the last code point; from `signedReach` on it does not even fit
  into a word. -/
  | noCodePoint (number : Nat)
  | noInteger (base : Nat) (spelling : Text)
  | longInteger (digits : Nat)
  | noFloat (spelling : Text)
  /-- A power of sixty is too large for a floating-point number. -/
  | largePower
  | noFlag (spelling : Text)
  /-- Nothing is left of a number but its sign and gaps. -/
  | emptyNumber
  | noMoment (cause : NoMoment)
  /-- A text that should give a time has not the form of one. -/
  | noTime
  /-- A time is asked of a mapping. -/
  | timeOfMapping
deriving DecidableEq, Repr

namespace Error

def signedReach : Nat := 0x80000000

/-- What is said about digits, when there are too many of them to be read or written. -/
def digitLimit (found : String) : String :=
  "Exceeds the limit (" ++ toString Value.mostDigits ++
    " digits) for integer string conversion" ++ found ++
    "; use sys.set_int_max_str_digits() to increase the limit"

def message : Error → String
  | undecodable => ""
  | malformed | unfinished => "the document is not well formed"
  | noCodePoint number =>
    if number < signedReach then "chr() arg not in range(0x110000)"
    else "Python int too large to convert to C int"
  | noInteger base spelling =>
    "invalid literal for int() with base " ++ toString base ++ ": " ++ Text.quotedText spelling
  | longInteger digits => digitLimit (": value has " ++ toString digits ++ " digits")
  | noFloat spelling => "could not convert string to float: " ++ Text.quotedText spelling
  | largePower => "int too large to convert to float"
  | noFlag spelling => Text.quotedText spelling
  | emptyNumber => "string index out of range"
  | noMoment cause => cause.message
  | noTime => "'NoneType' object has no attribute 'groupdict'"
  | timeOfMapping => "expected string or bytes-like object, got 'list'"

end Error

end TagIndex.Yaml
