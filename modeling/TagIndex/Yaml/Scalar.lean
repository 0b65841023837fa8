import TagIndex.Text.Base64
import TagIndex.Text.Digit
import TagIndex.Text.Lowercase
import TagIndex.Text.Trim
import TagIndex.Yaml.Meaning

namespace TagIndex.Yaml.Scalar

open Meaning (splitOn)

def withoutGaps (text : Text) : Text := text.filter (· ≠ .char '_')

def signed (text : Text) : Bool × Text :=
  match text with
  | .char '-' :: rest => (true, rest)
  | .char '+' :: rest => (false, rest)
  | rest => (false, rest)

def signedChars (cs : List Char) : Bool × List Char :=
  match cs with
  | '-' :: rest => (true, rest)
  | '+' :: rest => (false, rest)
  | rest => (false, rest)

/-- The value of a digit of a base up to sixteen. The decimal ones may be of any script. -/
def digitValue? (c : Char) : Option Nat := (hexDigit? c).or (Text.digit? c)

/-- The values of some digits, if all of them are digits below `base`. -/
def digitValues? (base : Nat) (digits : List Char) : Option (List Nat) :=
  digits.mapM fun c => (digitValue? c).filter (· < base)

def ofDigits (base : Nat) (values : List Nat) : Nat := values.foldl (fun n d => n * base + d) 0

def withoutMark (base : Nat) : List Char → List Char
  | '0' :: mark :: digits =>
    let marks := if base = 2 then ['b', 'B'] else if base = 8 then ['o', 'O']
      else if base = 16 then ['x', 'X'] else []
    if marks.contains mark then digits else '0' :: mark :: digits
  | digits => digits

/-- The number that a text spells in a base. It may have a sign and stand between blanks. Bases that
are powers of two have no limit on digits. -/
def integer (base : Nat) (text : Text) : Except Error Int :=
  let (negative, body) := signedChars (Text.trimBy Text.isNumberBlank (Text.looks text))
  let digits := withoutMark base body
  let leading := digits.takeWhile fun c => (digitValue? c).any (· < base)
  if base = 10 && Value.mostDigits < leading.length then .error (.longInteger leading.length)
  else match digitValues? base digits, digits.isEmpty with
    | some values, false =>
      .ok (if negative then -(ofDigits base values : Int) else ofDigits base values)
    | _, _ => .error (.noInteger base text)

def sixties (parts : List Text) : Except Error Int :=
  return (← parts.mapM (integer 10)).foldl (fun n part => n * 60 + part) 0

def intSize (digits : Text) : Except Error Int :=
  match Text.looks digits with
  | [] => .error .emptyNumber
  | ['0'] => .ok 0
  | '0' :: 'b' :: _ => integer 2 (digits.drop 2)
  | '0' :: 'x' :: _ => integer 16 (digits.drop 2)
  | '0' :: _ => integer 8 digits
  | cs => if cs.contains ':' then sixties (splitOn (.char ':') digits) else integer 10 digits

def int (text : Text) : Except Error Value := do
  let (negative, digits) := signed (withoutGaps text)
  let size ← intSize digits
  return .int (if negative then -size else size)

/-- The number that decimal digits with a point and an exponent spell, if they spell one. -/
def decimal? (negative : Bool) (cs : List Char) : Option Binary64 := do
  let mantissa := cs.takeWhile (· ≠ 'e')
  let scale := cs.dropWhile (· ≠ 'e')
  let fraction := (mantissa.dropWhile (· ≠ '.')).drop 1
  let digits ← digitValues? 10 (mantissa.takeWhile (· ≠ '.') ++ fraction)
  let (down, power) := signedChars (scale.drop 1)
  let size := (ofDigits 10 (← digitValues? 10 power) : Int)
  if digits.isEmpty || (power.isEmpty && !scale.isEmpty) then none
  else
    return .ofScientific negative (ofDigits 10 digits)
      ((if down then -size else size) - fraction.length)

/-- The number that a text in small letters spells. It may have a sign and stand between blanks. -/
def decimal (text : Text) : Except Error Binary64 :=
  let (negative, cs) := signedChars (Text.trimBy Text.isNumberBlank (Text.looks text))
  let word := String.ofList cs
  if word = "inf" || word = "infinity" then .ok (.infinite negative)
  else if word = "nan" then .ok .notANumber
  else match decimal? negative cs with
    | some value => .ok value
    | none => .error (.noFloat text)

/-- The sum of digits of base sixty, the last first. Each power, product and sum is rounded. -/
def sumSixties (sum : Binary64) (power : Nat) : List Binary64 → Except Error Binary64
  | [] => .ok sum
  | digit :: rest =>
    match Binary64.ofNat? power with
    | none => .error .largePower
    | some factor => sumSixties (sum.add (digit.mul factor)) (power * 60) rest

def floatSize (digits : Text) : Except Error Binary64 := do
  if digits.contains (.char ':') then
    let parts ← (splitOn (.char ':') digits).mapM decimal
    sumSixties (.finite false 0 Binary64.leastExponent) 1 parts.reverse
  else decimal digits

/-- A floating-point number. The one word for what is not a number always means the same; all others
that come to nothing are as many as their `origin`s. -/
def float (origin : Nat) (text : Text) : Except Error Value := do
  let text := Text.lower (withoutGaps text)
  if text.isEmpty then throw .emptyNumber
  let (negative, digits) := signed text
  if digits = Text.ofString ".inf" then return .float (.infinite negative)
  if digits = Text.ofString ".nan" then return .notANumber 0
  let size ← floatSize digits
  return .ofBinary (if negative then size.neg else size) (origin + 1)

def bool (text : Text) : Except Error Value :=
  let word := Text.lower text
  if ["yes", "true", "on"].any (word = Text.ofString ·) then .ok (.bool true)
  else if ["no", "false", "off"].any (word = Text.ofString ·) then .ok (.bool false)
  else .error (.noFlag word)

def moment (stamp : Timestamp) (clock : Clock) : Except NoMoment Moment :=
  Moment.check stamp.year stamp.month stamp.day clock.hour clock.minute clock.second
    (Timestamp.microseconds clock.fraction) clock.offset

/-- A day or a moment. A line feed at the end does not count. -/
def time (text : Text) : Except Error Value :=
  match Timestamp.read? (Meaning.withoutLastBreak (Text.looks text)) with
  | none => .error .noTime
  | some stamp =>
    match stamp.clock with
    | none => ((Date.check stamp.year stamp.month stamp.day).map .date).mapError .noMoment
    | some clock => ((moment stamp clock).map .moment).mapError .noMoment

/-- Bytes in base sixty-four. Only basic Latin characters may stand among them. -/
def bytes (text : Text) : Except Error Value :=
  let cs := Text.looks text
  if cs.any (128 ≤ ·.toNat) then .error .malformed
  else match Text.Base64.decode? cs with
    | some bytes => .ok (.bytes bytes)
    | none => .error .malformed

end TagIndex.Yaml.Scalar
