import TagIndex.Calendar
import TagIndex.Number.Shortest
import TagIndex.Text.Quoted

namespace TagIndex

/-- A value. What is not a number equals itself only, so `origin` tells apart those that come from
different places. Inside itself a list or mapping stands as `again`. -/
inductive Value where
  | null
  | bool (b : Bool)
  | int (n : Int)
  | float (x : Binary64)
  | notANumber (origin : Nat)
  | text (s : Text)
  | bytes (b : Bytes)
  | date (day : Date)
  | moment (time : Moment)
  | list (items : List Value)
  | map (pairs : List (Value × Value))
  | set (items : List Value)
  | pair (first second : Value)
  | again (mapping : Bool)
deriving Repr, Inhabited

namespace Value

def ofString (s : String) : Value := .text (Text.ofString s)

def ofPath (bytes : Bytes) : Value := .text (Text.ofPath bytes)

def ofBinary (x : Binary64) (origin : Nat) : Value :=
  match x with
  | .notANumber => .notANumber origin
  | x => .float x

def typeName : Value → String
  | null => "NoneType"
  | bool _ => "bool"
  | int _ => "int"
  | float _ | notANumber _ => "float"
  | text _ => "str"
  | bytes _ => "bytes"
  | date _ => "date"
  | moment _ => "datetime"
  | list _ => "list"
  | map _ => "dict"
  | set _ => "set"
  | pair _ _ => "tuple"
  | again mapping => if mapping then "dict" else "list"

/-- Whether a value counts as yes. Zero and everything empty counts as no. -/
def isTruthy : Value → Bool
  | null => false
  | bool b => b
  | int n => n ≠ 0
  | float x => !x.isZero
  | text s => !s.isEmpty
  | bytes b => !b.isEmpty
  | list items => !items.isEmpty
  | map pairs => !pairs.isEmpty
  | set items => !items.isEmpty
  | notANumber _ | date _ | moment _ | pair _ _ | again _ => true

/-- Integers with more decimal digits than this are neither read nor written. -/
def mostDigits : Nat := 4300

def intText? (n : Int) : Option String :=
  if mostDigits < (Nat.toDigits 10 n.natAbs).length then none else some (toString n)

mutual

def quoted? (value : Value) : Option String :=
  match value with
  | null => some "None"
  | bool b => some (if b then "True" else "False")
  | int n => intText? n
  | float x => some x.text
  | notANumber _ => some "nan"
  | text s => some (Text.quotedText s)
  | bytes b => some (Text.quotedBytes b)
  | date day => some day.quoted
  | moment time => some time.quoted
  | list items => do return "[" ++ ", ".intercalate (← quotedItems? items) ++ "]"
  | map pairs => do return "\x7b" ++ ", ".intercalate (← quotedPairs? pairs) ++ "\x7d"
  | set [] => some "set()"
  | set (item :: items) => do
    return "\x7b" ++ ", ".intercalate ((← item.quoted?) :: (← quotedItems? items)) ++ "\x7d"
  | pair first second => do return "(" ++ (← first.quoted?) ++ ", " ++ (← second.quoted?) ++ ")"
  | again mapping => some (if mapping then "\x7b...\x7d" else "[...]")
termination_by structural value

def quotedItems? (items : List Value) : Option (List String) :=
  match items with
  | [] => some []
  | item :: rest => do return (← item.quoted?) :: (← quotedItems? rest)
termination_by structural items

def quotedPairs? (pairs : List (Value × Value)) : Option (List String) :=
  match pairs with
  | [] => some []
  | (key, value) :: rest => do
    return ((← key.quoted?) ++ ": " ++ (← value.quoted?)) :: (← quotedPairs? rest)
termination_by structural pairs

end

/-- The value as a message shows it on its own: texts, days and moments are not quoted. -/
def shown? : Value → Option String
  | text s => some (Text.display s)
  | date day => some day.shown
  | moment time => some (time.shown " ")
  | value => value.quoted?

/-- The number that a value stands for when keys are compared: truth values are one and zero. -/
def number? : Value → Option Binary64
  | bool b => some (.finite false (if b then 1 else 0) 0)
  | int n => some (.finite (n < 0) n.natAbs 0)
  | float x => some x
  | notANumber _ => some .notANumber
  | _ => none

/-- Whether two values are one key of a mapping. Numbers of different types are, when equal. -/
def sameKey : Value → Value → Bool
  | null, null => true
  | text s, text t => s = t
  | bytes a, bytes b => a = b
  | date a, date b => a = b
  | moment a, moment b => a.same b
  | notANumber a, notANumber b => a = b
  | a, b =>
    match a.number?, b.number? with
    | some x, some y => x.sameValue y
    | _, _ => false

/-- Whether a value can be a key: lists, mappings and sets cannot. -/
def isKey : Value → Bool
  | list _ | map _ | set _ | again _ => false
  | pair first second => first.isKey && second.isKey
  | _ => true

end Value

abbrev Mapping := List (Value × Value)

namespace Mapping

/-- Sets a key. A key that is there already keeps its place and its spelling. -/
def set {α : Type} (key : Value) (value : α) : List (Value × α) → List (Value × α)
  | [] => [(key, value)]
  | (k, v) :: rest => if k.sameKey key then (k, value) :: rest else (k, v) :: set key value rest

def get? (mapping : Mapping) (key : String) : Option Value :=
  (mapping.find? fun pair => pair.1.sameKey (.ofString key)).map (·.2)

end Mapping

end TagIndex
