import TagIndex.Calendar
import TagIndex.Text.Digit

namespace TagIndex.Yaml

structure Clock where
  hour : Nat
  minute : Nat
  second : Nat
  fraction : List Char := []
  offset : Option Int := none
deriving DecidableEq, Repr

/-- A day, perhaps with a time, as it is written. A day alone is `exact` when its month and its day
have two digits. -/
structure Timestamp where
  year : Nat
  month : Nat
  day : Nat
  exact : Bool
  clock : Option Clock := none
deriving DecidableEq, Repr

namespace Timestamp

def number (digits : List Char) : Nat := digits.foldl (fun n d => n * 10 + (d.toNat - 48)) 0

def isBlank (c : Char) : Bool := c = ' ' || c = '\t'

/-- The number of `least` to `most` digits at the head, their count and the rest. -/
def digits? (least most : Nat) (cs : List Char) : Option (Nat × Nat × List Char) :=
  let found := (cs.take most).takeWhile Char.isDigit
  if found.length < least then none else some (number found, found.length, cs.drop found.length)

def behind? (c : Char) (cs : List Char) : Option (List Char) :=
  match cs with
  | head :: rest => if head = c then some rest else none
  | [] => none

def offset? (cs : List Char) : Option Int :=
  match cs with
  | ['Z'] => some 0
  | sign :: rest => do
    if sign ≠ '+' && sign ≠ '-' then none
    let (hours, _, rest) ← digits? 1 2 rest
    let minutes ←
      if rest.isEmpty then pure 0
      else do
        let (minutes, _, rest) ← digits? 2 2 (← behind? ':' rest)
        if rest.isEmpty then pure minutes else none
    return (if sign = '-' then -1 else 1) * ((hours * 60 + minutes : Nat) : Int)
  | [] => none

/-- The time that is all there is. Blanks may stand before the offset only. -/
def clock? (cs : List Char) : Option Clock := do
  let (hour, _, rest) ← digits? 1 2 cs
  let (minute, _, rest) ← digits? 2 2 (← behind? ':' rest)
  let (second, _, rest) ← digits? 2 2 (← behind? ':' rest)
  let fraction := match rest with
    | '.' :: rest => rest.takeWhile Char.isDigit
    | _ => []
  let rest := match rest with
    | '.' :: rest => rest.dropWhile Char.isDigit
    | rest => rest
  let offset ← if rest.isEmpty then pure none else (offset? (rest.dropWhile isBlank)).map some
  return ⟨hour, minute, second, fraction, offset⟩

/-- What stands behind the letter or the blanks between a day and its time. -/
def behindJoint? (cs : List Char) : Option (List Char) :=
  match cs with
  | [] => none
  | c :: rest =>
    if c = 'T' || c = 't' then some rest
    else if isBlank c then some (rest.dropWhile isBlank)
    else none

def read? (cs : List Char) : Option Timestamp := do
  let (year, _, rest) ← digits? 4 4 cs
  let (month, monthDigits, rest) ← digits? 1 2 (← behind? '-' rest)
  let (day, dayDigits, rest) ← digits? 1 2 (← behind? '-' rest)
  let exact := monthDigits = 2 && dayDigits = 2
  if rest.isEmpty then return ⟨year, month, day, exact, none⟩
  return ⟨year, month, day, exact, ← clock? (← behindJoint? rest)⟩

/-- Six digits of a fraction. Further ones are dropped. -/
def microseconds (fraction : List Char) : Nat :=
  let kept := fraction.take 6
  number (kept ++ List.replicate (6 - kept.length) '0')

end Timestamp

end TagIndex.Yaml
