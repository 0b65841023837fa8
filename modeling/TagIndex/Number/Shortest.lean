import TagIndex.Number.Binary64

namespace TagIndex.Binary64

/-- A decimal `0.d₁d₂… * 10 ^ point`. -/
structure Decimal where
  digits : Nat
  point : Int
deriving DecidableEq, Repr

/-- A positive number and the borders between which reals round to it, all in quarters of a unit in
the last place. The lower border is nearer below a power of two. -/
structure Interval where
  low : Nat
  middle : Nat
  high : Nat
  closed : Bool

def interval (mantissa : Nat) (exponent : Int) : Interval :=
  let narrow := mantissa = twoTo 52 && leastExponent < exponent
  { low := 4 * mantissa - (if narrow then 1 else 2)
    middle := 4 * mantissa
    high := 4 * mantissa + 2
    closed := mantissa % 2 = 0 }

/-- The quotient `middle * 2 ^ exponent / 10 ^ power` as numerator and denominator, with the factor
that carries the borders to the same denominator. -/
def grid (exponent power : Int) : Nat × Nat :=
  let num := (if 0 ≤ exponent then twoTo exponent.toNat else 1) *
    (if power < 0 then tenTo power.natAbs else 1)
  let den := (if exponent < 0 then twoTo exponent.natAbs else 1) *
    (if 0 ≤ power then tenTo power.toNat else 1)
  (num, den)

/-- The multiple of `10 ^ power` that is nearest to the number among those that round to it. -/
def onGrid? (range : Interval) (exponent power : Int) : Option Nat :=
  let (num, den) := grid exponent power
  let below := range.middle * num / den
  let inside (k : Nat) : Bool :=
    if range.closed then range.low * num ≤ k * den && k * den ≤ range.high * num
    else range.low * num < k * den && k * den < range.high * num
  let above := below + 1
  match inside below, inside above with
  | true, true =>
    let down := range.middle * num - below * den
    let up := above * den - range.middle * num
    some (if down < up then below else if up < down then above
      else if below % 2 = 0 then below else above)
  | true, false => some below
  | false, true => some above
  | false, false => none

/-- The number of decimal digits before the point: the least `p` with the number below `10 ^ p`. -/
def magnitude (range : Interval) (exponent : Int) : Int :=
  let digitCount (n : Nat) : Nat := (Nat.toDigits 10 n).length
  let (num, den) := grid exponent 0
  let whole := range.middle * num / den
  if whole ≠ 0 then digitCount whole
  else
    let (num, den) := grid exponent (-400)
    (digitCount (range.middle * num / den) : Int) - 400

def shortestFrom (range : Interval) (exponent : Int) (size : Int) : Nat → Nat → Decimal
  | _, 0 => ⟨0, 0⟩
  | count, fuel + 1 =>
    let power := size - count
    match onGrid? range exponent power with
    | some digits =>
      let point : Int := (Nat.toDigits 10 digits).length + power
      ⟨digits, point⟩
    | none => shortestFrom range exponent size (count + 1) fuel

/-- The shortest decimal of a positive number; seventeen digits always suffice. -/
def shortest (mantissa : Nat) (exponent : Int) : Decimal :=
  let range := interval mantissa exponent
  shortestFrom range (exponent - 2) (magnitude range (exponent - 2)) 1 17

def stripZeros (digits : List Char) : List Char := (digits.reverse.dropWhile (· = '0')).reverse

/-- Numbers are written with a point from `0.0001` up to sixteen digits before it, and otherwise
with an exponent of at least two digits. -/
def layout (decimal : Decimal) : String :=
  let digits := stripZeros (Nat.toDigits 10 decimal.digits)
  let point := decimal.point
  if -4 < point ∧ point ≤ 16 then
    if point ≤ 0 then
      "0." ++ String.ofList (List.replicate point.natAbs '0' ++ digits)
    else
      let whole := digits.take point.toNat
      let zeros := List.replicate (point.toNat - whole.length) '0'
      let fraction := digits.drop point.toNat
      String.ofList (whole ++ zeros) ++ "." ++
        (if fraction.isEmpty then "0" else String.ofList fraction)
  else
    let power := point - 1
    let size := Nat.toDigits 10 power.natAbs
    let padded := List.replicate (2 - size.length) '0' ++ size
    String.ofList (digits.take 1) ++
      (if digits.length ≤ 1 then "" else "." ++ String.ofList (digits.drop 1)) ++
      "e" ++ (if power < 0 then "-" else "+") ++ String.ofList padded

def text : Binary64 → String
  | notANumber => "nan"
  | infinite negative => if negative then "-inf" else "inf"
  | finite negative mantissa exponent =>
    (if negative then "-" else "") ++
      (if mantissa = 0 then "0.0" else layout (shortest mantissa exponent))

end TagIndex.Binary64
