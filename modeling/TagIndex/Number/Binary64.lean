namespace TagIndex

/-- A finite number is `mantissa * 2 ^ exponent`. Rounding gives `mantissa < 2 ^ 53` and
`-1074 ≤ exponent`; the number is normal when `2 ^ 52 ≤ mantissa`, and otherwise its exponent is the
least one. -/
inductive Binary64 where
  | notANumber
  | infinite (negative : Bool)
  | finite (negative : Bool) (mantissa : Nat) (exponent : Int)
deriving DecidableEq, Repr

namespace Binary64

def twoTo (n : Nat) : Nat := Nat.pow 2 n

def tenTo (n : Nat) : Nat := Nat.pow 10 n

def leastExponent : Int := -1074

def greatestExponent : Int := 971

/-- The quotient rounded to an integer, a half to the even neighbour. -/
def roundQuotient (num den : Nat) : Nat :=
  let q := num / den
  let r := num % den
  if 2 * r < den then q
  else if den < 2 * r then q + 1
  else if q % 2 = 0 then q else q + 1

/-- Numerator and denominator of `num / den / 2 ^ exponent`. -/
def scaled (num den : Nat) (exponent : Int) : Nat × Nat :=
  if exponent < 0 then (num * twoTo exponent.natAbs, den) else (num, den * twoTo exponent.toNat)

/-- The number nearest to a quotient of positive integers. -/
def ofQuotient (negative : Bool) (num den : Nat) : Binary64 :=
  if num = 0 then .finite negative 0 leastExponent
  else
    let guess : Int := (Nat.log2 num : Int) - Nat.log2 den - 52
    let guess :=
      let (n, d) := scaled num den guess
      if n / d < twoTo 52 then guess - 1 else guess
    let exponent := max guess leastExponent
    let (n, d) := scaled num den exponent
    let mantissa := roundQuotient n d
    let (mantissa, exponent) :=
      if mantissa = twoTo 53 then (twoTo 52, exponent + 1) else (mantissa, exponent)
    if greatestExponent < exponent then .infinite negative
    else .finite negative mantissa exponent

/-- Decimals of at least this magnitude are infinite, and those as far below one are zero. -/
def decimalReach : Int := 400

/-- The number nearest to `digits * 10 ^ exponent`. Powers of ten are computed only where they
matter. -/
def ofScientific (negative : Bool) (digits : Nat) (exponent : Int) : Binary64 :=
  let magnitude := exponent + (Nat.toDigits 10 digits).length
  if digits = 0 || magnitude < -decimalReach then .finite negative 0 leastExponent
  else if decimalReach < magnitude then .infinite negative
  else if exponent < 0 then ofQuotient negative digits (tenTo exponent.natAbs)
  else ofQuotient negative (digits * tenTo exponent.toNat) 1

/-- The number nearest to `size * 2 ^ exponent`. -/
def ofScaled (negative : Bool) (size : Nat) (exponent : Int) : Binary64 :=
  if exponent < 0 then ofQuotient negative size (twoTo exponent.natAbs)
  else ofQuotient negative (size * twoTo exponent.toNat) 1

def ofNat? (n : Nat) : Option Binary64 :=
  match ofQuotient false n 1 with
  | infinite _ => none
  | x => some x

def isNegative : Binary64 → Bool
  | notANumber => false
  | infinite negative => negative
  | finite negative _ _ => negative

def mul (a b : Binary64) : Binary64 :=
  let negative := a.isNegative != b.isNegative
  match a, b with
  | notANumber, _ | _, notANumber => notANumber
  | infinite _, finite _ n _ | finite _ n _, infinite _ =>
    if n = 0 then notANumber else infinite negative
  | infinite _, infinite _ => infinite negative
  | finite _ m e, finite _ n f => ofScaled negative (m * n) (e + f)

/-- The sum, rounded. A sum of zero is negative only if both parts are. -/
def add (a b : Binary64) : Binary64 :=
  match a, b with
  | notANumber, _ | _, notANumber => notANumber
  | infinite s, infinite t => if s = t then infinite s else notANumber
  | infinite s, _ | _, infinite s => infinite s
  | finite s m e, finite t n f =>
    let base := min e f
    let signed (negative : Bool) (k : Nat) : Int := if negative then -(k : Int) else k
    let sum := signed s (m * twoTo (e - base).toNat) + signed t (n * twoTo (f - base).toNat)
    ofScaled (if sum = 0 then s && t else sum < 0) sum.natAbs base

def neg : Binary64 → Binary64
  | notANumber => notANumber
  | infinite negative => infinite !negative
  | finite negative mantissa exponent => finite (!negative) mantissa exponent

def isZero : Binary64 → Bool
  | finite _ mantissa _ => mantissa = 0
  | _ => false

/-- Whether `a` is less than `b`, by their exact values; never, for what is not a number. -/
def less : Binary64 → Binary64 → Bool
  | notANumber, _ | _, notANumber => false
  | infinite a, infinite b => a && !b
  | infinite a, finite .. => a
  | finite .., infinite b => !b
  | finite a m e, finite b n f =>
    let base := min e f
    let signed (negative : Bool) (k : Nat) : Int := if negative then -(k : Int) else k
    signed a (m * twoTo (e - base).toNat) < signed b (n * twoTo (f - base).toNat)

/-- Whether two numbers are equal; both zeros are. -/
def sameValue (a b : Binary64) : Bool :=
  a ≠ .notANumber && b ≠ .notANumber && !a.less b && !b.less a

end Binary64

end TagIndex
