import TagIndex.Bytes

namespace TagIndex.Text.Base64

def value? (c : Char) : Option Nat :=
  let n := c.toNat
  if 65 ≤ n && n ≤ 90 then some (n - 65)
  else if 97 ≤ n && n ≤ 122 then some (n - 71)
  else if 48 ≤ n && n ≤ 57 then some (n + 4)
  else if c = '+' then some 62
  else if c = '/' then some 63
  else none

/-- The byte that the character at `place` of a group completes; `left` is the value before it. -/
def completed (place left value : Nat) : Bytes :=
  match place with
  | 1 => [(left * 4 + value / 16).toUInt8]
  | 2 => [(left % 16 * 16 + value / 4).toUInt8]
  | 3 => [(left % 4 * 64 + value).toUInt8]
  | _ => []

/-- Reads on at a place of a group, with the value of the character before it and the number of
padding characters since then. A group may not stay open at the end. -/
def decodeFrom (place left pads : Nat) : List Char → Option Bytes
  | [] => if place = 0 then some [] else none
  | c :: rest =>
    if c = '=' then
      if 2 ≤ place then
        if 4 ≤ place + pads + 1 then some [] else decodeFrom place left (pads + 1) rest
      else decodeFrom place left pads rest
    else match value? c with
      | none => decodeFrom place left pads rest
      | some value =>
        (decodeFrom ((place + 1) % 4) value 0 rest).map (completed place left value ++ ·)

def decode? (cs : List Char) : Option Bytes := decodeFrom 0 0 0 cs

end TagIndex.Text.Base64
