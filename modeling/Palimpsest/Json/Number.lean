import Palimpsest.Json.Value

/-!
# Numbers in JSON texts

`Number.Literal` is a number as it is written; `Number.Literal.value?` is what it means and
`Number.render` how a number is written back.

A literal without a fraction and without an exponent is an integer as long as it fits 64 bits;
minus zero is not an integer. Everything else is a floating-point number, found in two rounded
steps: the digits are collected into one integer for as long as it fits 64 bits, and that integer
is multiplied or divided by a power of ten.
-/

namespace Palimpsest

open Decimal (Binary64)

namespace Number

/-- A number as it is written: digits before the point, digits behind it, and the exponent's sign
and digits. -/
structure Literal where
  negative : Bool
  whole : List Char
  fraction : Option (List Char)
  exponent : Option (Bool × List Char)

def digit (c : Char) : Nat := c.toNat - '0'.toNat

/-- Digits collected behind `sum` for as long as the result is at most `limit`, and the digits that
were left. -/
def collect (limit sum : Nat) : List Char → Nat × List Char
  | [] => (sum, [])
  | c :: rest =>
    if sum * 10 + digit c ≤ limit then collect limit (sum * 10 + digit c) rest else (sum, c :: rest)

/-- The digits scaled by a power of ten in rounded steps, dividing by `10 ^ 308` while the power is
smaller than that. -/
def scale (x : Binary64) (exponent : Int) : Nat → Option Binary64
  | 0 => some x
  | steps + 1 =>
    if exponent.natAbs ≤ 308 then do
      let power ← Binary64.powerOfTen exponent.natAbs
      if exponent < 0 then x.div power else x.mul power
    else if x.isZero then some x
    else if exponent > 0 then none
    else do
      let power ← Binary64.powerOfTen 308
      scale (← x.div power) (exponent + 308) steps

def compose (negative : Bool) (digits : Nat) (exponent : Int) : Option Binary64 := do
  let x ← Binary64.ofRatio digits 1
  return (← scale x exponent (exponent.natAbs / 308 + 1)).withSign negative

/-- Applies a written exponent to the digits. One beyond 32 bits gives zero, unless it is positive
and the digits are not zero. -/
def raise (negative : Bool) (digits : Nat) (start : Int) (down : Bool) (written : List Char) :
    Option Binary64 :=
  match collect 0x7FFFFFFF 0 written with
  | (size, []) =>
    let clamp (n : Int) : Int :=
      if n < -0x80000000 then -0x80000000 else if n > 0x7FFFFFFF then 0x7FFFFFFF else n
    compose negative digits (clamp (if down then start - size else start + size))
  | (_, _ :: _) =>
    if digits != 0 && !down then none else some (Binary64.zero.withSign negative)

/-- The meaning of a literal, `none` where it is out of range. -/
def Literal.value? (l : Literal) : Option Number :=
  let (digits, left) := collect 0xFFFFFFFFFFFFFFFF 0 l.whole
  match left, l.fraction, l.exponent with
  | [], none, none =>
    if !l.negative then some (.integer digits)
    else if digits = 0 || digits > 0x8000000000000000 then
      (Binary64.ofRatio digits 1).map fun x => .float (x.withSign true)
    else some (.integer (-digits))
  | _, fraction, exponent =>
    let (digits, start) : Nat × Int :=
      match fraction with
      | none => (digits, left.length)
      | some written =>
        let (digits, ignored) := collect 0xFFFFFFFFFFFFFFFF digits written
        (digits, (left.length : Int) - ((written.length : Int) - ignored.length))
    match exponent with
    | none => (compose l.negative digits start).map .float
    | some (down, written) => (raise l.negative digits start down written).map .float

/-- A floating-point number in its shortest digits: with a point from `1e-5` up to `1e16`, with an
exponent beyond. -/
def renderFloat (x : Binary64) : String :=
  let sign := if x.negative then "-" else ""
  if x.isZero then sign ++ "0.0"
  else
    let shortest := x.shortest
    let digits := Nat.toDigits 10 shortest.digits
    let length : Int := digits.length
    let point := length + shortest.exponent
    let body :=
      if 0 ≤ shortest.exponent && point ≤ 16 then
        digits ++ List.replicate shortest.exponent.toNat '0' ++ ['.', '0']
      else if 0 < point && point ≤ 16 then
        digits.take point.toNat ++ '.' :: digits.drop point.toNat
      else if -5 < point && point ≤ 0 then
        '0' :: '.' :: List.replicate (-point).toNat '0' ++ digits
      else
        digits.take 1 ++ (if digits.length = 1 then [] else '.' :: digits.drop 1) ++
          'e' :: (toString (point - 1)).toList
    sign ++ String.ofList body

def render : Number → String
  | .integer value => toString value
  | .float value => renderFloat value

end Number

end Palimpsest
