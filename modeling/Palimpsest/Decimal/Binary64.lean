/-!
# Binary floating-point numbers

A `Binary64` is a sign, a significand below `2 ^ 53` and a power of two from -1074 to 971. Every
operation is exact arithmetic on natural numbers followed by one rounding to the nearest number,
where a tie goes to the even significand; `none` is a result beyond the largest number.

`Binary64.shortest` gives the fewest decimal digits that lie nearer to the number than to any
other, and of those the nearest.
-/

namespace Palimpsest.Decimal

/-- The number `significand * 2 ^ exponent`, with a sign that zero has too. -/
structure Binary64 where
  negative : Bool
  significand : Nat
  exponent : Int
deriving DecidableEq

namespace Binary64

def zero : Binary64 := ⟨false, 0, 0⟩

def isZero (x : Binary64) : Bool := x.significand == 0

def withSign (x : Binary64) (negative : Bool) : Binary64 := { x with negative }

/-- Whether two numbers are the same number: the sign of zero does not count. -/
def same (x y : Binary64) : Bool := x == y || (x.isZero && y.isZero)

theorem same_refl (x : Binary64) : x.same x = true := by simp [same]

/-- The quotient and the remainder of `num / den` in units of `2 ^ exponent`, with the divisor that
was used. -/
def scaled (num den : Nat) (exponent : Int) : Nat × Nat × Nat :=
  let num := num * Nat.pow 2 (-exponent).toNat
  let den := den * Nat.pow 2 exponent.toNat
  (num / den, num % den, den)

/-- The number nearest to `num / den`, without a sign. -/
def ofRatio (num den : Nat) : Option Binary64 :=
  if num = 0 then some zero
  else
    let rough : Int := (Nat.log2 num : Int) - (Nat.log2 den : Int) - 53
    let exact := if (scaled num den rough).1 < 0x20000000000000 then rough else rough + 1
    let exponent := if exact < -1074 then -1074 else exact
    let (quotient, rest, unit) := scaled num den exponent
    let up := 2 * rest > unit || (2 * rest == unit && quotient % 2 == 1)
    let rounded := if up then quotient + 1 else quotient
    let (significand, exponent) :=
      if rounded < 0x20000000000000 then (rounded, exponent) else (rounded / 2, exponent + 1)
    if significand = 0 then some zero
    else if exponent > 971 then none
    else some ⟨false, significand, exponent⟩

/-- The two natural numbers whose quotient the number is, up to its sign. -/
def ratio (x : Binary64) : Nat × Nat :=
  (x.significand * Nat.pow 2 x.exponent.toNat, Nat.pow 2 (-x.exponent).toNat)

def mul (x y : Binary64) : Option Binary64 :=
  ofRatio (x.ratio.1 * y.ratio.1) (x.ratio.2 * y.ratio.2)

/-- The rounded quotient by a number that is not zero, without a sign. -/
def div (x y : Binary64) : Option Binary64 :=
  ofRatio (x.ratio.1 * y.ratio.2) (x.ratio.2 * y.ratio.1)

def powerOfTen (n : Nat) : Option Binary64 := ofRatio (Nat.pow 10 n) 1

/-- The number nearest to `digits * 10 ^ exponent`, without a sign. Powers that are out of reach
whatever the digits are not formed. -/
def ofDecimal (digits : Nat) (exponent : Int) : Option Binary64 :=
  let length : Int := (Nat.toDigits 10 digits).length
  if digits = 0 then some zero
  else if exponent + length > 400 then none
  else if exponent + length < -400 then some zero
  else ofRatio (digits * Nat.pow 10 exponent.toNat) (Nat.pow 10 (-exponent).toNat)

/-- Whether `num / den` is at least `10 ^ exponent`. -/
def reaches (num den : Nat) (exponent : Int) : Bool :=
  decide (den * Nat.pow 10 exponent.toNat ≤ num * Nat.pow 10 (-exponent).toNat)

/-- The exponent of the first decimal digit of `num / den`. -/
def leading (num den : Nat) : Int :=
  let rough : Int := ((Nat.log2 num : Int) - (Nat.log2 den : Int)) * 30103 / 100000
  if reaches num den (rough + 1) then rough + 1
  else if reaches num den rough then rough
  else rough - 1

/-- Decimal digits with an exponent: the number `digits * 10 ^ exponent`. -/
structure Digits where
  digits : Nat
  exponent : Int

/-- The best decimal of `count` digits that still rounds to the number. -/
def nearest? (x : Binary64) (count : Nat) : Option Digits :=
  let (num, den) := x.ratio
  let exponent := leading num den - count + 1
  let up := Nat.pow 10 exponent.toNat
  let down := Nat.pow 10 (-exponent).toNat
  -- distances are measured in quarters of the number's last binary place
  let half := 2 * Nat.pow 2 x.exponent.toNat
  let below := if x.significand = 0x10000000000000 && x.exponent > -1074 then half / 2 else half
  let inside (candidate : Nat) : Bool :=
    let value := 4 * candidate * up * den
    let center := 4 * num * down
    let slack := if candidate * up * den < num * down then below else half
    let distance := if value < center then center - value else value - center
    if x.significand % 2 = 0 then decide (distance ≤ slack * down)
    else decide (distance < slack * down)
  let floor := num * down / (den * up)
  let rest := num * down % (den * up)
  let lower := if inside floor then some floor else none
  let upper := if inside (floor + 1) then some (floor + 1) else none
  match lower, upper with
  | some low, some high =>
    some ⟨if 2 * rest < den * up || (2 * rest == den * up && low % 2 == 0) then low else high,
      exponent⟩
  | some low, none => some ⟨low, exponent⟩
  | none, some high => some ⟨high, exponent⟩
  | none, none => none

def Digits.trim (d : Digits) : Nat → Digits
  | 0 => d
  | steps + 1 => if d.digits % 10 = 0 then Digits.trim ⟨d.digits / 10, d.exponent + 1⟩ steps else d

/-- The fewest digits that round to a number other than zero. -/
def shortest (x : Binary64) : Digits :=
  match (List.range' 1 17).findSome? x.nearest? with
  | some d => d.trim 20
  | none => ⟨0, 0⟩

end Binary64

end Palimpsest.Decimal
