import ChangeCapture.Number.Binary64
import ChangeCapture.Text.Decimal

namespace ChangeCapture

structure ShortDecimal where
  digits : Nat
  count : Nat
  exponent : Int

namespace Binary64

-- The reals that round to a double, as integers over one common power of two.
-- The ends belong to it when the mantissa is even; below a power of two the
-- next double is only half as far away.
structure Interval where
  low : Nat
  value : Nat
  high : Nat
  closed : Bool
  exponent : Int

def interval (mantissa : Nat) (exponent : Int) : Interval :=
  let below := if mantissa = Nat.pow 2 52 ∧ leastExponent < exponent then 1 else 2
  { low := 4 * mantissa - below, value := 4 * mantissa, high := 4 * mantissa + 2,
    closed := mantissa % 2 = 0, exponent := exponent - 2 }

def decimalPlaces (numerator denominator : Nat) : Int :=
  let guess : Int := ((numerator.log2 : Int) - (denominator.log2 : Int)) * 30103 / 100000
  let atLeast (p : Int) : Bool :=
    if 0 ≤ p then denominator * Nat.pow 10 p.toNat ≤ numerator else denominator ≤ numerator * Nat.pow 10 (-p).toNat
  if atLeast (guess + 1) then guess + 2 else if atLeast guess then guess + 1
  else if atLeast (guess - 1) then guess else guess - 1

-- On the grid of decimals with `count` digits, the point nearest to the value that
-- still reads back as the double; a tie goes to the even digit.
def onGrid (span : Interval) (places : Int) (count : Nat) : Option ShortDecimal :=
  let unit : Int := places - count
  let two : Nat := if 0 ≤ span.exponent then Nat.pow 2 span.exponent.toNat else 1
  let half : Nat := if 0 ≤ span.exponent then 1 else Nat.pow 2 (-span.exponent).toNat
  let ten : Nat := if 0 ≤ unit then 1 else Nat.pow 10 (-unit).toNat
  let tenth : Nat := if 0 ≤ unit then Nat.pow 10 unit.toNat else 1
  -- n · 2^exponent / 10^unit = n · two · ten / (half · tenth)
  let top := two * ten
  let bottom := half * tenth
  let floor := span.value * top / bottom
  let inside (d : Nat) : Bool :=
    if span.closed then span.low * top ≤ d * bottom && d * bottom ≤ span.high * top
    else span.low * top < d * bottom && d * bottom < span.high * top
  let found (d : Nat) : ShortDecimal := ⟨d, count, unit⟩
  match inside floor, inside (floor + 1) with
  | false, false => none
  | true, false => some (found floor)
  | false, true => some (found (floor + 1))
  | true, true =>
    let down := 2 * (span.value * top - floor * bottom)
    if down < bottom then some (found floor)
    else if bottom < down then some (found (floor + 1))
    else if floor % 2 = 0 then some (found floor) else some (found (floor + 1))

def shortest (mantissa : Nat) (exponent : Int) : ShortDecimal :=
  let span := interval mantissa exponent
  let (top, bottom) := if 0 ≤ exponent then (mantissa * Nat.pow 2 exponent.toNat, 1)
    else (mantissa, Nat.pow 2 (-exponent).toNat)
  let places := decimalPlaces top bottom
  ((List.range 17).findSome? fun k => onGrid span places (k + 1)).getD ⟨0, 1, 0⟩

end Binary64

-- How a double is written: positional while its first digit stands at a power of
-- ten in the given span, else with an exponent of at least `exponentWidth` digits.
structure DoubleLayout where
  leastPositional : Int
  belowPositional : Int
  exponentWidth : Nat
  notANumber : Text
  infinity : Text

namespace Binary64

-- Digits with trailing zeros dropped, as short decimals may pick up one when the
-- nearest point carries into the next place.
def significantDigits (d : ShortDecimal) : Text × Int :=
  let digits := Text.ofNat d.digits
  let firstPower : Int := d.exponent + digits.length - 1
  let kept := (digits.reverse.dropWhile (· = .char '0')).reverse
  (if kept = [] then "0" else kept, firstPower)

def write (layout : DoubleLayout) : Binary64 → Text
  | .nan => layout.notANumber
  | .infinite negative => if negative then "-" ++ layout.infinity else layout.infinity
  | .finite negative mantissa exponent =>
    let (digits, power) :=
      if mantissa = 0 then (("0" : Text), (0 : Int)) else significantDigits (shortest mantissa exponent)
    let zeros (n : Nat) : Text := List.replicate n (.char '0')
    let body : Text :=
      if layout.leastPositional ≤ power ∧ power < layout.belowPositional then
        if power < 0 then "0." ++ zeros (-power - 1).toNat ++ digits
        else
          let whole := power.toNat + 1
          if digits.length ≤ whole then digits ++ zeros (whole - digits.length) ++ ".0"
          else digits.take whole ++ "." ++ digits.drop whole
      else
        let tail : Text := if digits.length = 1 then "" else "." ++ digits.drop 1
        let sign : Text := if power < 0 then "-" else "+"
        digits.take 1 ++ tail ++ "e" ++ sign ++ Text.padded layout.exponentWidth power.natAbs
    if negative then "-" ++ body else body

def writeTwoPlaces : Binary64 → Text
  | .nan => "nan"
  | .infinite negative => if negative then "-inf" else "inf"
  | .finite negative mantissa exponent =>
    let hundredths :=
      if 0 ≤ exponent then mantissa * Nat.pow 2 exponent.toNat * 100
      else roundHalfEven (mantissa * 100) (Nat.pow 2 (-exponent).toNat)
    let places := Text.ofNat (hundredths / 100) ++ "." ++ Text.padded 2 (hundredths % 100)
    if negative then "-" ++ places else places

end Binary64

end ChangeCapture
