import SurfaceLint.Decimal
import SurfaceLint.Text.Position

/-!
# The shortest text of a double

A double stands for the reals that round to it, the ends of that interval included when
the mantissa is even. Its text has the fewest significant digits with which some decimal
lies in the interval, and of those decimals the one nearest to the double. All
comparisons are between natural numbers.
-/

namespace SurfaceLint.Double

/-- The double and the ends of its interval, times a common denominator. -/
structure Interval where
  low : Nat
  value : Nat
  high : Nat
  unit : Nat
  closed : Bool

/-- In quarters of the last place: below a power of two the next double is half as far. -/
def interval (mantissa : Nat) (exponent : Int) : Interval :=
  let lowGap := if mantissa = powerOf2 52 ∧ -1074 < exponent then 1 else 2
  let (scale, unit) : Nat × Nat :=
    if exponent < 0 then (1, 4 * powerOf2 (-exponent).toNat) else (powerOf2 exponent.toNat, 4)
  ⟨(4 * mantissa - lowGap) * scale, 4 * mantissa * scale, (4 * mantissa + 2) * scale, unit,
    mantissa % 2 == 0⟩

/-- Whether `digits * 10 ^ place` lies in an interval, and its distance from the double over
a common denominator. -/
def Interval.distance? (i : Interval) (digits : Nat) (place : Int) : Option Nat :=
  let (x, unit) : Nat × Nat :=
    if place < 0 then (digits * i.unit, powerOf10 (-place).toNat)
    else (digits * powerOf10 place.toNat * i.unit, 1)
  let low := i.low * unit
  let value := i.value * unit
  let high := i.high * unit
  let inside := if i.closed then low ≤ x ∧ x ≤ high else low < x ∧ x < high
  if inside then some (max x value - min x value) else none

/-- The best decimal whose last digit stands at a place. -/
def Interval.atPlace? (i : Interval) (place : Int) : Option Nat :=
  let below :=
    if place < 0 then i.value * powerOf10 (-place).toNat / i.unit
    else i.value / (i.unit * powerOf10 place.toNat)
  match i.distance? below place, i.distance? (below + 1) place with
  | some a, some b =>
    if a < b ∨ (a = b ∧ below % 2 = 0) then some below else some (below + 1)
  | some _, none => some below
  | none, some _ => some (below + 1)
  | none, none => none

/-- Tries ever finer places; seventeen digits always suffice. -/
def Interval.shortest (i : Interval) : (tries : Nat) → (place : Int) → Nat × Int
  | 0, place => (0, place)
  | tries + 1, place =>
    match i.atPlace? place with
    | some digits => if digits = 0 then i.shortest tries (place - 1) else (digits, place)
    | none => i.shortest tries (place - 1)

/-- Digits without trailing zeros, and where the decimal point stands relative to the first
of them. -/
def digitsAndPoint (mantissa : Nat) (exponent : Int) : Text × Int :=
  let i := interval mantissa exponent
  let top : Int := (toString (i.value / i.unit)).length
  let start : Int :=
    if i.unit ≤ i.value then top else -((toString (i.unit / i.value)).length : Int) + 1
  let (digits, place) := i.shortest 20 start
  let written := (toString digits).toList
  let kept := (written.reverse.dropWhile (· == '0')).reverse
  (kept, written.length + place)

/-- How doubles are written: positionally from `0.0001` up to sixteen digits before the
point, and always with a digit behind it; otherwise with an exponent that has a sign and
at least two digits. -/
def write (digits : Text) (point : Int) : Text :=
  if -4 < point ∧ point ≤ 16 then
    if point ≤ 0 then
      "0.".toList ++ List.replicate (-point).toNat '0' ++ digits
    else if digits.length ≤ point.toNat then
      digits ++ List.replicate (point.toNat - digits.length) '0' ++ ".0".toList
    else digits.take point.toNat ++ '.' :: digits.drop point.toNat
  else
    let power := (toString (point - 1).natAbs).toList
    digits.take 1 ++ (if digits.length = 1 then [] else '.' :: digits.drop 1) ++
      'e' :: (if point - 1 < 0 then '-' else '+') ::
      (if power.length = 1 then '0' :: power else power)

def render : Double → Text
  | .infinite => "inf".toList
  | .finite 0 _ => "0.0".toList
  | .finite mantissa exponent =>
    let (digits, point) := digitsAndPoint mantissa exponent
    write digits point

end SurfaceLint.Double
