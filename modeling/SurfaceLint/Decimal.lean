/-!
# Decimal numbers

An exact decimal, and the double-precision number nearest to it. Doubles are written as
`mantissa * 2 ^ exponent` with a mantissa below `2 ^ 53` and an exponent of at least
`-1074`, so the smallest positive ones have small mantissas.
-/

namespace SurfaceLint

/-- The number `digits * 10 ^ exponent`, negated if `negative`. -/
structure Decimal where
  negative : Bool
  digits : Nat
  exponent : Int
deriving DecidableEq

/-- The size of a double, its sign aside. -/
inductive Double where
  | finite (mantissa : Nat) (exponent : Int)
  | infinite
deriving DecidableEq

def powerOf2 (n : Nat) : Nat := Nat.pow 2 n

def powerOf10 (n : Nat) : Nat := Nat.pow 10 n

namespace Decimal

/-- The quotient rounded to the nearest integer, a half to the even neighbour. -/
def roundDiv (num den : Nat) : Nat :=
  let quotient := num / den
  let rest := num % den
  if 2 * rest < den ∨ (2 * rest = den ∧ quotient % 2 = 0) then quotient else quotient + 1

/-- The pair `(num * 2 ^ -q, den)` or `(num, den * 2 ^ q)`, free of negative powers. -/
def scaleBy2 (num den : Nat) (q : Int) : Nat × Nat :=
  if q < 0 then (num * powerOf2 (-q).toNat, den) else (num, den * powerOf2 q.toNat)

/-- The double nearest to a positive quotient. -/
def nearest (num den : Nat) : Double :=
  let guess : Int := num.log2 - den.log2 - 53
  let (n, d) := scaleBy2 num den guess
  let q := max (if n / d < powerOf2 53 then guess else guess + 1) (-1074)
  let (n, d) := scaleBy2 num den q
  let mantissa := roundDiv n d
  let (mantissa, q) := if mantissa = powerOf2 53 then (powerOf2 52, q + 1) else (mantissa, q)
  if 971 < q then .infinite else .finite mantissa q

/-- The double nearest to a decimal. Far beyond the range of doubles the power of ten is not
worked out. -/
def toDouble (d : Decimal) : Double :=
  let size : Int := (toString d.digits).length + d.exponent
  if d.digits = 0 ∨ size < -400 then .finite 0 (-1074)
  else if 400 < size then .infinite
  else if d.exponent < 0 then nearest d.digits (powerOf10 (-d.exponent).toNat)
  else nearest (d.digits * powerOf10 d.exponent.toNat) 1

def isZero (d : Decimal) : Bool :=
  match d.toDouble with
  | .finite mantissa _ => mantissa == 0
  | .infinite => false

end Decimal

end SurfaceLint
