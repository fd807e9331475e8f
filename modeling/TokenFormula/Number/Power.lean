import TokenFormula.Number.Basic

/-!
# Powers

Powers are computed in doubles. A result beyond the largest double is an
infinity with the sign of the exact power, and zero to a negative power is the
positive infinity. The power of finite operands is that of the platform, which is a
parameter here.

Results:
* `power`: the power of two doubles, if it is real and finite where the
  operands are.
-/

namespace TokenFormula

/-- What a power of doubles is. -/
inductive Double.Power where
  | value (x : Float)
  /-- The magnitude is beyond the largest double. -/
  | overflow
  /-- Zero to a negative power. -/
  | pole
  /-- A negative base with a fractional exponent. -/
  | notReal

namespace Double

/-- The power of a finite positive base and a finite exponent, as the platform computes
    it with `pow`. -/
def positivePower (pow : Float → Float → Float) (x y : Float) : Power :=
  let r := pow x y
  if isInfinite r then .overflow else .value r

/-- The power of a base of any size and an infinite exponent. -/
def powerToInfinity (x : Float) (negative : Bool) : Float :=
  match (exact (magnitude x)).compare? (.ofInt 1) with
  | some .eq => ofQuotient false 1 1
  | some .gt => if negative then ofQuotient false 0 1 else infinity
  | _ => if negative then infinity else ofQuotient false 0 1

/-- The power of an infinite base and a finite exponent other than zero. -/
def powerOfInfinity (x y : Float) : Float :=
  let r := if isNegative y then ofQuotient false 0 1 else infinity
  if isNegative x && isOddInteger y then -r else r

/-- The power of two doubles. Anything to the power zero is one, also the value
    that is no number; that value is otherwise kept, except as the exponent of
    one. -/
def power (pow : Float → Float → Float) (x y : Float) : Power :=
  if isZero y then .value (ofQuotient false 1 1)
  else if isNaN x then .value x
  else if isNaN y then
    .value (if (exact x).compare? (.ofInt 1) == some .eq then ofQuotient false 1 1 else y)
  else if isInfinite y then .value (powerToInfinity x (isNegative y))
  else if isInfinite x then .value (powerOfInfinity x y)
  else if isZero x then
    if isNegative y then .pole
    else .value (if isOddInteger y then x else ofQuotient false 0 1)
  else if isNegative x then
    match positivePower pow (-x) y, integer? y with
    | .value r, some n => .value (if n % 2 = 1 then -r else r)
    | .value _, none => .notReal
    | p, _ => p
  else positivePower pow x y

end Double
end TokenFormula
