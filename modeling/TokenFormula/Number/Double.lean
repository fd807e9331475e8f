/-!
# The exact value of a double

A finite double is `± m · 2^q` with natural `m`. This module reads that value
off the bits, and goes back from an exact quotient to the nearest double (ties
to the even neighbour). Order, floor, remainder and conversion are then exact
integer arithmetic.

Results:
* `exact`: the value that a double stands for.
* `ofQuotient`: the double nearest to a quotient of naturals; an infinity when
  the quotient rounds beyond the largest double.
* `ofInt?`: the double nearest to an integer, if it is finite.
* `integer?`: the integer that a double equals, if it equals one.
-/

-- A power of a natural or of an integer is the one of the core library, also where another
-- library brings its own instance of `Pow`.
attribute [instance (high), default_instance high] instPowNat

namespace TokenFormula.Double

/-- What a double stands for: `finite negative m q` is `± m · 2^q`. -/
inductive Exact where
  | nan
  | infinite (negative : Bool)
  | finite (negative : Bool) (m : Nat) (q : Int)
deriving DecidableEq, Repr

/-- The value of a bit pattern: one sign bit, eleven exponent bits, fifty-two
    fraction bits. -/
def Exact.ofBits (b : Nat) : Exact :=
  let negative := b / 2 ^ 63 == 1
  let e : Nat := b / 2 ^ 52 % 2 ^ 11
  let f : Nat := b % 2 ^ 52
  if e = 2047 then (if f = 0 then .infinite negative else .nan)
  else if e = 0 then .finite negative f (-1074)
  else .finite negative (2 ^ 52 + f) ((e : Int) - 1075)

/-- The value that a double stands for. -/
def exact (x : Float) : Exact :=
  .ofBits x.toBits.toNat

/-! ## From an exact value to a double -/

/-- `num / den` rounded to the nearest integer, a half to the even one. -/
def roundQuotient (num den : Nat) : Nat :=
  let n := num / den
  let r := num % den
  if 2 * r < den then n
  else if den < 2 * r then n + 1
  else n + n % 2

/-- The exponent `q` of the double nearest to `num / den`: the least one, not
    below that of the subnormal numbers, with `num / den < 2^(q + 53)`. -/
def quotientExponent (num den : Nat) : Int :=
  let estimate : Int := (num.log2 : Int) - den.log2 - 53
  let fits := num * 2 ^ (-(estimate + 53)).toNat < den * 2 ^ (estimate + 53).toNat
  max (if fits then estimate else estimate + 1) (-1074)

/-- The bits, sign apart, of the double nearest to `num / den`. The carry out
    of the fraction runs into the exponent, up to the pattern of infinity. -/
def quotientBits (num den : Nat) : Nat :=
  if num = 0 then 0
  else
    let q := quotientExponent num den
    let m := roundQuotient (num * 2 ^ (-q).toNat) (den * 2 ^ q.toNat)
    min ((q + 1074).toNat * 2 ^ 52 + m) (2047 * 2 ^ 52)

/-- The double nearest to `± num / den`; a tie goes to the even neighbour. -/
def ofQuotient (negative : Bool) (num den : Nat) : Float :=
  Float.ofBits (UInt64.ofNat (quotientBits num den + if negative then 2 ^ 63 else 0))

/-- The double nearest to `± m · 2^q`. -/
def ofScaled (negative : Bool) (m : Nat) (q : Int) : Float :=
  ofQuotient negative (m * 2 ^ q.toNat) (2 ^ (-q).toNat)

/-- Whether `num / den` rounds beyond the largest double. -/
def overflows (num den : Nat) : Bool :=
  quotientBits num den == 2047 * 2 ^ 52

/-- The double nearest to an integer, if it is finite. -/
def ofInt? (n : Int) : Option Float :=
  if overflows n.natAbs 1 then none else some (ofQuotient (n < 0) n.natAbs 1)

/-- The positive infinity. -/
def infinity : Float := Float.ofBits 0x7FF0000000000000

/-- The negative infinity. -/
def negativeInfinity : Float := Float.ofBits 0xFFF0000000000000

/-- The value that is no number. -/
def notANumber : Float := Float.ofBits 0x7FF8000000000000

/-! ## Reading the value -/

/-- The value is no number. -/
def isNaN (x : Float) : Bool :=
  exact x == .nan

/-- The value is finite. -/
def isFinite (x : Float) : Bool :=
  match exact x with
  | .finite .. => true
  | _ => false

/-- The value is infinite. -/
def isInfinite (x : Float) : Bool :=
  match exact x with
  | .infinite _ => true
  | _ => false

/-- The sign bit; set also for the negative zero. -/
def isNegative (x : Float) : Bool :=
  x.toBits.toNat / 2 ^ 63 == 1

/-- The value is zero, of either sign. -/
def isZero (x : Float) : Bool :=
  match exact x with
  | .finite _ m _ => m == 0
  | _ => false

/-- An integer with a sign. -/
def withSign (negative : Bool) (n : Nat) : Int :=
  if negative then -(n : Int) else n

/-- The greatest integer that is at most `± m · 2^q`. -/
def floorScaled (negative : Bool) (m : Nat) (q : Int) : Int :=
  withSign negative m * 2 ^ q.toNat / 2 ^ (-q).toNat

/-- The least integer that is at least `± m · 2^q`. -/
def ceilScaled (negative : Bool) (m : Nat) (q : Int) : Int :=
  -floorScaled (!negative) m q

/-- The integer that the double equals, if it equals one. -/
def integer? (x : Float) : Option Int :=
  match exact x with
  | .finite negative m q =>
    if m * 2 ^ q.toNat % 2 ^ (-q).toNat = 0 then some (floorScaled negative m q) else none
  | _ => none

/-- The double equals an odd integer. -/
def isOddInteger (x : Float) : Bool :=
  match integer? x with
  | some n => n % 2 == 1
  | none => false

/-- The double with its sign turned. -/
def negate (x : Float) : Float :=
  -x

/-- The double without its sign. -/
def magnitude (x : Float) : Float :=
  if isNegative x then -x else x

/-! ## Order and remainder -/

/-- Compares `± a · 2^i` with `± b · 2^j`. -/
def compareScaled (s : Bool) (a : Nat) (i : Int) (t : Bool) (b : Nat) (j : Int) : Ordering :=
  let q := min i j
  compare (withSign s a * 2 ^ (i - q).toNat) (withSign t b * 2 ^ (j - q).toNat)

/-- The order of two exact values; none with a value that is no number. -/
def Exact.compare? : Exact → Exact → Option Ordering
  | .nan, _ | _, .nan => none
  | .infinite s, .infinite t => some (compare (!s) (!t))
  | .infinite s, .finite .. => some (if s then .lt else .gt)
  | .finite .., .infinite t => some (if t then .gt else .lt)
  | .finite s a i, .finite t b j => some (compareScaled s a i t b j)

/-- The exact value of an integer. -/
def Exact.ofInt (n : Int) : Exact :=
  .finite (n < 0) n.natAbs 0

/-- The remainder with the sign of the dividend, exact; none where an infinite
    dividend or a zero divisor leaves no remainder. -/
def remainder? (x y : Float) : Option Float :=
  match exact x, exact y with
  | .nan, _ | _, .nan => some notANumber
  | .infinite _, _ => none
  | .finite .., .infinite _ => some x
  | .finite s a i, .finite _ b j =>
    if b = 0 then none
    else
      let q := min i j
      some (ofScaled s (a * 2 ^ (i - q).toNat % (b * 2 ^ (j - q).toNat)) q)

end TokenFormula.Double
