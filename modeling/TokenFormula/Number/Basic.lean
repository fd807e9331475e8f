import TokenFormula.Fault
import TokenFormula.Number.Decimal

/-!
# Numbers

A number is an integer of any size or a double. Integers are exact; as soon as
a double takes part, the integer is rounded to a double first. Comparison is
always exact.

Results:
* `compare?`: the order of two numbers.
* `normalize`: an integral double below `2^53` in magnitude becomes an integer.
* `add`, `sub`, `mul`, `divide`, `remainder`, `negate`: arithmetic.
* `floor`, `ceil`, `round`: the neighbouring integers.
* `text`, `display`: a number as a result shows it and as a message shows it.
-/

namespace TokenFormula

/-- An integer of any size or a double. -/
inductive Number where
  | int (n : Int)
  | real (x : Float)

namespace Number

instance : Inhabited Number := ⟨int 0⟩

/-- The value a number stands for. -/
def exact : Number → Double.Exact
  | int n => .ofInt n
  | real x => Double.exact x

/-! ## Order -/

/-- The exact order of two numbers; none with the value that is no number. -/
def compare? (a b : Number) : Option Ordering :=
  a.exact.compare? b.exact

/-- The two numbers are equal. -/
def equal (a b : Number) : Bool :=
  a.compare? b == some .eq

/-- The first number is less. -/
def less (a b : Number) : Bool :=
  a.compare? b == some .lt

/-- The first number is less or equal. -/
def lessEq (a b : Number) : Bool :=
  a.less b || a.equal b

/-- The number is zero. -/
def isZero (a : Number) : Bool :=
  a.equal (int 0)

/-- The number is the value that is no number. -/
def isNaN : Number → Bool
  | int _ => false
  | real x => Double.isNaN x

/-- Neither an infinity nor the value that is no number. -/
def isFinite : Number → Bool
  | int _ => true
  | real x => Double.isFinite x

/-- The integer that the number equals, if it equals one. -/
def integer? : Number → Option Int
  | int n => some n
  | real x => Double.integer? x

/-! ## Normal form -/

/-- The first integer beyond which doubles no longer tell neighbours apart. -/
def safeLimit : Int := 2 ^ 53

/-- An integral double below `2^53` in magnitude becomes an integer. -/
def normalize : Number → Number
  | int n => int n
  | real x =>
    match Double.integer? x with
    | some n => if n.natAbs < safeLimit.natAbs then int n else real x
    | none => real x

/-- The number is no double that `normalize` would change. -/
def isNormal : Number → Bool
  | int _ => true
  | real x =>
    match Double.integer? x with
    | some n => safeLimit.natAbs ≤ n.natAbs
    | none => true

/-! ## Arithmetic -/

/-- The double nearest to a number. -/
def toReal : Number → Except Fault Float
  | int n =>
    match Double.ofInt? n with
    | some x => .ok x
    | none => .error .integerTooLarge
  | real x => .ok x

/-- An operation that is exact on integers and is done on doubles otherwise. -/
def arithmetic (onInt : Int → Int → Int) (onReal : Float → Float → Float) :
    Number → Number → Except Fault Number
  | int m, int n => .ok (int (onInt m n))
  | a, b => do
    let x ← a.toReal
    let y ← b.toReal
    return real (onReal x y)

/-- The sum. -/
def add : Number → Number → Except Fault Number :=
  arithmetic (· + ·) (· + ·)

/-- The difference. -/
def sub : Number → Number → Except Fault Number :=
  arithmetic (· - ·) (· - ·)

/-- The product. -/
def mul : Number → Number → Except Fault Number :=
  arithmetic (· * ·) (· * ·)

/-- The quotient, always a double; that of two integers is rounded once. -/
def divide : Number → Number → Except Fault Number
  | int m, int n =>
    if n = 0 then .error .zeroQuotient
    else if Double.overflows m.natAbs n.natAbs then .error .quotientTooLarge
    else .ok (real (Double.ofQuotient ((m < 0) != (n < 0)) m.natAbs n.natAbs))
  | a, b => do
    let x ← a.toReal
    let y ← b.toReal
    if Double.isZero y then throw .zeroQuotient
    return real (x / y)

/-- The remainder with the sign of the dividend, a double. -/
def remainder (a b : Number) : Except Fault Number := do
  let x ← a.toReal
  let y ← b.toReal
  match Double.remainder? x y with
  | some r => return real r
  | none => throw .domain

/-- The number with its sign turned. -/
def negate : Number → Number
  | int n => int (-n)
  | real x => real (Double.negate x)

/-- The number without its sign. -/
def magnitude : Number → Number
  | int n => int n.natAbs
  | real x => real (Double.magnitude x)

/-! ## Neighbouring integers -/

/-- The integer that `onFinite` gives for a finite double. -/
def integerPart (onFinite : Bool → Nat → Int → Int) (x : Float) : Except Fault Int :=
  match Double.exact x with
  | .nan => .error .nanToInteger
  | .infinite _ => .error .infinityToInteger
  | .finite negative m q => .ok (onFinite negative m q)

/-- The greatest integer that is at most the number. -/
def floor : Number → Except Fault Int
  | int n => .ok n
  | real x => integerPart Double.floorScaled x

/-- The least integer that is at least the number. -/
def ceil : Number → Except Fault Int
  | int n => .ok n
  | real x => integerPart Double.ceilScaled x

/-- The floor of the number plus one half, the sum taken in doubles. -/
def round (a : Number) : Except Fault Int := do
  let x ← a.toReal
  integerPart Double.floorScaled (x + Double.ofQuotient false 1 2)

/-- A double or integer with the fraction cut off. -/
def truncate : Number → Except Fault Int
  | int n => .ok n
  | real x => integerPart (fun negative m q =>
      if negative then Double.ceilScaled negative m q else Double.floorScaled negative m q) x

/-! ## Text -/

/-- Doubles are written with the fewest digits that read back, positionally from
    `0.0001` up to below `10^16`, and otherwise with a signed exponent of at
    least two digits. -/
def layout : Double.Layout where
  least := -4
  limit := 16
  exponentDigits := 2
  pointZero := true
  nan := "nan"
  infinity := "inf"

/-- The first magnitude of an integer with too many digits for text. -/
def textLimit : Nat := 10 ^ 4300

/-- The digits of an integer. -/
def integerText (n : Int) : Except Fault String :=
  if n.natAbs < textLimit then .ok (toString n) else .error (.tooManyDigits none)

/-- A number as messages show it. -/
def display : Number → Except Fault String
  | int n => integerText n
  | real x => .ok (layout.write x)

/-- A number as results show it: an integral double below `2^53` in magnitude
    has no fraction. -/
def text (a : Number) : Except Fault String :=
  match a.normalize with
  | int n => integerText n
  | real x => .ok (({ layout with nan := "NaN", infinity := "Infinity" } : Double.Layout).write x)

end Number
end TokenFormula
