import TokenFormula.Number.Double

/-!
# Shortest decimal text of a double

A double stands for the interval of reals that round to it. Its text has the
fewest digits of any decimal in that interval, and of those decimals it is the
nearest to the double. How the digits are laid out is a separate record.

Results:
* `shortest`: the digits and scale of the decimal that is written.
* `Layout.write`: a double as text in a given layout.
-/

namespace TokenFormula.Double

/-- The positive decimal `digits · 10^scale`. -/
structure Decimal where
  digits : Nat
  scale : Int
deriving DecidableEq, Repr

/-- Compares `a · 10^i` with `b · 2^j`, exactly. -/
def compareDecimal (a : Nat) (i : Int) (b : Nat) (j : Int) : Ordering :=
  compare (a * 10 ^ i.toNat * 2 ^ (-j).toNat) (b * 2 ^ j.toNat * 10 ^ (-i).toNat)

/-- Whether a decimal rounds to `m · 2^q`: it lies between the two midpoints
    towards the neighbouring doubles, which themselves round to it when `m` is
    even. Below a power of two the neighbour is half as far away. -/
def readsBack (m : Nat) (q : Int) (d : Decimal) : Bool :=
  let narrow := m == 2 ^ 52 && q > -1074
  let low := compareDecimal d.digits d.scale (if narrow then 4 * m - 1 else 4 * m - 2) (q - 2)
  let high := compareDecimal d.digits d.scale (4 * m + 2) (q - 2)
  let closed := m % 2 == 0
  (low == .gt || (closed && low == .eq)) && (high == .lt || (closed && high == .eq))

/-- The least `k` with `m · 2^q < 10^k`. The binary logarithm gives an estimate
    that is at most two below. -/
def decimalMagnitude (m : Nat) (q : Int) : Int :=
  let estimate := ((m.log2 : Int) + q) * 30103 / 100000
  if compareDecimal 1 estimate m q == .gt then estimate
  else if compareDecimal 1 (estimate + 1) m q == .gt then estimate + 1
  else estimate + 2

/-- The decimal on the grid `10^scale` that is written for `m · 2^q`, if the
    grid has one: of the two neighbours of the value those that read back, the
    nearer first, a tie going to the even one. -/
def onGrid? (m : Nat) (q scale : Int) : Option Decimal :=
  let num := m * 2 ^ q.toNat * 10 ^ (-scale).toNat
  let den := 2 ^ (-q).toNat * 10 ^ scale.toNat
  let below : Decimal := ⟨num / den, scale⟩
  let above : Decimal := ⟨num / den + 1, scale⟩
  let nearer := roundQuotient num den
  let (first, second) := if nearer = below.digits then (below, above) else (above, below)
  if readsBack m q first then some first
  else if readsBack m q second then some second
  else none

/-- The first of the grids with `digits`, `digits + 1`, … digits that has a
    decimal for `m · 2^q`; at most `fuel` grids are tried. -/
def shortestFrom (m : Nat) (q magnitude : Int) : (fuel digits : Nat) → Option Decimal
  | 0, _ => none
  | fuel + 1, digits =>
    match onGrid? m q (magnitude - digits) with
    | some d => some d
    | none => shortestFrom m q magnitude fuel (digits + 1)

/-- The decimal that is written for `m · 2^q`. Seventeen digits always suffice;
    past them the exact value would be written. -/
def shortest (m : Nat) (q : Int) : Decimal :=
  (shortestFrom m q (decimalMagnitude m q) 17 1).getD
    ⟨m * 2 ^ q.toNat * 5 ^ (-q).toNat, min q 0⟩

/-! ## Layout -/

/-- How digits are laid out as text. -/
structure Layout where
  /-- The least decimal exponent that is written positionally. -/
  least : Int
  /-- The first decimal exponent above that is written in exponent form. -/
  limit : Int
  /-- The least number of digits in an exponent. -/
  exponentDigits : Nat
  /-- An integral value in positional form ends in a point and a zero. -/
  pointZero : Bool
  nan : String
  infinity : String

/-- The digits of a natural number in base ten. -/
def decimalDigits (n : Nat) : List Char :=
  Nat.toDigits 10 n

/-- Zeros before the digits up to a given width. -/
def padLeft (width : Nat) (cs : List Char) : List Char :=
  List.replicate (width - cs.length) '0' ++ cs

/-- Positional text of the digits `ds` with the decimal exponent `e` of the first. -/
def Layout.positional (layout : Layout) (ds : List Char) (e : Int) : List Char :=
  if e < 0 then '0' :: '.' :: List.replicate (-e - 1).toNat '0' ++ ds
  else
    let whole := e.toNat + 1
    if ds.length ≤ whole then
      ds ++ List.replicate (whole - ds.length) '0' ++ (if layout.pointZero then ['.', '0'] else [])
    else ds.take whole ++ '.' :: ds.drop whole

/-- Exponent form of the digits `ds` with the decimal exponent `e` of the first. -/
def Layout.scientific (layout : Layout) (ds : List Char) (e : Int) : List Char :=
  let mantissa := match ds with
    | [] => []
    | [d] => [d]
    | d :: rest => d :: '.' :: rest
  mantissa ++ 'e' :: (if e < 0 then '-' else '+') ::
    padLeft layout.exponentDigits (decimalDigits e.natAbs)

/-- The digits of a decimal without its trailing zeros. -/
def significantDigits (d : Decimal) : List Char :=
  ((decimalDigits d.digits).reverse.dropWhile (· == '0')).reverse

/-- The text of a decimal. -/
def Layout.writeDecimal (layout : Layout) (d : Decimal) : List Char :=
  let e := ((decimalDigits d.digits).length : Int) - 1 + d.scale
  if layout.least ≤ e ∧ e < layout.limit then layout.positional (significantDigits d) e
  else layout.scientific (significantDigits d) e

/-- The text of a double. -/
def Layout.write (layout : Layout) (x : Float) : String :=
  match exact x with
  | .nan => layout.nan
  | .infinite negative => if negative then "-" ++ layout.infinity else layout.infinity
  | .finite negative m q =>
    let body := if m = 0 then layout.positional ['0'] 0 else layout.writeDecimal (shortest m q)
    String.ofList (if negative then '-' :: body else body)

end TokenFormula.Double
