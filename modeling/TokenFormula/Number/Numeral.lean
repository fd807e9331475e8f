import TokenFormula.Number.Double
import TokenFormula.Text.Blank
import TokenFormula.Text.Digit

/-!
# Numerals

Reading numbers from text. Blanks around the numeral are skipped, digits may be
of any script, and a single underscore may stand between two digits. An integer
has a limited number of digits; a real numeral has not, and is rounded to the
nearest double.

Results:
* `readInteger`: an optional sign and digits.
* `readReal?`: a decimal numeral with optional point and exponent, or a name of
  an infinity or of the value that is no number.
-/

namespace TokenFormula.Numeral

open TokenFormula.Text

/-- The most digits that an integer may have in text. -/
def digitLimit : Nat := 4300

/-- Why a text is not read as an integer. -/
inductive Problem where
  | malformed
  | tooManyDigits (count : Nat)
deriving DecidableEq, Repr

/-- The blanks that may stand around a numeral: all but the information
    separators. -/
def isMargin (c : Char) : Bool :=
  isBlank c && !(0x1C ≤ c.toNat && c.toNat ≤ 0x1F)

/-- The list without the blanks around a numeral. -/
def trimMargin (cs : List Char) : List Char :=
  ((cs.dropWhile isMargin).reverse.dropWhile isMargin).reverse

/-- Splits an optional sign off; the first component is set for a minus. -/
def splitSign : List Char → Bool × List Char
  | '-' :: rest => (true, rest)
  | '+' :: rest => (false, rest)
  | cs => (false, cs)

/-- The digits that go on a group, each after an optional underscore, and what
    follows the group. -/
def moreDigits : List Char → List Char × List Char
  | '_' :: d :: rest =>
    if isDigit d then
      let (ds, after) := moreDigits rest
      (d :: ds, after)
    else ([], '_' :: d :: rest)
  | d :: rest =>
    if isDigit d then
      let (ds, after) := moreDigits rest
      (d :: ds, after)
    else ([], d :: rest)
  | [] => ([], [])

/-- The group of digits at the start, without its underscores, and what follows
    it. -/
def digitGroup : List Char → List Char × List Char
  | [] => ([], [])
  | c :: rest =>
    if isDigit c then
      let (ds, after) := moreDigits rest
      (c :: ds, after)
    else ([], c :: rest)

/-- Reads an integer. -/
def readInteger (cs : List Char) : Except Problem Int :=
  let (negative, body) := splitSign (trimMargin cs)
  match digitGroup body with
  | ([], _) => .error .malformed
  | (_, _ :: _) => .error .malformed
  | (ds, []) =>
    if digitLimit < ds.length then .error (.tooManyDigits ds.length)
    else .ok (Double.withSign negative (readDigits 0 ds))

/-! ## Real numerals -/

/-- The double nearest to `± digits · 10^scale`. Beyond four hundred decimal
    places on either side of the point the answer is known without the power. -/
def ofDecimal (negative : Bool) (digits : Nat) (digitCount : Nat) (scale : Int) : Float :=
  let magnitude := (digitCount : Int) + scale
  if digits = 0 ∨ magnitude < -400 then Double.ofQuotient negative 0 1
  else if 400 < (Nat.log2 digits / 4 : Int) + scale then
    if negative then Double.negativeInfinity else Double.infinity
  else Double.ofQuotient negative (digits * 10 ^ scale.toNat) (10 ^ (-scale).toNat)

/-- The exponent part after the digits: absent, or a letter, an optional sign
    and digits. None where something else follows. -/
def exponentPart? : List Char → Option Int
  | [] => some 0
  | c :: rest =>
    if c = 'e' ∨ c = 'E' then
      let (negative, body) := splitSign rest
      match digitGroup body with
      | ([], _) => none
      | (_, _ :: _) => none
      | (ds, []) => some (Double.withSign negative (readDigits 0 ds))
    else none

/-- The names of the values that have no digits. -/
def named? (cs : List Char) : Option Float :=
  let name := cs.map Char.toLower
  if name = "inf".toList ∨ name = "infinity".toList then some Double.infinity
  else if name = "nan".toList then some Double.notANumber
  else none

/-- Splits the digits before the point, the digits after it and the rest. -/
def splitPoint (cs : List Char) : List Char × List Char × List Char :=
  let (whole, after) := digitGroup cs
  match after with
  | '.' :: rest =>
    let (fraction, tail) := digitGroup rest
    (whole, fraction, tail)
  | _ => (whole, [], after)

/-- Reads a numeral as the nearest double. -/
def readReal? (cs : List Char) : Option Float :=
  let (negative, body) := splitSign (trimMargin cs)
  match named? body with
  | some x => some (if negative then -x else x)
  | none =>
    let (whole, fraction, tail) := splitPoint body
    let ds := whole ++ fraction
    if ds.isEmpty then none
    else
      (exponentPart? tail).map fun e =>
        ofDecimal negative (readDigits 0 ds) ds.length (e - fraction.length)

end TokenFormula.Numeral
