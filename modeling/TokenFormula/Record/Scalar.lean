import TokenFormula.Number.Numeral
import TokenFormula.Record.Checked

/-!
# Scalars of records

Truth values and numbers are read leniently: a truth value also from `0`, `1`
and certain words, a number also from a truth value or a text. A scalar keeps
the type that it has.

Results:
* `PartReader.boolean`, `PartReader.number`, `PartReader.scalar`.
-/

namespace TokenFormula

/-! ## Texts of numbers -/

/-- The text without white space around it; the information separators stay. -/
def trimSpace (cs : List Char) : List Char :=
  Numeral.trimMargin cs

/-- Two underscores stand side by side. -/
def hasDoubleUnderscore : List Char → Bool
  | '_' :: '_' :: _ => true
  | _ :: rest => hasDoubleUnderscore rest
  | [] => false

/-- The text without its underscores; none where one stands at an end or beside
    another. -/
def withoutUnderscores? (cs : List Char) : Option (List Char) :=
  if cs.head? = some '_' || cs.getLast? = some '_' || hasDoubleUnderscore cs then none
  else some (cs.filter (· ≠ '_'))

/-- Takes a plus sign off; none where a minus sign follows it. -/
def withoutPlus? : List Char → Option (List Char)
  | '+' :: '-' :: _ => none
  | '+' :: rest => some rest
  | cs => some cs

/-- What follows the zeros in front of a numeral; `last` is the character before
    it. Underscores count as zeros, and a minus sign may follow. Before a point,
    and at the end, the last of them stays. -/
def afterZeros? (last : Char) : List Char → Option (List Char)
  | [] => some [last]
  | c :: rest =>
    if c = '0' || c = '_' then afterZeros? c rest
    else if c = '-' || ('1' ≤ c && c ≤ '9') then some (c :: rest)
    else if c = '.' then some (last :: c :: rest)
    else none

/-- A numeral without the zeros in front of it; none where no digit or minus sign
    starts it. -/
def withoutLeadingZeros? : List Char → Option (List Char)
  | [] => none
  | c :: rest =>
    if c = '0' then afterZeros? c rest
    else if c = '-' || ('1' ≤ c && c ≤ '9') then some (c :: rest)
    else none

/-- Cuts a point with zeros, and at least one, behind it. -/
def withoutZeroFraction (cs : List Char) : List Char :=
  let whole := cs.takeWhile (· ≠ '.')
  match cs.drop whole.length with
  | '.' :: zeros => if !zeros.isEmpty && zeros.all (· == '0') then whole else cs
  | _ => cs

/-- The integer of a plain numeral: perhaps a minus sign, and digits of which the
    first is a zero only if it is the last. Sign and digits together are limited
    in number. -/
def plainInteger (cs : List Char) : Except IssueKind Int :=
  let negative := cs.head? = some '-'
  let body := if negative then cs.drop 1 else cs
  let ds := body.takeWhile Char.isDigit
  if ds.isEmpty || (ds.head? = some '0' && ds.length ≠ 1) then .error .integerUnreadable
  else if Numeral.digitLimit < ds.length + (if negative then 1 else 0) then
    .error .integerTooLong
  else if ds.length ≠ body.length then .error .integerUnreadable
  else .ok (Double.withSign negative (Text.readDigits 0 ds))

/-- The integer of a text: white space around it, a plus sign, zeros in front, a
    fraction of zeros and lone underscores are allowed, and taken off in this
    order. -/
def integerOfText (cs : List Char) : Except IssueKind Int :=
  match (withoutPlus? (trimSpace cs)).bind withoutLeadingZeros? with
  | none => .error .integerUnreadable
  | some numeral =>
    let whole := withoutZeroFraction numeral
    plainInteger ((withoutUnderscores? whole).getD whole)

/-- A character of the plain texts of doubles. -/
def isRealCharacter (c : Char) : Bool :=
  c.isAlphanum || c == '+' || c == '-' || c == '.'

/-- The double of a plain text: an ASCII numeral, or the name of an infinity or of
    the value that is no number. -/
def plainReal? (cs : List Char) : Option Float :=
  if cs.all isRealCharacter then Numeral.readReal? cs else none

/-- The double of a text: a plain text with white space around it, or with lone
    underscores in it. -/
def realOfText? (cs : List Char) : Option Float :=
  (plainReal? (trimSpace cs)).orElse fun _ => (withoutUnderscores? cs).bind plainReal?

/-! ## Truth values -/

/-- The words for true and false. -/
def booleanOfText? (s : String) : Option Bool :=
  let word := String.ofList (s.toList.map Char.toLower)
  if word ∈ ["1", "on", "t", "true", "y", "yes"] then some true
  else if word ∈ ["0", "off", "f", "false", "n", "no"] then some false
  else none

/-- The integers whose nearest double is at most `2 ^ 63` in magnitude. -/
def fitsWord (n : Int) : Bool :=
  -(2 ^ 63 + 2 ^ 10 : Int) ≤ n && n ≤ 2 ^ 63 + 2 ^ 10

namespace PartReader

/-- A truth value, or a word or number that stands for one. -/
def boolean : PartReader Bool
  | .bool b => .ok b
  | .text s =>
    match booleanOfText? s with
    | some b => .ok b
    | none => .issue .booleanUnreadable
  | .num n =>
    match n.integer? with
    | some 0 => .ok false
    | some 1 => .ok true
    | some m => if fitsWord m then .issue .booleanUnreadable else .issue .booleanExpected
    | none => .issue .booleanExpected
  | _ => .issue .booleanExpected

/-! ## Numbers and scalars -/

/-- The place of a member of a union of types. -/
def member (name : String) : List Place :=
  [.key name]

/-- A number, or a truth value or text that stands for one. An integer is tried
    before a double. -/
def number : PartReader Number
  | .num n => .ok n
  | .bool b => .ok (.int (if b then 1 else 0))
  | .text s =>
    match integerOfText s.toList, realOfText? s.toList with
    | .ok n, _ => .ok (.int n)
    | .error _, some x => .ok (.real x)
    | .error kind, none => .fail [(member "int", kind), (member "float", .realUnreadable)]
  | _ => .fail [(member "int", .integerExpected), (member "float", .realExpected)]

/-- A truth value, number or text, as it is. -/
def scalar : PartReader Value
  | .bool b => .ok (.bool b)
  | .num n => .ok (.num n)
  | .text s => .ok (.text s)
  | _ =>
    .fail [(member "bool", .booleanExpected), (member "int", .integerExpected),
      (member "float", .realExpected), (member "str", .textExpected)]

end PartReader
end TokenFormula
