import TokenFormula.Number.Numeral
import TokenFormula.Text.Position
import TokenFormula.Value.Basic

/-!
# Reading JSON

The reader follows the JSON grammar and accepts three names beyond it: `NaN`,
`Infinity` and `-Infinity`. A number with a point or an exponent is a double,
any other an integer. Of members with one name the last one counts.

Results:
* `Json.read`: the value that a text writes, or where and why it is no JSON.
* `ReadError.message`: the text of an error, with line and column.
-/

namespace TokenFormula.Json

/-- What is wrong at a position. -/
inductive Problem where
  | byteOrderMark
  | value
  | propertyName
  | colon
  | comma
  | extra
  | control
  | unterminated
  | escape
  | unicodeEscape
deriving DecidableEq, Repr

/-- The text of a problem. -/
def Problem.message : Problem → String
  | byteOrderMark => "Unexpected UTF-8 BOM (decode using utf-8-sig)"
  | value => "Expecting value"
  | propertyName => "Expecting property name enclosed in double quotes"
  | colon => "Expecting ':' delimiter"
  | comma => "Expecting ',' delimiter"
  | extra => "Extra data"
  | control => "Invalid control character at"
  | unterminated => "Unterminated string starting at"
  | escape => "Invalid \\escape"
  | unicodeEscape => "Invalid \\uXXXX escape"

/-- Why a text was not read. -/
inductive ReadError where
  /-- The text is no JSON from `position` on. -/
  | malformed (problem : Problem) (position line column : Nat)
  /-- An integer has too many digits. -/
  | tooManyDigits (count : Nat)
deriving DecidableEq, Repr

/-- The text of an error. -/
def ReadError.message : ReadError → String
  | malformed problem position line column =>
    problem.message ++ ": line " ++ toString line ++ " column " ++ toString column ++
      " (char " ++ toString position ++ ")"
  | tooManyDigits count => (Fault.tooManyDigits (some count)).message

/-- What a reading step reports: a problem at a position, or too many digits. -/
inductive Failure where
  | at (problem : Problem) (position : Nat)
  | digits (count : Nat)

/-- The unread characters and the position of the first. -/
structure Cursor where
  rest : List Char
  position : Nat

/-- Passes over `n` characters. -/
def Cursor.advance (n : Nat) (c : Cursor) : Cursor :=
  ⟨c.rest.drop n, c.position + n⟩

/-- The blanks between the parts of a JSON text. -/
def isSpace (c : Char) : Bool :=
  c == ' ' || c == '\t' || c == '\n' || c == '\r'

/-- Passes over blanks. -/
def Cursor.skip (c : Cursor) : Cursor :=
  c.advance (c.rest.takeWhile isSpace).length

/-! ## Strings -/

/-- The value of a digit in base sixteen. -/
def hexValue? (c : Char) : Option Nat :=
  let n := c.toNat
  if 0x30 ≤ n ∧ n ≤ 0x39 then some (n - 0x30)
  else if 0x41 ≤ n ∧ n ≤ 0x46 then some (n - 0x37)
  else if 0x61 ≤ n ∧ n ≤ 0x66 then some (n - 0x57)
  else none

/-- The number of four digits in base sixteen at the start. -/
def hex4? (cs : List Char) : Option Nat :=
  match cs with
  | a :: b :: c :: d :: _ => do
    let a ← hexValue? a
    let b ← hexValue? b
    let c ← hexValue? c
    let d ← hexValue? d
    return ((a * 16 + b) * 16 + c) * 16 + d
  | _ => none

/-- The character that a letter after a backslash stands for. -/
def simpleEscape? (c : Char) : Option Char :=
  match c with
  | '"' => some '"'
  | '\\' => some '\\'
  | '/' => some '/'
  | 'b' => some (Char.ofNat 8)
  | 'f' => some (Char.ofNat 12)
  | 'n' => some '\n'
  | 'r' => some '\r'
  | 't' => some '\t'
  | _ => none

/-- The character of a code, with the replacement character for a surrogate
    that stands alone. -/
def ofCode (n : Nat) : Char :=
  if 0xD800 ≤ n ∧ n < 0xE000 then Char.ofNat 0xFFFD else Char.ofNat n

/-- What a numbered escape stands for: the code, whose four digits start at
    `c`, and the number of characters it takes. A pair of surrogates is one
    code. -/
def numberedEscape (c : Cursor) : Except Failure (Char × Nat) :=
  if c.rest.length < 5 then .error (.at .unicodeEscape (c.position - 1))
  else
    match hex4? c.rest with
    | none => .error (.at .unicodeEscape (c.position - 1))
    | some high =>
      match c.rest.drop 4 with
      | '\\' :: 'u' :: more =>
        if 0xD800 ≤ high ∧ high < 0xDC00 ∧ 5 ≤ more.length then
          match hex4? more with
          | none => .error (.at .unicodeEscape (c.position + 5))
          | some low =>
            if 0xDC00 ≤ low ∧ low < 0xE000 then
              .ok (Char.ofNat (0x10000 + (high - 0xD800) * 0x400 + (low - 0xDC00)), 10)
            else .ok (ofCode high, 4)
        else .ok (ofCode high, 4)
      | _ => .ok (ofCode high, 4)

/-- Reads the inside of a string up to its closing quote; `start` is the
    position of the opening one. -/
def readChars (start : Nat) : (fuel : Nat) → Cursor → Except Failure (List Char × Cursor)
  | 0, _ => .error (.at .unterminated start)
  | fuel + 1, c =>
    match c.rest with
    | [] => .error (.at .unterminated start)
    | '"' :: _ => .ok ([], c.advance 1)
    | '\\' :: [] => .error (.at .unterminated start)
    | '\\' :: 'u' :: _ => do
      let (ch, taken) ← numberedEscape (c.advance 2)
      let (cs, after) ← readChars start fuel (c.advance (2 + taken))
      return (ch :: cs, after)
    | '\\' :: e :: _ =>
      match simpleEscape? e with
      | none => .error (.at .escape c.position)
      | some ch => do
        let (cs, after) ← readChars start fuel (c.advance 2)
        return (ch :: cs, after)
    | ch :: _ =>
      if ch.toNat < 0x20 then .error (.at .control c.position)
      else do
        let (cs, after) ← readChars start fuel (c.advance 1)
        return (ch :: cs, after)

/-- Reads a string whose opening quote is at `c`. -/
def readString (c : Cursor) : Except Failure (String × Cursor) := do
  let (cs, after) ← readChars c.position c.rest.length (c.advance 1)
  return (String.ofList cs, after)

/-! ## Numbers -/

/-- An ASCII digit. -/
def isDecimal (c : Char) : Bool :=
  '0' ≤ c && c ≤ '9'

/-- The digits before a point: a single zero, or digits that do not start with
    one. -/
def wholePart (cs : List Char) : List Char :=
  match cs with
  | '0' :: _ => ['0']
  | _ => cs.takeWhile isDecimal

/-- The point and digits, if a digit follows the point. -/
def fractionPart (cs : List Char) : List Char :=
  match cs with
  | '.' :: rest =>
    let ds := rest.takeWhile isDecimal
    if ds.isEmpty then [] else '.' :: ds
  | _ => []

/-- The exponent letter, sign and digits, if there are digits. -/
def exponentPart (cs : List Char) : List Char :=
  match cs with
  | e :: rest =>
    if e = 'e' ∨ e = 'E' then
      let sign := match rest with
        | s :: _ => if s = '+' ∨ s = '-' then [s] else []
        | [] => []
      let ds := (rest.drop sign.length).takeWhile isDecimal
      if ds.isEmpty then [] else e :: sign ++ ds
    else []
  | [] => []

/-- Reads a number; none where none starts. -/
def readNumber (c : Cursor) : Except Failure (Number × Cursor) :=
  let sign := if c.rest.head? = some '-' then ['-'] else []
  let body := c.rest.drop sign.length
  let whole := wholePart body
  if whole.isEmpty then .error (.at .value c.position)
  else
    let fraction := fractionPart (body.drop whole.length)
    let exponent := exponentPart (body.drop (whole.length + fraction.length))
    let numeral := sign ++ whole ++ fraction ++ exponent
    let after := c.advance numeral.length
    if fraction.isEmpty && exponent.isEmpty then
      match Numeral.readInteger numeral with
      | .ok n => .ok (.int n, after)
      | .error (.tooManyDigits count) => .error (.digits count)
      | .error .malformed => .error (.at .value c.position)
    else .ok (.real ((Numeral.readReal? numeral).getD Double.notANumber), after)

/-! ## Values -/

/-- The names that stand for values. -/
def names : List (String × Value) :=
  [("null", .null), ("true", .bool true), ("false", .bool false),
    ("NaN", .real Double.notANumber), ("Infinity", .real Double.infinity),
    ("-Infinity", .real Double.negativeInfinity)]

/-- The name at the start of the text with its value. -/
def nameAt? (cs : List Char) : Option (String × Value) :=
  names.find? fun p => p.1.toList.isPrefixOf cs

mutual

/-- Reads the value that starts at the cursor. -/
def readValue : (fuel : Nat) → Cursor → Except Failure (Value × Cursor)
  | 0, c => .error (.at .value c.position)
  | fuel + 1, c =>
    match c.rest with
    | '"' :: _ => do
      let (s, after) ← readString c
      return (.text s, after)
    | '[' :: _ =>
      let inner := (c.advance 1).skip
      if inner.rest.head? = some ']' then .ok (.list [], inner.advance 1)
      else do
        let (items, after) ← readItems fuel inner
        return (.list items, after)
    | '\x7b' :: _ =>
      let inner := (c.advance 1).skip
      if inner.rest.head? = some '\x7d' then .ok (.dict [], inner.advance 1)
      else do
        let (members, after) ← readMembers fuel inner
        return (.dict (Entries.ofPairs members), after)
    | cs =>
      match nameAt? cs with
      | some (name, v) => .ok (v, c.advance name.length)
      | none => do
        let (n, after) ← readNumber c
        return (.num n, after)

/-- Reads the items of an array up to its closing bracket. -/
def readItems : (fuel : Nat) → Cursor → Except Failure (List Value × Cursor)
  | 0, c => .error (.at .value c.position)
  | fuel + 1, c => do
    let (v, after) ← readValue fuel c
    let next := after.skip
    match next.rest with
    | ']' :: _ => return ([v], next.advance 1)
    | ',' :: _ =>
      let (vs, last) ← readItems fuel (next.advance 1).skip
      return (v :: vs, last)
    | _ => throw (.at .comma next.position)

/-- Reads the members of an object up to its closing brace. -/
def readMembers : (fuel : Nat) → Cursor → Except Failure (List (String × Value) × Cursor)
  | 0, c => .error (.at .value c.position)
  | fuel + 1, c =>
    if c.rest.head? ≠ some '"' then .error (.at .propertyName c.position)
    else do
      let (name, after) ← readString c
      let colon := after.skip
      if colon.rest.head? ≠ some ':' then throw (.at .colon colon.position)
      let (v, after) ← readValue fuel (colon.advance 1).skip
      let next := after.skip
      match next.rest with
      | '\x7d' :: _ => return ([(name, v)], next.advance 1)
      | ',' :: _ =>
        let (members, last) ← readMembers fuel (next.advance 1).skip
        return ((name, v) :: members, last)
      | _ => throw (.at .comma next.position)

end

/-! ## Whole texts -/

/-- The error of a failure in a text. -/
def Failure.toError (cs : List Char) : Failure → ReadError
  | .at problem position =>
    let (line, column) := Text.lineColumn cs position
    .malformed problem position line column
  | .digits count => .tooManyDigits count

/-- Reads a whole text; nesting is bounded by the length of the text. -/
def readAll (cs : List Char) : Except Failure Value := do
  if cs.head? = some (Char.ofNat 0xFEFF) then throw (.at .byteOrderMark 0)
  let (v, after) ← readValue (2 * cs.length + 2) (Cursor.skip ⟨cs, 0⟩)
  let last := after.skip
  if last.rest.isEmpty then return v else throw (.at .extra last.position)

/-- The value that a text writes. -/
def read (s : String) : Except ReadError Value :=
  (readAll s.toList).mapError (Failure.toError s.toList)

end TokenFormula.Json
