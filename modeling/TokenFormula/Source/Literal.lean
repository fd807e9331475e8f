import TokenFormula.Number.Numeral
import TokenFormula.Number.Basic

/-!
# Literals of formula texts

Results:
* `readNumber`: the number that a numeral spells.
* `quote`: a text as a quoted literal.
* `unquote`: the text that a quoted literal stands for.
-/

namespace TokenFormula.Source

/-! ## Numbers -/

/-- The number that a numeral spells: a double in normal form where there is a
    point or an exponent letter, else an integer. -/
def readNumber (s : String) : Except Fault Number :=
  let cs := s.toList
  if cs.any fun c => c == '.' || c == 'e' || c == 'E' then
    match Numeral.readReal? cs with
    | some x => .ok (Number.real x).normalize
    | none => .error (.unreadableReal s)
  else
    match Numeral.readInteger cs with
    | .ok n => .ok (.int n)
    | .error .malformed => .error (.unreadableInteger s)
    | .error (.tooManyDigits count) => .error (.tooManyDigits (some count))

/-! ## Texts -/

/-- One character inside double quotes. -/
def escapeChar (c : Char) : List Char :=
  if c = '\\' then ['\\', '\\']
  else if c = '"' then ['\\', '"']
  else if c = '\n' then ['\\', 'n']
  else if c = '\r' then ['\\', 'r']
  else if c = '\t' then ['\\', 't']
  else [c]

/-- A text between double quotes. -/
def quoteChars (cs : List Char) : List Char :=
  '"' :: cs.flatMap escapeChar ++ ['"']

/-- A text as a quoted literal. -/
def quote (s : String) : String :=
  String.ofList (quoteChars s.toList)

/-- What the character after a backslash stands for. -/
def unescape (c : Char) : Char :=
  if c = 'n' then '\n' else if c = 't' then '\t' else if c = 'r' then '\r' else c

/-- Resolves the escapes; a backslash at the end stands for itself. -/
def resolveEscapes : List Char → List Char
  | [] => []
  | '\\' :: c :: rest => unescape c :: resolveEscapes rest
  | c :: rest => c :: resolveEscapes rest

/-- Whether a list starts and ends with the same quote, in two places. -/
def isQuoted (cs : List Char) : Bool :=
  match cs with
  | c :: d :: rest => (c == '"' || c == '\'') && (d :: rest).getLast? == some c
  | _ => false

/-- The characters that a quoted literal stands for; without quotes around it,
    only escapes are resolved. -/
def unquoteChars (cs : List Char) : List Char :=
  resolveEscapes (if isQuoted cs then (cs.drop 1).dropLast else cs)

/-- The text that a quoted literal stands for. -/
def unquote (s : String) : String :=
  String.ofList (unquoteChars s.toList)

end TokenFormula.Source
