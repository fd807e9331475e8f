import TokenFormula.Text.Quoted
import TokenFormula.Value.Text

/-!
# Writing JSON

A style says what stands between the parts of a JSON text and whether it keeps
to ASCII.

Results:
* `Style.write`: a value in a given style; integers with too many digits cannot
  be written.
* `Style.compact`, `Style.indented`: the two styles in use.
-/

namespace TokenFormula.Json

open TokenFormula.Text

/-- How a JSON text is laid out. -/
structure Style where
  /-- Characters beyond ASCII are written by their numbers. -/
  ascii : Bool
  /-- Blanks per level, each part on its own line; none for a single line. -/
  indent : Option Nat
  /-- What stands between parts on one line. -/
  itemSeparator : String
  keySeparator : String

/-- One line of ASCII without blanks. -/
def Style.compact : Style := ⟨true, none, ",", ":"⟩

/-- Two blanks per level, all characters as they are. -/
def Style.indented : Style := ⟨false, some 2, ",", ": "⟩

/-! ## Strings -/

/-- A numbered escape of one sixteen-bit unit. -/
def unitEscape (n : Nat) : List Char :=
  '\\' :: 'u' :: hexDigits 4 n

/-- One character inside a string. -/
def Style.writeChar (style : Style) (c : Char) : List Char :=
  let n := c.toNat
  if c = '"' then ['\\', '"']
  else if c = '\\' then ['\\', '\\']
  else if c = '\n' then ['\\', 'n']
  else if c = '\r' then ['\\', 'r']
  else if c = '\t' then ['\\', 't']
  else if n = 8 then ['\\', 'b']
  else if n = 12 then ['\\', 'f']
  else if n < 0x20 then unitEscape n
  else if n < 0x7F ∨ !style.ascii then [c]
  else if n < 0x10000 then unitEscape n
  else unitEscape (0xD800 + (n - 0x10000) / 0x400) ++ unitEscape (0xDC00 + (n - 0x10000) % 0x400)

/-- A string with its quotes. -/
def Style.writeString (style : Style) (s : String) : String :=
  String.ofList ('"' :: s.toList.flatMap style.writeChar ++ ['"'])

/-! ## Values -/

/-- A number; the names of the values without digits are `NaN` and `Infinity`. -/
def writeNumber : Number → Except Fault String
  | .int n => Number.integerText n
  | .real x =>
    .ok (({ Number.layout with nan := "NaN", infinity := "Infinity" } : Double.Layout).write x)

/-- The parts of an array or object at a given depth, between brackets. -/
def Style.enclose (style : Style) (depth : Nat) (left right : String) (parts : List String) :
    String :=
  match style.indent, parts with
  | _, [] => left ++ right
  | none, parts => left ++ style.itemSeparator.intercalate parts ++ right
  | some width, parts =>
    let line (d : Nat) := "\n" ++ "".pushn ' ' (width * d)
    left ++ line (depth + 1) ++ (style.itemSeparator ++ line (depth + 1)).intercalate parts ++
      line depth ++ right

mutual

/-- A value at a given depth. -/
def Style.writeAt (style : Style) (depth : Nat) : Value → Except Fault String
  | .null => .ok "null"
  | .bool b => .ok (if b then "true" else "false")
  | .num n => writeNumber n
  | .text s => .ok (style.writeString s)
  | .list items => do
    return style.enclose depth "[" "]" (← style.writeItems (depth + 1) items)
  | .dict entries => do
    return style.enclose depth "\x7b" "\x7d" (← style.writeMembers (depth + 1) entries)
  | .function f => .ok (style.writeString (Value.functionText f))

/-- The items of an array. -/
def Style.writeItems (style : Style) (depth : Nat) : List Value → Except Fault (List String)
  | [] => .ok []
  | v :: rest => do
    let s ← style.writeAt depth v
    let ss ← style.writeItems depth rest
    return s :: ss

/-- The members of an object. -/
def Style.writeMembers (style : Style) (depth : Nat) :
    List (String × Value) → Except Fault (List String)
  | [] => .ok []
  | (k, v) :: rest => do
    let s ← style.writeAt depth v
    let ss ← style.writeMembers depth rest
    return (style.writeString k ++ style.keySeparator ++ s) :: ss

end

/-- A value as JSON text. -/
def Style.write (style : Style) (v : Value) : Except Fault String :=
  style.writeAt 0 v

end TokenFormula.Json
