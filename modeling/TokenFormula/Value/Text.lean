import TokenFormula.Value.Basic

/-!
# Values as text

A value has two texts: as a message shows it, with quotes around texts, and as
a result shows it, with plain texts and the elements of a list joined by commas.
Both fail on an integer with too many digits.

Results:
* `Value.display`: a value as messages show it.
* `Value.plain`: as `display`, but a text stands for itself.
* `Value.format`: a value as results show it.
-/

namespace TokenFormula.Value

/-- A built-in function as messages show it. -/
def functionText (f : Builtin) : String :=
  let name := match f with
    | .pow => "pow" | .max => "max" | .min => "min" | .abs => "abs" | .floor => "floor"
    | .ceil => "ceil" | .round => "round" | .sqrt => "sqrt" | .sin => "sin" | .cos => "cos"
    | .tan => "tan" | .log => "log" | .exp => "exp" | .isArray => "isArray"
  (if f.isDerived then "<function " else "<built-in function ") ++ name ++ ">"

mutual

/-- A value as messages show it. -/
def display : Value → Except Fault String
  | null => .ok "None"
  | bool b => .ok (if b then "True" else "False")
  | num n => n.display
  | text s => .ok (Text.quoted s)
  | list items => do return "[" ++ ", ".intercalate (← displayItems items) ++ "]"
  | dict entries => do return "\x7b" ++ ", ".intercalate (← displayEntries entries) ++ "\x7d"
  | function f => .ok (functionText f)

/-- The elements of a list as messages show them. -/
def displayItems : List Value → Except Fault (List String)
  | [] => .ok []
  | v :: rest => do
    let s ← display v
    let ss ← displayItems rest
    return s :: ss

/-- The entries of a dictionary as messages show them. -/
def displayEntries : List (String × Value) → Except Fault (List String)
  | [] => .ok []
  | (k, v) :: rest => do
    let s ← display v
    let ss ← displayEntries rest
    return (Text.quoted k ++ ": " ++ s) :: ss

end

/-- A value as messages show it, a text without quotes. -/
def plain : Value → Except Fault String
  | text s => .ok s
  | v => v.display

/-- A number as results show it; any other value as messages show it. -/
def numeral : Value → Except Fault String
  | num n => n.text
  | v => v.display

mutual

/-- A value as results show it. -/
def format : Value → Except Fault String
  | null => .ok ""
  | bool b => .ok (if b then "true" else "false")
  | num n => n.text
  | text s => .ok s
  | list items => do return ",".intercalate (← formatItems items)
  | dict entries => display (dict entries)
  | function f => .ok (functionText f)

/-- The elements of a list as results show them. -/
def formatItems : List Value → Except Fault (List String)
  | [] => .ok []
  | v :: rest => do
    let s ← format v
    let ss ← formatItems rest
    return s :: ss

end

end TokenFormula.Value
