/-!
# Operators

The operators of formulas with their signs and how tightly they bind.

Results:
* `BinaryOp.symbol`, `BinaryOp.ofSymbol?`: operators and their signs.
* `BinaryOp.level`: the precedence of a binary operator.
-/

namespace TokenFormula

/-- The binary operators. -/
inductive BinaryOp where
  | or | and
  | strictEq | strictNe | eq | ne
  | lt | gt | le | ge
  | add | sub
  | mul | div | mod
  | pow
deriving DecidableEq, Repr

/-- The unary operators. -/
inductive UnaryOp where
  | neg | pos | not
deriving DecidableEq, Repr

namespace BinaryOp

/-- All binary operators. -/
def all : List BinaryOp :=
  [or, and, strictEq, strictNe, eq, ne, lt, gt, le, ge, add, sub, mul, div, mod, pow]

/-- The sign of an operator in an expression. -/
def symbol : BinaryOp → String
  | or => "||"
  | and => "&&"
  | strictEq => "==="
  | strictNe => "!=="
  | eq => "=="
  | ne => "!="
  | lt => "<"
  | gt => ">"
  | le => "<="
  | ge => ">="
  | add => "+"
  | sub => "-"
  | mul => "*"
  | div => "/"
  | mod => "%"
  | pow => "^"

/-- The operator with a sign. -/
def ofSymbol? (s : String) : Option BinaryOp :=
  all.find? fun op => op.symbol == s

/-- How tightly an operator binds its operands, from `1` for the loosest. -/
def level : BinaryOp → Nat
  | or => 1
  | and => 2
  | strictEq | strictNe | eq | ne => 3
  | lt | gt | le | ge => 4
  | add | sub => 5
  | mul | div | mod => 6
  | pow => 8

@[simp] theorem ofSymbol?_symbol (op : BinaryOp) : ofSymbol? op.symbol = some op := by
  cases op <;> decide

end BinaryOp

namespace UnaryOp

/-- How tightly a unary operator binds: tighter than products, looser than
    powers. -/
def level : Nat := 7

/-- The sign of an operator in an expression. -/
def symbol : UnaryOp → String
  | neg => "-"
  | pos => "+"
  | not => "!"

/-- The operator with a sign. -/
def ofSymbol? (s : String) : Option UnaryOp :=
  [neg, pos, not].find? fun op => op.symbol == s

@[simp] theorem ofSymbol?_symbol (op : UnaryOp) : ofSymbol? op.symbol = some op := by
  cases op <;> decide

end UnaryOp
end TokenFormula
