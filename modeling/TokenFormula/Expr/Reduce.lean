import TokenFormula.Expr.Basic

/-!
# Redundant operations

Two passes that simplify every node after its children: one drops operations
that change nothing, the other joins a sum of a variable with itself.

Results:
* `Expr.dropRedundant`: `x + 0`, `x * 1`, `x ^ 1`, `x ^ 0`, `-(-x)` and
  parentheses around a literal or variable.
* `Expr.joinTerms`: `x + x` becomes `2 * x`.
-/

namespace TokenFormula.Expr

/-- The tree is a literal that holds a text. -/
def isTextLiteral : Expr → Bool
  | literal (some (.text _)) _ _ => true
  | _ => false

/-- The tree without the parentheses around it. -/
def ungroup : Expr → Expr
  | group body _ => ungroup body
  | e => e

/-- The tree that is negated by a tree, parentheses around it aside. -/
def negated? (e : Expr) : Option Expr :=
  match e.ungroup with
  | unary (.text "-") operand _ => if operand.isAbsent then none else some operand
  | _ => none

/-! ## Rules -/

/-- Drops a zero of a sum next to what is no text. -/
def dropZero (whole left right : Expr) : Expr :=
  if right.isInteger 0 && !left.isTextLiteral then left
  else if left.isInteger 0 && !right.isTextLiteral then right
  else whole

/-- Drops a one of a product. -/
def dropOne (whole left right : Expr) : Expr :=
  if right.isInteger 1 then left else if left.isInteger 1 then right else whole

/-- Drops the exponents one and zero. -/
def dropExponent (whole left right : Expr) : Expr :=
  if right.isInteger 1 then left
  else if right.isInteger 0 then number (.int 1)
  else whole

/-- Drops a redundant binary operation. -/
def dropBinary (op : Value) (left right : Expr) (note : Option Note) : Expr :=
  let whole := binary op left right note
  if left.isAbsent || right.isAbsent then whole
  else
    match op with
    | .text "+" => dropZero whole left right
    | .text "*" => dropOne whole left right
    | .text "^" => dropExponent whole left right
    | _ => whole

/-- Drops a double negation. -/
def dropUnary (op : Value) (operand : Expr) (note : Option Note) : Expr :=
  match op, negated? operand with
  | .text "-", some e => e
  | _, _ => unary op operand note

/-- Drops parentheses around a literal or variable. -/
def dropGroup (body : Expr) (note : Option Note) : Expr :=
  match body with
  | literal .. | var .. => body
  | _ => group body note

/-- Joins a sum of a variable with itself. -/
def joinBinary (op : Value) (left right : Expr) (note : Option Note) : Expr :=
  let whole := binary op left right note
  match op, left, right with
  | .text "+", var x _, var y _ =>
    if x.isTruthy && x.identical y then binary (.text "*") (number (.int 2)) right none
    else whole
  | _, _, _ => whole

/-! ## Passes -/

mutual

/-- Drops operations that change nothing, inner ones first. -/
def dropRedundant : Expr → Expr
  | binary op left right note => dropBinary op left.dropRedundant right.dropRedundant note
  | unary op operand note => dropUnary op operand.dropRedundant note
  | group body note => dropGroup body.dropRedundant note
  | call name args note => call name (dropRedundantIn args) note
  | assign name value note => assign name value.dropRedundant note
  | absent => absent
  | var name note => var name note
  | literal value fallback note => literal value fallback note

/-- Drops operations that change nothing in every argument. -/
def dropRedundantIn : List Expr → List Expr
  | [] => []
  | a :: rest => a.dropRedundant :: dropRedundantIn rest

end

mutual

/-- Joins sums of a variable with itself, inner ones first. -/
def joinTerms : Expr → Expr
  | binary op left right note => joinBinary op left.joinTerms right.joinTerms note
  | unary op operand note => unary op operand.joinTerms note
  | group body note => group body.joinTerms note
  | call name args note => call name (joinTermsIn args) note
  | assign name value note => assign name value.joinTerms note
  | absent => absent
  | var name note => var name note
  | literal value fallback note => literal value fallback note

/-- Joins sums of a variable with itself in every argument. -/
def joinTermsIn : List Expr → List Expr
  | [] => []
  | a :: rest => a.joinTerms :: joinTermsIn rest

end

end TokenFormula.Expr
