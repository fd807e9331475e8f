import TokenFormula.Builtin
import TokenFormula.Expr.Basic

/-!
# Constant folding

Operators and calls whose operands are numbers are replaced by their result,
inner ones first. What has no finite result is left as it is. Deciding whether
an integer is finite fails when it is beyond the largest double.

Results:
* `foldBinary`, `foldUnary`, `foldCall`: the three rules.
* `Expr.foldConstants`: the pass.
-/

namespace TokenFormula

/-- Whether a value is a finite number. -/
def Value.isFinite : Value → Except Fault Bool
  | .num n => do return Double.isFinite (← n.toReal)
  | _ => .ok false

namespace Expr

/-- The literal of a result, if the result is a finite number; else the tree
    that it would replace. -/
def foldedTo (whole : Expr) : Except Fault Value → Except Fault Expr
  | .error f => if f.isOfCall then .ok whole else .error f
  | .ok v => do
    match ← v.isFinite, v with
    | true, .num n => return number n.normalize
    | _, _ => return whole

/-- The result of an operator on two numbers; null where the operator is not
    one of the five that are folded. -/
def foldOperator (op : Value) (a b : Number) : Except Fault Value :=
  match op with
  | .text "+" => do return .num (← a.add b)
  | .text "-" => do return .num (← a.sub b)
  | .text "*" => do return .num (← a.mul b)
  | .text "/" => do return .num (← a.divide b)
  | .text "^" => power (.num a) (.num b)
  | _ => .ok .null

/-- Folds an operator with two numbers. A division by zero stays. -/
def foldBinary (op : Value) (left right : Expr) (note : Option Note) : Except Fault Expr :=
  let whole := binary op left right note
  match left.number?, right.number? with
  | some a, some b =>
    match op, b.isZero with
    | .text "/", true => .ok whole
    | _, _ => foldedTo whole (foldOperator op a b)
  | _, _ => .ok whole

/-- Folds the sign and the negation of a number. -/
def foldUnary (op : Value) (operand : Expr) (note : Option Note) : Expr :=
  match op, operand.number? with
  | .text "-", some n => number n.negate.normalize
  | .text "!", some n => literal (some (.bool n.isZero)) false none
  | _, _ => unary op operand note

/-- The numbers that all arguments write. -/
def numbers? (args : List Expr) : Option (List Number) :=
  args.mapM number?

/-- The name in the table of functions after its start `Math.`. -/
def mathMember? (s : String) : Option String :=
  let start := "Math.".toList
  if start.isPrefixOf s.toList then some (String.ofList (s.toList.drop start.length)) else none

/-- Folds a call of one of the foldable functions with numbers. -/
def foldCall (name : Value) (args : List Expr) (note : Option Note) : Except Fault Expr :=
  let whole := call name args note
  match name with
  | .text s =>
    match (mathMember? s).bind foldable?, args, numbers? args with
    | some f, _ :: _, some ns => foldedTo whole (f.apply (ns.map .num))
    | _, _, _ => .ok whole
  | name => if name.isTruthy then .error (.noAttribute name.typeName "startswith") else .ok whole

mutual

/-- Folds constants everywhere in a tree, inner ones first. -/
def foldConstants : Expr → Except Fault Expr
  | binary op left right note => do
    let left ← left.foldConstants
    let right ← right.foldConstants
    foldBinary op left right note
  | unary op operand note => do return foldUnary op (← operand.foldConstants) note
  | call name args note => do foldCall name (← foldArguments args) note
  | assign name value note => do return assign name (← value.foldConstants) note
  | group body note => do return group (← body.foldConstants) note
  | absent => .ok absent
  | var name note => .ok (var name note)
  | literal value fallback note => .ok (literal value fallback note)

/-- Folds constants in every argument. -/
def foldArguments : List Expr → Except Fault (List Expr)
  | [] => .ok []
  | a :: rest => do
    let e ← a.foldConstants
    let es ← foldArguments rest
    return e :: es

end

end Expr
end TokenFormula
