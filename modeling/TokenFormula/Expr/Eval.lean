import TokenFormula.Expr.Basic
import TokenFormula.Operator
import TokenFormula.Scope
import TokenFormula.Text.Split
import TokenFormula.Value.Text

/-!
# Evaluation

The value of a tree in a scope. Assignments write into the scope; what was
written before an error stays. Both the outcome and the final scope are part of
the result.

Results:
* `Expr.evaluate`: the outcome and the final scope.
* `applyBinary`, `applyUnary`: the operators on values.
* `EvalError.message`: the text of an error.
-/

namespace TokenFormula

/-- Why a tree has no value. -/
inductive EvalError where
  | missingNode
  | missingValue
  | missingVariableName
  | incompleteBinary
  | incompleteUnary
  | missingAssignmentName
  | missingFunctionName
  /-- A fallback has no value; `shown` is what it holds. -/
  | unsupportedConstruct (shown : String)
  | undefined (name : String)
  | unsupportedOperator (shown : String)
  | unsupportedUnary (shown : String)
  | expectsNumbers (symbol kind : String)
  | incomparable (left right symbol : String)
  | divisionByZero
  | moduloByZero
  | notFunction (name : String)
  /-- An operator fails on its operands. -/
  | arithmetic (symbol : String) (cause : Fault)
  /-- A function fails on its arguments. -/
  | failedCall (name : String) (cause : Fault)
  /-- A fault outside operators and calls, which is not an error of the
      evaluation. -/
  | escaped (cause : Fault)
deriving DecidableEq, Repr

namespace EvalError

/-- The error is one of the evaluation. -/
def isOwn : EvalError → Bool
  | escaped _ => false
  | _ => true

/-- The text of an error. -/
def message : EvalError → String
  | missingNode => "Invalid expression: missing node"
  | missingValue => "Invalid literal: missing value"
  | missingVariableName => "Invalid variable: missing variable name"
  | incompleteBinary => "Invalid binary expression: missing left, right, or operator"
  | incompleteUnary => "Invalid unary expression: missing operand or operator"
  | missingAssignmentName => "Invalid assignment: missing variable name"
  | missingFunctionName => "Invalid function call: missing function name"
  | unsupportedConstruct shown => "Unsupported expression construct: " ++ shown
  | undefined name => "'" ++ name ++ "' is not defined"
  | unsupportedOperator shown => "Unsupported operator: " ++ shown
  | unsupportedUnary shown => "Unsupported unary operator: " ++ shown
  | expectsNumbers symbol kind => "Operator '" ++ symbol ++ "' expects numbers, got " ++ kind
  | incomparable left right symbol =>
    "Cannot compare " ++ left ++ " and " ++ right ++ " with '" ++ symbol ++ "'"
  | divisionByZero => "Division by zero"
  | moduloByZero => "Modulo by zero"
  | notFunction name => "'" ++ name ++ "' is not a function"
  | arithmetic symbol cause => "Arithmetic error in '" ++ symbol ++ "': " ++ cause.message
  | failedCall name cause => "Error calling " ++ name ++ ": " ++ cause.message
  | escaped cause => cause.message

end EvalError

/-! ## Operators -/

/-- The number that an operand counts as. -/
def operandNumber (symbol : String) (v : Value) : Except EvalError Number :=
  match v.number? with
  | some n => .ok n
  | none => .error (.expectsNumbers symbol v.kindName)

/-- An operation on numbers as the operator with this sign. -/
def numeric (symbol : String) (f : Number → Number → Except Fault Number) (a b : Value) :
    Except EvalError Value := do
  let m ← operandNumber symbol a
  let n ← operandNumber symbol b
  match f m n with
  | .ok r => return .num r
  | .error e => throw (.arithmetic symbol e)

/-- The text of an operand of a concatenation. -/
def operandText (v : Value) : Except EvalError String :=
  v.format.mapError (.arithmetic "+")

/-- The sum of numbers, or the concatenation where an operand is a text. -/
def plus (a b : Value) : Except EvalError Value :=
  if a.isText || b.isText then do
    let s ← operandText a
    let t ← operandText b
    return .text (s ++ t)
  else numeric "+" Number.add a b

/-- An operation that refuses a zero divisor, which is looked at first. -/
def withDivisor (symbol : String) (zero : EvalError) (f : Number → Number → Except Fault Number)
    (a b : Value) : Except EvalError Value := do
  let n ← operandNumber symbol b
  if n.isZero then throw zero
  numeric symbol f a b

/-- An order relation of values. -/
def compared (r : Value.Relation) (a b : Value) : Except EvalError Value :=
  match Value.ordered r a b with
  | .ok p => .ok (.bool p)
  | .error _ => .error (.incomparable a.kindName b.kindName r.symbol)

/-- A binary operator on the values of its operands; the result is not yet in
    normal form. The operators `&&` and `||` decide on the first operand alone
    whether the second is needed. -/
def applyBinary (op : BinaryOp) (a b : Value) : Except EvalError Value :=
  match op with
  | .or => .ok (if a.isTruthy then a else b)
  | .and => .ok (if a.isTruthy then b else a)
  | .eq => .ok (.bool (a.equal b))
  | .ne => .ok (.bool (!a.equal b))
  | .strictEq => .ok (.bool (a.strictEqual b))
  | .strictNe => .ok (.bool (!a.strictEqual b))
  | .lt => compared .less a b
  | .gt => compared .greater a b
  | .le => compared .lessEq a b
  | .ge => compared .greaterEq a b
  | .add => plus a b
  | .sub => numeric "-" Number.sub a b
  | .mul => numeric "*" Number.mul a b
  | .div => withDivisor "/" .divisionByZero Number.divide a b
  | .mod => withDivisor "%" .moduloByZero Number.remainder a b
  | .pow => do
    let m ← operandNumber "^" a
    let n ← operandNumber "^" b
    (power (.num m) (.num n)).mapError (.arithmetic "^")

/-- A unary operator on the value of its operand. -/
def applyUnary (op : UnaryOp) (v : Value) : Except EvalError Value :=
  match op with
  | .not => .ok (.bool !v.isTruthy)
  | .neg => do return .num (← operandNumber "-" v).negate.normalize
  | .pos => do return .num (← operandNumber "+" v)

/-! ## Trees -/

/-- A computation that reads and writes a scope. A failure keeps the scope. -/
abbrev Evaluation (α : Type) := ExceptT EvalError (StateM Scope) α

namespace Expr

/-- A value inside a message; where it cannot be shown, that is the failure. -/
def shown (v : Value) : Except EvalError String :=
  v.plain.mapError .escaped

/-- The value of a literal. -/
def literalValue (value : Option Value) (fallback : Bool) : Except EvalError Value :=
  if fallback then do throw (.unsupportedConstruct (← shown (Value.ofOption value)))
  else
    match value with
    | some v => .ok v
    | none => .error .missingValue

/-- The value of a variable. -/
def variableValue (s : Scope) (name : Value) : Except EvalError Value :=
  if !name.isTruthy then .error .missingVariableName
  else
    match name with
    | .text key =>
      match s.get? key with
      | some v => .ok v
      | none => .error (.undefined key)
    | name => do throw (.undefined (← shown name))

/-- The binary operator that a value names. -/
def operatorOf (op : Value) : Except EvalError BinaryOp :=
  match op with
  | .text sign =>
    match BinaryOp.ofSymbol? sign with
    | some op => .ok op
    | none => .error (.unsupportedOperator sign)
  | op =>
    if op.isHashable then do throw (.unsupportedOperator (← shown op))
    else .error (.escaped (.unhashable op.typeName))

/-- The result of the unary operator that a value names. -/
def unaryValue (op v : Value) : Except EvalError Value :=
  match op with
  | .text sign =>
    match UnaryOp.ofSymbol? sign with
    | some op => applyUnary op v
    | none => .error (.unsupportedUnary sign)
  | op => do throw (.unsupportedUnary (← shown op))

/-- Follows member names through dictionaries. -/
def member? (v : Value) : List String → Option Value
  | [] => some v
  | key :: rest =>
    match v with
    | .dict entries =>
      match Entries.get? key entries with
      | some w => member? w rest
      | none => none
    | _ => none

/-- The dotted name of a call. -/
def calleeName (name : Value) : Except EvalError String :=
  if !name.isTruthy then .error .missingFunctionName
  else
    match name with
    | .text dotted => .ok dotted
    | name => .error (.escaped (.noAttribute name.typeName "split"))

/-- What a dotted name stands for. -/
def target (s : Scope) (dotted : String) : Except EvalError Value :=
  match Text.splitAt '.' dotted with
  | [] => .error (.undefined dotted)
  | head :: members =>
    match s.get? head with
    | none => .error (.undefined head)
    | some v =>
      match member? v members with
      | some w => .ok w
      | none => .error (.undefined dotted)

/-- The result of a call. What is no function stands for itself when it is
    called without arguments. -/
def callValue (name : String) (target : Value) (args : List Value) : Except EvalError Value :=
  match target with
  | .function f =>
    match f.apply args with
    | .ok v => .ok v.normalize
    | .error e => .error (if e.isOfCall then .failedCall name e else .escaped e)
  | v => if args.isEmpty then .ok v else .error (.notFunction name)

/-- Binds the target of an assignment. -/
def bind (name v : Value) (s : Scope) : Except EvalError Scope :=
  match name with
  | .text key => .ok (s.set key v)
  | name =>
    if name.isHashable then .ok (s.setUnnamed name v)
    else .error (.escaped (.unhashable name.typeName))

/-- An outcome that does not touch the scope. -/
def pureOutcome {α : Type} (r : Except EvalError α) : Evaluation α :=
  ExceptT.mk (pure r)

mutual

/-- Evaluates a tree: operands from left to right, the target of a call before
    its arguments, the right side of an assignment before the binding. -/
def eval : Expr → Evaluation Value
  | absent => throw .missingNode
  | literal value fallback _ => pureOutcome (literalValue value fallback)
  | var name _ => do pureOutcome (variableValue (← get) name)
  | group body _ => body.eval
  | unary op operand _ =>
    if operand.isAbsent || !op.isTruthy then throw .incompleteUnary
    else do
      let v ← operand.eval
      pureOutcome (unaryValue op v)
  | binary op left right _ =>
    if left.isAbsent || right.isAbsent || !op.isTruthy then throw .incompleteBinary
    else do
      match ← pureOutcome (operatorOf op) with
      | .and =>
        let a ← left.eval
        if a.isTruthy then right.eval else return a
      | .or =>
        let a ← left.eval
        if a.isTruthy then return a else right.eval
      | op =>
        let a ← left.eval
        let b ← right.eval
        return (← pureOutcome (applyBinary op a b)).normalize
  | assign name value _ =>
    if !name.isTruthy then throw .missingAssignmentName
    else do
      let v ← value.eval
      set (← pureOutcome (bind name v (← get)))
      return v
  | call name args _ => do
    let dotted ← pureOutcome (calleeName name)
    let f ← pureOutcome (target (← get) dotted)
    let vs ← evalArguments args
    pureOutcome (callValue dotted f vs)

/-- Evaluates arguments from left to right. -/
def evalArguments : List Expr → Evaluation (List Value)
  | [] => return []
  | a :: rest => do
    let v ← a.eval
    let vs ← evalArguments rest
    return v :: vs

end

/-- The outcome of a tree in a scope, and the final scope. -/
def evaluate (e : Expr) (s : Scope) : Except EvalError Value × Scope :=
  e.eval.run s

end Expr
end TokenFormula
