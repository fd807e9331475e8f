import TokenFormula.Builtin
import TokenFormula.Expr.Basic
import TokenFormula.Source.Literal
import TokenFormula.Value.Text

/-!
# Expressions as formula text

Printing puts every binary operation and every negative number into
parentheses. A node that lacks a part has no text.

Results:
* `Expr.code`: a tree as formula text, or why it has none.
* `Expr.render`: as `code`; a variable at the root gives its name as it is.
-/

namespace TokenFormula

/-- Why a tree has no text. -/
inductive PrintError where
  | missingNode
  | incompleteBinary
  | incompleteUnary
  | missingVariableName
  | missingValue
  | missingFunctionName
  | incompleteAssignment
  | missingBody
  /-- A name or value cannot be written. -/
  | fault (f : Fault)
deriving DecidableEq, Repr

/-- The text of an error. -/
def PrintError.message : PrintError → String
  | missingNode => "Invalid AST: missing node"
  | incompleteBinary => "Invalid binary operation: missing left, right, or operator"
  | incompleteUnary => "Invalid unary operation: missing operand or operator"
  | missingVariableName => "Invalid variable: missing variable name"
  | missingValue => "Invalid literal: missing value"
  | missingFunctionName => "Invalid function call: missing function name"
  | incompleteAssignment => "Invalid assignment: missing variable name or expression"
  | missingBody => "Invalid group: missing body expression"
  | fault f => f.message

namespace Expr

/-- A value inside a formula text. -/
def plainCode (v : Value) : Except PrintError String :=
  v.plain.mapError .fault

/-- The dotted names of constants, which are read without parentheses. -/
def isConstantName (s : String) : Bool :=
  mathTable.any fun p =>
    s == "Math." ++ p.1 && (match p.2 with | .num _ => true | _ => false)

/-- A number as formula text; a negative one in parentheses. -/
def numberCode (n : Number) : Except PrintError String := do
  let s ← n.text.mapError .fault
  return if s.toList.head? = some '-' then "(" ++ s ++ ")" else s

/-- The value of a literal as formula text. -/
def valueCode : Value → Except PrintError String
  | .null => .ok "null"
  | .bool b => .ok (if b then "true" else "false")
  | .num n => numberCode n
  | v => do return Source.quote (← plainCode v)

/-- The type of the name of an argument that is a variable whose name is no
    text. -/
def oddArgument? : Expr → Option String
  | var name _ => if name.isText then none else some name.typeName
  | _ => none

/-- The first argument that gives no text, with its place. -/
def firstOdd? (start : Nat) : List Expr → Option (Nat × String)
  | [] => none
  | a :: rest =>
    match a.oddArgument? with
    | some type => some (start, type)
    | none => firstOdd? (start + 1) rest

theorem firstOdd?_eq_none {args : List Expr} (h : ∀ a ∈ args, a.oddArgument? = none)
    (start : Nat) : firstOdd? start args = none := by
  induction args generalizing start with
  | nil => rfl
  | cons a rest ih =>
    rw [List.forall_mem_cons] at h
    rw [firstOdd?, h.1]
    exact ih h.2 (start + 1)

/-- The text of a call with the texts of its arguments. -/
def callCode (name : String) (codes : List String) : String :=
  name ++ "(" ++ ", ".intercalate codes ++ ")"

mutual

/-- A tree as formula text. -/
def code : Expr → Except PrintError String
  | absent => .error .missingNode
  | binary op left right _ =>
    if left.isAbsent || right.isAbsent || !op.isTruthy then .error .incompleteBinary
    else do
      let l ← left.code
      let o ← plainCode op
      let r ← right.code
      return "(" ++ l ++ " " ++ o ++ " " ++ r ++ ")"
  | unary op operand _ =>
    if operand.isAbsent || !op.isTruthy then .error .incompleteUnary
    else do
      let o ← plainCode op
      return o ++ (← operand.code)
  | var name _ => if name.isTruthy then plainCode name else .error .missingVariableName
  | literal none _ _ => .error .missingValue
  | literal (some v) _ _ => valueCode v
  | call name args _ =>
    if !name.isTruthy then .error .missingFunctionName
    else
      match name, args with
      | .text s, [] => .ok (if isConstantName s then s else callCode s [])
      | name, [] => .error (.fault (.noAttribute name.typeName "partition"))
      | name, args => do
        let codes ← argumentCodes args
        match firstOdd? 0 args with
        | some (place, type) => throw (.fault (.partNotText place type))
        | none => return callCode (← plainCode name) codes
  | assign name value _ =>
    if !name.isTruthy || value.isAbsent then .error .incompleteAssignment
    else do
      let n ← plainCode name
      return n ++ " = " ++ (← value.code)
  | group body _ =>
    if body.isAbsent then .error .missingBody else do return "(" ++ (← body.code) ++ ")"

/-- The texts of several arguments. -/
def argumentCodes : List Expr → Except PrintError (List String)
  | [] => .ok []
  | a :: rest => do
    let s ← a.code
    let ss ← argumentCodes rest
    return s :: ss

end

/-- A tree as formula text; a variable at the root gives its name as it is. -/
def render : Expr → Except PrintError Value
  | var name note => if name.isTruthy then .ok name else do return .text (← (var name note).code)
  | e => do return .text (← e.code)

end Expr
end TokenFormula
