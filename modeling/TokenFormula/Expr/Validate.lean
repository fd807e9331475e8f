import TokenFormula.Expr.Complexity
import TokenFormula.Value.Text

/-!
# Validation

Checks of a tree: every part that a node needs must be there; a division by a
literal zero, an unknown variable, a fallback and a large subtree are suspicious.
All nodes are checked for missing parts first, then all for what is suspicious.

Results:
* `Expr.partIssues`: the missing parts of one node.
* `Expr.warnings`: what is suspicious at one node.
* `Validator.validate`: all issues of a tree. It fails only where a variable
  has a name that is no text.
-/

namespace TokenFormula

/-- How bad an issue is. -/
inductive Severity where
  /-- The tree is malformed. -/
  | error
  /-- The tree is usable but suspicious. -/
  | warning
deriving DecidableEq, Repr

/-- The name of a severity. -/
def Severity.name : Severity → String
  | error => "error"
  | warning => "warning"

/-- Something found in a tree. -/
structure Finding where
  severity : Severity
  message : String
  /-- The kind of the node, if there is one. -/
  node? : Option String
deriving DecidableEq, Repr

/-- The start of the text of a warning. -/
def warningMark : String := "Warning:"

/-- A finding as text. -/
def Finding.text (f : Finding) : String :=
  match f.severity with
  | .warning => warningMark ++ " " ++ f.message
  | .error => f.message

/-- The text is that of a warning. -/
def isWarning (s : String) : Bool :=
  warningMark.toList.isPrefixOf s.toList

/-- The findings of a severity. -/
def Findings.of (severity : Severity) (fs : List Finding) : List Finding :=
  fs.filter (·.severity == severity)

/-- What counts as known and as simple. -/
structure Validator where
  /-- Variables that may be used. -/
  recognized : List String
  /-- The start of the names of variables that are always there. -/
  systemStart : String
  /-- The greatest score that is not reported. -/
  threshold : Int

namespace Expr

/-! ## Missing parts -/

/-- The messages for what one node lacks. -/
def missingParts : Expr → List String
  | absent => []
  | binary op left right _ =>
    if left.isAbsent || right.isAbsent || !op.isTruthy then
      ["Invalid binary expression: missing left, right, or operator"]
    else []
  | unary op operand _ =>
    if operand.isAbsent || !op.isTruthy then
      ["Invalid unary expression: missing operand or operator"]
    else []
  | call name args _ =>
    (if name.isTruthy then [] else ["Invalid function call: missing function name"]) ++
      (if args.any isAbsent then ["Invalid function call: missing argument"] else [])
  | var name _ => if name.isTruthy then [] else ["Invalid variable: missing variable name"]
  | literal value _ _ => if value.isSome then [] else ["Invalid literal: missing value"]
  | assign name value _ =>
    (if name.isTruthy then [] else ["Invalid assignment: missing variable name"]) ++
      (if value.isAbsent then ["Invalid assignment: missing expression"] else [])
  | group body _ => if body.isAbsent then ["Invalid group: missing body expression"] else []

/-- The missing parts of one node as findings. -/
def partFindings (e : Expr) : List Finding :=
  e.missingParts.map fun m => ⟨.error, m, some e.kindName⟩

mutual

/-- The missing parts in a tree, each node before its children. -/
def structureFindings (e : Expr) : List Finding :=
  e.partFindings ++
    match e with
    | absent | var .. | literal .. => []
    | binary _ a b _ => a.structureFindings ++ b.structureFindings
    | unary _ a _ | assign _ a _ | group a _ => a.structureFindings
    | call _ args _ => structureFindingsOf args

/-- The missing parts in several trees. -/
def structureFindingsOf : List Expr → List Finding
  | [] => []
  | e :: rest => e.structureFindings ++ structureFindingsOf rest

end

/-! ## Warnings -/

/-- A division by a literal zero. -/
def divisionWarning : Expr → List String
  | binary (.text "/") _ right _ =>
    if right.isInteger 0 then ["Division by zero detected"] else []
  | _ => []

/-- A variable that is not known. Its name must be a text. -/
def variableWarning (v : Validator) : Expr → Except Fault (List String)
  | var name _ =>
    if !name.isTruthy then .ok []
    else
      match name with
      | .text s =>
        if s ∈ v.recognized || v.systemStart.toList.isPrefixOf s.toList then .ok []
        else .ok ["Variable '" ++ s ++ "' may be undefined"]
      | name =>
        if name.isHashable then .error (.noAttribute name.typeName "startswith")
        else .error (.unhashable name.typeName)
  | _ => .ok []

/-- A construct that expressions do not model. -/
def fallbackWarning : Expr → List String
  | literal _ true _ => ["Unsupported expression construct kept as an opaque literal"]
  | _ => []

/-- An operation or call with a large score. -/
def scoreWarning (v : Validator) (e : Expr) : List String :=
  match e with
  | binary .. | call .. =>
    if v.threshold < e.score then
      ["Complex expression detected (complexity: " ++ toString e.score ++
        "). Consider breaking into smaller parts."]
    else []
  | _ => []

/-- What is suspicious at one node. -/
def warnings (v : Validator) (e : Expr) : Except Fault (List Finding) := do
  let unknown ← e.variableWarning v
  return (e.divisionWarning ++ unknown ++ e.fallbackWarning ++ e.scoreWarning v).map fun m =>
    ⟨.warning, m, some e.kindName⟩

mutual

/-- What is suspicious in a tree, each node before its children. -/
def warningFindings (v : Validator) (e : Expr) : Except Fault (List Finding) := do
  let own ← e.warnings v
  let inner ← match e with
    | absent | var .. | literal .. => pure []
    | binary _ a b _ => do
      let fs ← a.warningFindings v
      let gs ← b.warningFindings v
      pure (fs ++ gs)
    | unary _ a _ | assign _ a _ | group a _ => a.warningFindings v
    | call _ args _ => warningFindingsOf v args
  return own ++ inner

/-- What is suspicious in several trees. -/
def warningFindingsOf (v : Validator) : List Expr → Except Fault (List Finding)
  | [] => .ok []
  | e :: rest => do
    let fs ← e.warningFindings v
    let gs ← warningFindingsOf v rest
    return fs ++ gs

end

/-- The errors that the note at the root lists. -/
def noteFindings (e : Expr) : Except Fault (List Finding) :=
  e.notedErrors.mapM fun m => do
    return ⟨.error, "Parse error: " ++ (← m.plain), some e.kindName⟩

end Expr

/-- The finding for a value that is no tree. -/
def notTree : Finding :=
  ⟨.error, "Invalid AST structure: AST must be a node", none⟩

/-- All findings of a tree: the errors of its note, missing parts, warnings. -/
def Validator.validate (v : Validator) (e : Expr) : Except Fault (List Finding) :=
  if e.isAbsent then .ok [notTree]
  else do
    let noted ← e.noteFindings
    let suspicious ← e.warningFindings v
    return noted ++ e.structureFindings ++ suspicious

/-- There is no error among the findings. -/
def Findings.valid (fs : List Finding) : Bool :=
  (Findings.of .error fs).isEmpty

end TokenFormula
