import TokenFormula.Algorithm.Input
import TokenFormula.Expr.Data
import TokenFormula.Expr.Eval
import TokenFormula.Expr.Parse
import TokenFormula.Record.Scalar
import TokenFormula.Settings.Basic

/-!
# Running an algorithm

A run evaluates the steps of an algorithm in order, for one iteration value, in
a scope of its own. A step whose target is missing is skipped with a warning;
the first step that fails ends the run.

Results:
* `Algorithm.scope`: the scope at the start of a run.
* `Algorithm.runStep`: one step in a scope.
* `Algorithm.run`: all steps.
-/

namespace TokenFormula

/-- The name of the iteration value in a scope. -/
def iterationName : String := "n"

/-! ## The scope -/

/-- Binds a variable under its name, with its id as an alias; a variable without
    a name is bound under its id. -/
def Scope.declare (s : Scope) (v : Variable) (value : Value) : Scope :=
  let key := if v.name.isEmpty then v.id else v.name
  let s := s.set key value
  if v.name.isEmpty || v.id.isEmpty then s else s.addAlias v.id v.name

/-- Binds the variables that have a name or an id. -/
def Scope.declareAll (modes : Modes) : Scope → List Variable → Except Fault Scope
  | s, [] => .ok s
  | s, v :: rest =>
    if v.name.isEmpty && v.id.isEmpty then declareAll modes s rest
    else do declareAll modes (s.declare v (← v.value modes)) rest

/-- The scope at the start of a run: the variables, then what the caller gives
    except for the iteration value, then the iteration value and the tables of
    functions. -/
def Algorithm.scope (a : Algorithm) (iteration : Value) (context : Entries Value)
    (modes : Modes) : Except Fault Scope := do
  let s ← Scope.empty.declareAll modes a.variables
  let given := context.filter fun p => p.1 != iterationName
  return ((s.setAll given).set iterationName iteration).withTables

/-! ## Errors -/

/-- Why a formula or condition has no value. -/
inductive SourceError where
  /-- The formula has no expression in the language. -/
  | noExpression (language formula : String)
  /-- The stored tree cannot be rebuilt. -/
  | unreadable (cause : Fault)
  /-- The stored tree is malformed. -/
  | invalid (errors : List String)
  /-- The text is outside the grammar. -/
  | outside (errors : List String)
  | evaluation (cause : EvalError)
deriving DecidableEq, Repr

/-- The text of an error. -/
def SourceError.message : SourceError → String
  | noExpression language formula =>
    "No " ++ language ++ " expression for formula '" ++ formula ++ "'"
  | unreadable cause => "Stored AST is unreadable: " ++ cause.message
  | invalid errors => "Stored AST is invalid: " ++ "; ".intercalate errors
  | outside errors => "; ".intercalate errors
  | evaluation cause => cause.message

/-- The step that failed in a run, with the iteration value at that point. -/
structure StepFailure where
  message : String
  algorithm : String
  iteration : Value
  step : String

/-- Why a run has no result. -/
inductive RunError where
  | step (f : StepFailure)
  /-- A fault that is not laid to a step. -/
  | escaped (cause : Fault)
  /-- The result of the run is no valid record. -/
  | invalid (issues : List Issue)

/-! ## Trees of formulas -/

/-- The errors noted in a tree, as texts. -/
def Expr.errorTexts (e : Expr) : List String :=
  Expr.textsOf e.notedErrors

/-- The tree of a text inside the grammar. -/
def parseChecked (source : String) : Except SourceError Expr :=
  let e := Expr.parse source
  if e.notedErrors.isEmpty then .ok e else .error (.outside e.errorTexts)

/-- Lays a fault to a stored tree that cannot be rebuilt, unless it is of a class
    that is not expected there. -/
def unreadableTree (f : Fault) : Except Fault SourceError :=
  match f.family with
  | .value | .type | .key => .ok (.unreadable f)
  | _ => .error f

/-- A tree or the reason why there is none; the outer error is not laid to the
    formula. -/
abbrev Sourced (α : Type) := Except Fault (Except SourceError α)

/-- The tree of stored data, if it has no error. The validator is that of the
    settings of the run, while the program takes that of its global settings, which
    are taken to be readable here. Validators differ in warnings only, and only errors
    count. -/
def storedTree (v : Validator) (entries : Entries Value) : Sourced Expr :=
  match Expr.ofData (.dict entries) with
  | .error f => (unreadableTree f).map .error
  | .ok e =>
    match v.validate e with
    | .error f => .error f
    | .ok findings =>
      let errors := Findings.of .error findings
      .ok (if errors.isEmpty then .ok e else .error (.invalid (errors.map Finding.text)))

/-- The tree of a formula: the stored one where there is one, else that of its
    text. -/
def Formula.tree (f : Formula) (settings : Settings) : Sourced Expr :=
  match f.expression? settings.language with
  | none => .ok (.error (.noExpression settings.language f.name))
  | some expression =>
    match expression.tree? with
    | some entries => storedTree settings.validator entries
    | none => .ok (parseChecked expression.source)

/-! ## Steps -/

/-- What is left after a computation in a scope. -/
structure StepResult (α : Type) where
  outcome : Except RunError α
  scope : Scope
  /-- The warnings, in order. -/
  warnings : List String

/-- What a step runs. -/
structure Target where
  /-- The start of the message of a failure. -/
  failureText : String
  name : String
  tree : Sourced Expr
  /-- What the step makes of the value. A fault is not laid to the step. -/
  result : Value → Except Fault Value

/-- A value that a formula assigns at its root is shown in the journal, and so
    must have a text. -/
def recordAssigned (tree : Sourced Expr) (v : Value) : Except Fault Value :=
  match tree with
  | .ok (.ok (.assign name _ _)) => do
    let _ ← name.plain
    let _ ← v.display
    return v
  | _ => .ok v

/-- The value of a tree in a scope. -/
def evaluateSourced (tree : Sourced Expr) (scope : Scope) :
    Except Fault (Except SourceError Value) × Scope :=
  match tree with
  | .error f => (.error f, scope)
  | .ok (.error e) => (.ok (.error e), scope)
  | .ok (.ok e) =>
    match e.evaluate scope with
    | (.ok v, scope) => (.ok (.ok v), scope)
    | (.error (.escaped f), scope) => (.error f, scope)
    | (.error e, scope) => (.ok (.error (.evaluation e)), scope)

namespace Algorithm

/-- What a step refers to, or the warning about a step that is skipped. -/
def target (a : Algorithm) (settings : Settings) (s : Step) : Except String Target :=
  let skip (what : String) := "Step '" ++ s.name ++ "': " ++ what ++ " '" ++ s.id ++
    "' not found, skipping"
  match s.type? with
  | some .formula =>
    match a.formula? s.id with
    | some f =>
      let tree := f.tree settings
      .ok ⟨"Formula execution failed for ", f.name, tree, recordAssigned tree⟩
    | none => .error (skip "formula")
  | some .condition =>
    match a.condition? s.id with
    | some c =>
      .ok ⟨"Condition evaluation failed for ", c.name, .ok (parseChecked c.source),
        fun v => .ok (.bool v.isTruthy)⟩
    | none => .error (skip "condition")
  | none => .error ("Step '" ++ s.name ++ "' has unknown type None, skipping")

/-- Runs one step: its value, or none where it is skipped. A failure names the
    target and the iteration value that the scope holds then. -/
def runStep (a : Algorithm) (settings : Settings) (s : Step) (scope : Scope) :
    StepResult (Option Value) :=
  match a.target settings s with
  | .error warning => ⟨.ok none, scope, [warning]⟩
  | .ok t =>
    match evaluateSourced t.tree scope with
    | (.error f, scope) => ⟨.error (.escaped f), scope, []⟩
    | (.ok (.error e), scope) =>
      ⟨.error (.step ⟨t.failureText ++ t.name ++ ": " ++ e.message, a.id,
        Value.ofOption (scope.get? iterationName), t.name⟩), scope, []⟩
    | (.ok (.ok v), scope) =>
      match t.result v with
      | .ok r => ⟨.ok (some r), scope, []⟩
      | .error f => ⟨.error (.escaped f), scope, []⟩

/-! ## Runs -/

/-- The results so far and the value of the last formula. -/
structure Progress where
  results : Entries Value
  final : Value

/-- The progress after a step with a result. -/
def advance (a : Algorithm) (s : Step) (v : Value) (p : Progress) : Progress :=
  ⟨p.results.set (a.targetName s) v, if s.type? = some .formula then v else p.final⟩

/-- Runs steps in order up to the first that fails. -/
def runSteps (a : Algorithm) (settings : Settings) :
    List Step → Progress → Scope → StepResult Progress
  | [], p, scope => ⟨.ok p, scope, []⟩
  | s :: rest, p, scope =>
    match a.runStep settings s scope with
    | ⟨.error e, scope, warnings⟩ => ⟨.error e, scope, warnings⟩
    | ⟨.ok none, scope, warnings⟩ =>
      let r := runSteps a settings rest p scope
      { r with warnings := warnings ++ r.warnings }
    | ⟨.ok (some v), scope, warnings⟩ =>
      let r := runSteps a settings rest (a.advance s v p) scope
      { r with warnings := warnings ++ r.warnings }

end Algorithm

/-- The outcome of a run. -/
structure Run where
  /-- The final bindings, the tables of functions left out. -/
  «variables» : Entries Value
  /-- The results of the steps by the names of their targets. -/
  results : Entries Value
  iteration : Number
  /-- The value of the last formula; null where there is none. -/
  final : Value

/-- The bindings without the tables of functions. -/
def Scope.ownBindings (s : Scope) : Entries Value :=
  s.values.filter fun p => !isTableName p.1

/-- The place of a binding that is no text, in a record of bindings: a small
    integer stands for itself, any other value for its text. -/
def unnamedPlace (key : Value) : Place :=
  let shown := Place.key (match key.plain with | .ok s => s | .error _ => "")
  match key.number? with
  | some (.int n) => if -(2 ^ 63 : Int) ≤ n && n < 2 ^ 63 then .item n else shown
  | _ => shown

/-- The issues of bindings that are no texts. -/
def Scope.unnamedIssues (s : Scope) : List Issue :=
  s.unnamed.map fun p =>
    ⟨[.key "variables", unnamedPlace p.1, .key "[key]"], .textExpected⟩

/-- The record of a finished run; the iteration value must be a number, and the
    bindings must have names. -/
def Run.ofProgress (p : Algorithm.Progress) (iteration : Value) (s : Scope) : Except RunError Run :=
  let issues := s.unnamedIssues
  match (PartReader.number iteration).within (.key "iteration_value") with
  | .bad more => .error (.invalid (issues ++ more))
  | .ok n =>
    if issues.isEmpty then .ok ⟨s.ownBindings, p.results, n, p.final⟩
    else .error (.invalid issues)

/-- The scope at the start of a run that is shown in the journal: the iteration
    value must have a text. -/
def Algorithm.recordedScope (a : Algorithm) (iteration : Value) (context : Entries Value)
    (modes : Modes) : Except Fault Scope := do
  let _ ← iteration.plain
  a.scope iteration context modes

/-- Runs an algorithm for one iteration value; gives the outcome and the
    warnings. -/
def Algorithm.run (a : Algorithm) (settings : Settings) (iteration : Value)
    (context : Entries Value) (modes : Modes) : Except RunError Run × List String :=
  match a.recordedScope iteration context modes with
  | .error f => (.error (.escaped f), [])
  | .ok scope =>
    match a.runSteps settings a.steps ⟨[], .null⟩ scope with
    | ⟨.error e, _, warnings⟩ => (.error e, warnings)
    | ⟨.ok p, scope, warnings⟩ => (Run.ofProgress p iteration scope, warnings)

end TokenFormula
