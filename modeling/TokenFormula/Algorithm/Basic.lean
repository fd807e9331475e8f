import TokenFormula.Value.Basic

/-!
# Algorithms

An algorithm declares variables, formulas and conditions; its steps name the
formulas and conditions in the order in which they run. It may generate a
series of tokens over a range of iteration values.

Results:
* `Algorithm.formula?`, `Algorithm.condition?`: what a step refers to.
* `Formula.expression?`: the expression of a formula in a language.
-/

namespace TokenFormula

/-- The declared type of a variable. -/
inductive VariableType where
  | number | text | boolean | color
deriving DecidableEq, Repr

/-- The name of a type. -/
def VariableType.name : VariableType → String
  | number => "number"
  | text => "string"
  | boolean => "boolean"
  | color => "color"

/-- The type with a name. -/
def VariableType.ofName? (s : String) : Option VariableType :=
  [number, text, boolean, color].find? (·.name == s)

/-- What a step refers to. -/
inductive StepType where
  | formula | condition
deriving DecidableEq, Repr

/-- The name of a type of steps. -/
def StepType.name : StepType → String
  | formula => "formula"
  | condition => "condition"

/-- The type of steps with a name. -/
def StepType.ofName? (s : String) : Option StepType :=
  [formula, condition].find? (·.name == s)

/-- A named input. Its value may depend on the active mode of a dimension. -/
structure Variable where
  id : String
  name : String
  type? : Option VariableType
  default : Value
  description? : Option String
  modeBased : Bool
  dimension? : Option String
  byMode? : Option (Entries Value)

/-- The text of a formula in one language, with its stored tree, if it has one. -/
structure FormulaText where
  source : String
  tree? : Option (Entries Value)

/-- A named expression, by language. -/
structure Formula where
  id : String
  name : String
  description? : Option String
  expressions : Entries FormulaText

/-- A named truth condition. -/
structure Condition where
  id : String
  name : String
  source : String

/-- A reference to a formula or condition. -/
structure Step where
  type? : Option StepType
  id : String
  name : String

/-- The iteration values `first`, `first + step`, … up to `last`. -/
structure IterationRange where
  first : Number
  last : Number
  step : Number

/-- Whether and over which range tokens are generated. -/
structure TokenGeneration where
  enabled : Bool
  range : IterationRange

/-- Variables, formulas and conditions with the steps that order them. -/
structure Algorithm where
  id : String
  name : String
  description? : Option String
  /-- The type of values that the results stand for. -/
  valueType : String
  «variables» : List Variable
  formulas : List Formula
  conditions : List Condition
  steps : List Step
  generation? : Option TokenGeneration

/-- The expression of a formula in a language. -/
def Formula.expression? (f : Formula) (language : String) : Option FormulaText :=
  f.expressions.get? language

/-- The text of a formula in a language; empty where there is none. -/
def Formula.sourceIn (f : Formula) (language : String) : String :=
  ((f.expression? language).map FormulaText.source).getD ""

namespace Algorithm

/-- The first formula with an id. -/
def formula? (a : Algorithm) (id : String) : Option Formula :=
  a.formulas.find? (·.id == id)

/-- The first condition with an id. -/
def condition? (a : Algorithm) (id : String) : Option Condition :=
  a.conditions.find? (·.id == id)

/-- The name of what a step refers to; its own name where that is missing. -/
def targetName (a : Algorithm) (s : Step) : String :=
  match s.type? with
  | some .formula => ((a.formula? s.id).map Formula.name).getD s.name
  | some .condition => ((a.condition? s.id).map Condition.name).getD s.name
  | none => s.name

/-- The name of the last step that refers to a formula. -/
def lastFormulaName (a : Algorithm) : String :=
  match a.steps.reverse.find? (·.type? == some .formula) with
  | some s => s.name
  | none => "Unknown"

end Algorithm
end TokenFormula
