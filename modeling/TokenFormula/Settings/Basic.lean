import TokenFormula.Expr.Validate

/-!
# Settings

What can be configured, with the values that hold where nothing is.

Results:
* `Settings`: the resolved settings.
* `Setting`: their names in the settings file and in the environment.
-/

namespace TokenFormula

/-- The resolved settings. -/
structure Settings where
  /-- The greatest score that validation does not report. -/
  complexityThreshold : Int
  /-- The variables that validation knows. -/
  recognized : List String
  /-- The start of the names of variables that are always there. -/
  systemStart : String
  /-- The most rounds of the optimizer. -/
  maxRounds : Int
  /-- The most values of an iteration range. -/
  maxIterations : Int
  /-- The language whose expressions of formulas are used. -/
  language : String
deriving DecidableEq, Repr

/-- The settings that hold where nothing is configured. -/
def Settings.default : Settings where
  complexityThreshold := 5
  recognized := ["n", "base", "exponent", "value", "value1", "value2"]
  systemStart := "system_"
  maxRounds := 10
  maxIterations := 10000
  language := "javascript"

/-- The validator of these settings. -/
def Settings.validator (s : Settings) : Validator where
  recognized := s.recognized
  systemStart := s.systemStart
  threshold := s.complexityThreshold

/-- The single settings. -/
inductive Setting where
  | complexityThreshold | recognized | systemStart | maxRounds | maxIterations | language
deriving DecidableEq, Repr

namespace Setting

/-- All settings, in the order in which they are resolved. -/
def all : List Setting :=
  [complexityThreshold, recognized, systemStart, maxRounds, maxIterations, language]

/-- The name of a setting in the settings file. -/
def key : Setting → String
  | complexityThreshold => "complexity_warning_threshold"
  | recognized => "recognized_variables"
  | systemStart => "system_variable_prefix"
  | maxRounds => "optimizer_max_rounds"
  | maxIterations => "max_iterations"
  | language => "expression_language"

/-- The setting with a name. -/
def ofKey? (key : String) : Option Setting :=
  all.find? fun s => s.key == key

/-- The name of a setting in the environment. -/
def environmentKey : Setting → String
  | complexityThreshold => "ALGOENGINE_COMPLEXITY_WARNING_THRESHOLD"
  | recognized => "ALGOENGINE_RECOGNIZED_VARIABLES"
  | systemStart => "ALGOENGINE_SYSTEM_VARIABLE_PREFIX"
  | maxRounds => "ALGOENGINE_OPTIMIZER_MAX_ROUNDS"
  | maxIterations => "ALGOENGINE_MAX_ITERATIONS"
  | language => "ALGOENGINE_EXPRESSION_LANGUAGE"

end Setting

/-- The environment variable that names the directory of the project. -/
def projectRootKey : String := "ALGOENGINE_PROJECT_ROOT"

end TokenFormula
